import WikiMarkup.Markdown.Construct
import WikiMarkup.Markdown.Source
import WikiMarkup.Text.Blank
import WikiMarkup.Text.Punctuation

/-!
Emphasis. A run of asterisks, underscores or tildes may open emphasis, close it, or both, as its two
neighbours allow. Runs are paired from the left: each closing run takes the nearest opening run that
goes with it, and all runs between the two become text.
-/

namespace WikiMarkup.Markdown

def spanFrom (start stop : Nat) : Span := ⟨start.toUInt64, stop.toUInt64⟩

/-- A run of delimiters. As its delimiters are paired off, an opening run loses them from its end
and a closing run from its start. -/
structure Run where
  char : Char
  /-- Byte offset of the first delimiter that is left. -/
  start : Nat
  /-- How many delimiters are left. -/
  count : Nat
  length : Nat
  opens : Bool
  closes : Bool

/-- An opening bracket that waits for its closing bracket. -/
structure Bracket where
  image : Bool
  /-- Whether a link may begin here; inside the text of a link none may. -/
  active : Bool
  start : Nat
  /-- The source behind the bracket. -/
  inside : List Glyph

inductive Piece where
  | settled (c : Construct)
  | run (r : Run)
  | bracket (b : Bracket)

/-- Delimiters that are left over as plain text. -/
def Run.text (r : Run) : Construct :=
  .text (List.replicate r.count r.char) (spanFrom r.start (r.start + r.count))

/-- A bracket that is left over as plain text. -/
def Bracket.text (b : Bracket) : Construct :=
  let chars := if b.image then ['!', '['] else ['[']
  .text chars (spanFrom b.start (b.start + chars.length))

/-- A piece that came to nothing but text. -/
def Piece.settle : Piece → Construct
  | settled c => c
  | run r => r.text
  | bracket b => b.text

/-- The neighbour of a run; the edge of the text counts as white space. -/
inductive Neighbour where
  | blank
  | punctuation
  | other
  deriving DecidableEq

def Neighbour.of : Option Char → Neighbour
  | none => blank
  | some c => if Text.isBlank c then blank else if Text.isPunctuation c then punctuation else other

/-- Whether text follows a run more closely than it precedes it. -/
def leansRight (before after : Neighbour) : Bool :=
  after = .other || (after = .punctuation && before ≠ .other)

/-- A run of delimiters between two neighbours. Underscores, and a
single tilde, do not work inside words. -/
def Run.ofNeighbours (char : Char) (start count : Nat) (before after : Neighbour) : Run :=
  let left := leansRight before after
  let right := leansRight after before
  let (opens, closes) :=
    if char = '_' then (left && before ≠ .other, right && after ≠ .other)
    else if char = '~' then
      (after ≠ .blank && (1 < count || before ≠ .other),
        before ≠ .blank && ((1 < count && before = .other) || after ≠ .other))
    else (left, right)
  ⟨char, start, count, count, opens, closes⟩

/-- Whether an opening run goes with a closing run. Tildes pair only in equal numbers. Of runs that
could do both, the lengths together must not be a multiple of three unless each of them is one. -/
def Run.pairsWith (opener closer : Run) : Bool :=
  opener.opens && opener.char = closer.char &&
    if closer.char = '~' then opener.length = closer.length
    else !((opener.closes || closer.opens) && closer.length % 3 ≠ 0
      && (opener.length + closer.length) % 3 = 0)

/-- Looks for the run that a closing run pairs with, from the nearest piece outwards: what stands
between the two, the opening run, and the pieces outside it. -/
def findOpener? (closer : Run) (inside : List Construct) :
    List Piece → Option (List Construct × Run × List Piece)
  | [] => none
  | .run r :: outer =>
      if r.pairsWith closer then some (inside, r, outer)
      else findOpener? closer (r.text :: inside) outer
  | piece :: outer => findOpener? closer (piece.settle :: inside) outer

def pairedCount (opener closer : Run) : Nat :=
  if closer.char = '~' then closer.count
  else if 2 ≤ opener.count ∧ 2 ≤ closer.count then 2
  else 1

private theorem pairedCount_pos (opener closer : Run) (h : 0 < closer.count) :
    0 < pairedCount opener closer := by
  unfold pairedCount
  split
  · exact h
  · split <;> omega

def emphasisTag (char : Char) (count : Nat) : Tag :=
  if char = '~' then .strikethrough else if count = 2 then .strong else .emphasis

/-- Pairs a run with as many open runs as it can close, and adds what
is left of it to the pieces. -/
def closeRun (closer : Run) (pieces : List Piece) : List Piece :=
  if closer.count = 0 then pieces
  else
    match findOpener? closer [] pieces with
    | none => (if closer.opens then .run closer else .settled closer.text) :: pieces
    | some (inside, opener, outer) =>
        let count := pairedCount opener closer
        let emphasis := Construct.around (emphasisTag closer.char count)
          (spanFrom (opener.start + opener.count - count) (closer.start + count))
          (Construct.mergeTexts inside)
        let outer :=
          if opener.count ≤ count then outer
          else .run { opener with count := opener.count - count } :: outer
        closeRun { closer with start := closer.start + count, count := closer.count - count }
          (.settled emphasis :: outer)
  termination_by closer.count
  decreasing_by
    have := pairedCount_pos opener closer (by omega)
    show closer.count - pairedCount opener closer < closer.count
    omega

/-- Adds a piece to the pieces before it, nearest first. -/
def addPiece (pieces : List Piece) : Piece → List Piece
  | .run r => if r.closes then closeRun r pieces else .run r :: pieces
  | piece => .settled piece.settle :: pieces

/-- The constructs that pieces come to, in order; brackets and runs
that found no partner are text. -/
def resolvePieces (pieces : List Piece) : List Construct :=
  Construct.mergeTexts ((pieces.foldl addPiece []).reverse.map Piece.settle)

end WikiMarkup.Markdown
