import WikiMarkup.Markdown.Inline.Code
import WikiMarkup.Markdown.Inline.Emphasis
import WikiMarkup.Markdown.Inline.Html
import WikiMarkup.Markdown.Inline.Link

/-!
The constructs within a line of text. The source is read once from left to right. Code, HTML,
addresses in angle brackets, escapes and breaks are settled as they are met; runs of delimiters and
opening brackets are noted and settled later, brackets at their closing bracket and all else at the
end. So code and HTML bind tighter than links, and links tighter than emphasis.
-/

namespace WikiMarkup.Markdown

/-- The byte offset behind the source up to `further` characters after the first. -/
def stopAfter (first : Glyph) (rest : List Glyph) (further : Nat) : Nat :=
  ((rest.take further).getLast?.getD first).stop

def isLineSpace (c : Char) : Bool := c = ' ' || c = '\t' || c = '\x0b' || c = '\x0c'

/-- Characters that may begin something other than plain text. -/
def isMarkup (c : Char) : Bool :=
  isLineSpace c || c = backtick || "\n\\&<*_~[]!".toList.contains c

/-- What was read: the pieces so far, nearest first, and how many
characters after the first were taken. -/
structure Reading where
  pieces : List Piece
  further : Nat

/-- Adds a text that covers the first character and `further` ones after it. -/
def readText (pieces : List Piece) (content : List Char) (first : Glyph) (rest : List Glyph)
    (further : Nat) : Reading :=
  let span := spanFrom first.start (stopAfter first rest further)
  ⟨.settled (.text content span) :: pieces, further⟩

/-- Adds a single event that covers the first character and `further` ones after it. -/
def readLeaf (pieces : List Piece) (event : Event) (first : Glyph) (rest : List Glyph)
    (further : Nat) : Reading :=
  let span := spanFrom first.start (stopAfter first rest further)
  ⟨.settled (.leaf event span) :: pieces, further⟩

/-- Reads white space within a line. Before a newline it belongs to the break, which is a hard one
after two spaces; at the end of the text it is dropped. -/
def readSpaces (pieces : List Piece) (first : Glyph) (rest : List Glyph) : Reading :=
  let spaces := rest.takeWhile (isLineSpace ·.char)
  let further := spaces.length
  let chars := first.char :: charsOf spaces
  match rest.drop further with
  | [] => ⟨pieces, further⟩
  | next :: _ =>
      if next.char = '\n' then
        if [' ', ' '].isPrefixOf chars.reverse then
          readLeaf pieces .hardBreak first rest (further + 1)
        else ⟨.settled (.leaf .softBreak (spanFrom next.start next.stop)) :: pieces, further + 1⟩
      else readText pieces chars first rest further

/-- Reads a backslash: before a newline it is a hard break, before ASCII punctuation it makes plain
text of it. -/
def readBackslash (pieces : List Piece) (first : Glyph) (rest : List Glyph) : Reading :=
  match rest with
  | [] => readText pieces ['\\'] first rest 0
  | next :: _ =>
      if next.char = '\n' then readLeaf pieces .hardBreak first rest 1
      else if Text.isAsciiPunctuation next.char then
        ⟨.settled (.text [next.char] (spanFrom next.start next.stop)) :: pieces, 1⟩
      else readText pieces ['\\'] first rest 0

/-- Reads an ampersand: a character reference, or itself. -/
def readAmpersand (pieces : List Piece) (first : Glyph) (rest : List Glyph) : Reading :=
  match Text.entity? (charsOf rest) with
  | some (value, after) => readText pieces value first rest (rest.length - after.length)
  | none => readText pieces ['&'] first rest 0

/-- Reads a backtick: a code span, or all backticks in a row. -/
def readBacktick (pieces : List Piece) (first : Glyph) (rest : List Glyph) : Reading :=
  let chars := charsOf rest
  let further := backticks chars
  match codeUntil? (further + 1) [] (chars.drop further) with
  | some (code, after) =>
      readLeaf pieces (.code (String.ofList (codeContent code))) first rest
        (rest.length - after.length)
  | none => readText pieces (List.replicate (further + 1) backtick) first rest further

/-- Reads an angle bracket: an address, a piece of HTML, or itself. -/
def readAngle (pieces : List Piece) (first : Glyph) (rest : List Glyph) : Reading :=
  let chars := charsOf rest
  match autolink? chars with
  | some (address, after) =>
      let further := rest.length - after.length
      let span := spanFrom first.start (stopAfter first rest further)
      let shown := Construct.text address (spanFrom first.stop (stopAfter first rest (further - 1)))
      ⟨.settled (.around (.link (String.ofList address) "") span [shown]) :: pieces, further⟩
  | none =>
      match html? chars with
      | some after =>
          let further := rest.length - after.length
          let tag := String.ofList ('<' :: chars.take further)
          readLeaf pieces (.inlineHtml tag) first rest further
      | none => readText pieces ['<'] first rest 0

/-- Reads a run of asterisks, underscores or tildes. Three tildes or more are text. -/
def readRun (pieces : List Piece) (before : Option Char) (first : Glyph) (rest : List Glyph) :
    Reading :=
  let further := (rest.takeWhile (·.char = first.char)).length
  let after := (rest.drop further).head?.map (·.char)
  if first.char = '~' && 2 ≤ further then
    readText pieces (List.replicate (further + 1) '~') first rest further
  else
    let run := Run.ofNeighbours first.char first.start (further + 1) (.of before) (.of after)
    ⟨.run run :: pieces, further⟩

/-- The pieces after the last bracket that is open, the bracket, and the pieces before it. -/
def splitAtBracket? (inside : List Piece) :
    List Piece → Option (List Piece × Bracket × List Piece)
  | [] => none
  | .bracket b :: outer => some (inside, b, outer)
  | piece :: outer => splitAtBracket? (piece :: inside) outer

/-- After a link, no bracket before it can begin another link. -/
def deactivate : Piece → Piece
  | .bracket b => .bracket { b with active := b.image && b.active }
  | piece => piece

/-- The target of a label that is itself the text of the link; a bracket in it needs an escape. -/
def textTarget? (references : List Reference) (text : List Char) : Option Target :=
  match bracketedLabel? ('[' :: text ++ [']']) with
  | some (label, []) => findTarget? references label
  | _ => none

/-- The target of a link with a text, from what follows its closing bracket: a target in
parentheses, a label, or nothing, where the text is the label. Gives also how many characters the
target takes. -/
def linkTarget? (references : List Reference) (text after : List Char) : Option (Target × Nat) :=
  let direct : Option (Target × Nat) :=
    match after with
    | '(' :: inner =>
        (inlineTarget? inner).map fun (target, rest) => (target, after.length - rest.length)
    | _ => none
  direct.or <|
    match bracketedLabel? after with
    | some ([], _) => (textTarget? references text).map (·, 2)
    | some (label, rest) => (findTarget? references label).map (·, after.length - rest.length)
    | none => (textTarget? references text).map (·, 0)

/-- Reads a closing bracket: the end of a link or an image, or itself.
A bracket that opens nothing is text. -/
def readClosingBracket (references : List Reference) (pieces : List Piece) (first : Glyph)
    (rest : List Glyph) : Reading :=
  match splitAtBracket? [] pieces with
  | none => readText pieces [']'] first rest 0
  | some (inside, b, outer) =>
      let unmatched := readText (inside.reverse ++ .settled b.text :: outer) [']'] first rest 0
      if b.active then
        let text := charsOf (b.inside.take (b.inside.length - (rest.length + 1)))
        match linkTarget? references text (charsOf rest) with
        | none => unmatched
        | some (target, further) =>
            let span := spanFrom b.start (stopAfter first rest further)
            let content := resolvePieces inside
            if b.image then
              let image := Construct.around (.image target.url target.title) span content
              ⟨.settled image :: outer, further⟩
            else
              let link := Construct.around (.link target.url target.title) span content
              ⟨.settled link :: outer.map deactivate, further⟩
      else unmatched

/-- Reads what begins at a character; `before` is the character in front of it. -/
def readPiece (references : List Reference) (before : Option Char) (pieces : List Piece)
    (first : Glyph) (rest : List Glyph) : Reading :=
  match first.char with
  | '\n' => readLeaf pieces .softBreak first rest 0
  | '\\' => readBackslash pieces first rest
  | '&' => readAmpersand pieces first rest
  | '<' => readAngle pieces first rest
  | '*' | '_' | '~' => readRun pieces before first rest
  | '[' => ⟨.bracket ⟨false, true, first.start, rest⟩ :: pieces, 0⟩
  | ']' => readClosingBracket references pieces first rest
  | '!' =>
      match rest with
      | next :: inside =>
          if next.char = '[' then ⟨.bracket ⟨true, true, first.start, inside⟩ :: pieces, 1⟩
          else readText pieces ['!'] first rest 0
      | [] => readText pieces ['!'] first rest 0
  | c =>
      if c = backtick then readBacktick pieces first rest
      else if isLineSpace c then readSpaces pieces first rest
      else
        let plain := rest.takeWhile (!isMarkup ·.char)
        readText pieces (c :: charsOf plain) first rest plain.length

/-- Reads source to its end. -/
def readPieces (references : List Reference) (before : Option Char) (pieces : List Piece) :
    List Glyph → List Piece
  | [] => pieces
  | first :: rest =>
      let reading := readPiece references before pieces first rest
      let last := (rest.take reading.further).getLast?.getD first
      readPieces references (some last.char) reading.pieces (rest.drop reading.further)
  termination_by source => source.length
  decreasing_by simp only [List.length_drop, List.length_cons]; omega

/-- The constructs within a piece of text. -/
def inlineConstructs (references : List Reference) (source : List Glyph) : List Construct :=
  resolvePieces (readPieces references none [] source).reverse

end WikiMarkup.Markdown
