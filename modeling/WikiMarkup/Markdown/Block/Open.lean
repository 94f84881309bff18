import WikiMarkup.Markdown.Block.Basic

/-!
Blocks that are still open while a document is read line by line. Containers are open around each
other, and at most one block without inner blocks is open within the innermost of them. Closing a
container puts what it holds into the container around it.
-/

namespace WikiMarkup.Markdown

/-- A place between two lines: the number of the line before it, and
the byte offset behind that line. -/
structure Boundary where
  line : Nat
  offset : Nat

/-- A finished block and the lines that it takes, counted from one. -/
structure Placed where
  block : Block
  firstLine : Nat
  lastLine : Nat
  /-- Whether a blank line stands between two blocks directly inside it. -/
  spaced : Bool

/-- Whether a blank line stands between two of some neighbouring blocks, given in reverse order. -/
def hasGap : List Placed → Bool
  | later :: earlier :: rest => earlier.lastLine + 1 < later.firstLine || hasGap (earlier :: rest)
  | _ => false

inductive Container where
  | quote
  | list (marker : Marker) (first : Option Nat)
  /-- A list item, with the indentation of the lines that belong to it. -/
  | item (indent : Nat)

/-- An open container and what it holds so far, the last block first. -/
structure Frame where
  container : Container
  firstLine : Nat
  start : Nat
  held : List Placed

/-- The container that is finished at a boundary. Its bytes go on to there, but a list or an item
takes only the lines of what it holds. A list is tight if no blank line stands between its items or
directly inside one of them. -/
def Frame.close (f : Frame) (boundary : Boundary) : Placed :=
  let span := spanFrom f.start boundary.offset
  let blocks := (f.held.map (·.block)).reverse
  let heldLine := (f.held.head?.map (·.lastLine)).getD f.firstLine
  let spaced := hasGap f.held
  match f.container with
  | .quote => ⟨.quote span blocks, f.firstLine, boundary.line, spaced⟩
  | .list _ first =>
      let tight := !(spaced || f.held.any (·.spaced))
      ⟨.list span first tight blocks, f.firstLine, heldLine, spaced⟩
  | .item _ => ⟨.item span blocks, f.firstLine, heldLine, spaced⟩

structure TextLine where
  glyphs : List Glyph
  newline : Glyph
  number : Nat
  stop : Nat

structure VerbatimLine where
  content : List Char
  number : Nat
  stop : Nat

/-- Verbatim lines, given in reverse order, as one text. -/
def contentOfLines (lines : List VerbatimLine) : List Char := lines.reverse.flatMap (·.content)

/-- An open block that holds no other blocks. Lines are kept in reverse order. -/
inductive Leaf where
  | paragraph (lines : List TextLine)
  /-- Code between fences; `stop` is the byte offset behind the line of the opening fence. -/
  | fenced (fence : Fence) (info : String) (start stop firstLine : Nat) (lines : List VerbatimLine)
  | indented (start firstLine : Nat) (lines : List VerbatimLine)
  | html (ending : HtmlEnd) (start firstLine : Nat) (lines : List VerbatimLine)
  | table (width : Nat) (head delimiters : TextLine) (rows : List TextLine)

/-- The lines of a paragraph as one piece of source. -/
def joinTextLines : List TextLine → List Glyph
  | [] => []
  | [line] => line.glyphs
  | line :: rest => line.glyphs ++ line.newline :: joinTextLines rest

/-- Takes link definitions off the start of a paragraph. -/
def takeDefinitions (source : List Glyph) : List Reference × List Glyph :=
  match definition? (charsOf source) with
  | none => ([], source)
  | some (reference, after) =>
      if after.length < source.length then
        let (more, rest) := takeDefinitions (source.drop (source.length - after.length))
        (reference :: more, rest)
      else ([], source)
  termination_by source.length
  decreasing_by simp only [List.length_drop]; omega

/-- What has been read of a document: finished blocks, the last one first; open containers, the
innermost one first; the open block within them; and the link definitions in order. -/
structure State where
  finished : List Placed
  frames : List Frame
  leaf : Option Leaf
  references : List Reference

namespace State

def empty : State := ⟨[], [], none, []⟩

/-- Adds a finished block to the innermost container. -/
def add (s : State) (p : Placed) : State :=
  match s.frames with
  | [] => { s with finished := p :: s.finished }
  | f :: outer => { s with frames := { f with held := p :: f.held } :: outer }

def addBlock (s : State) (block : Span → Block) (firstLine lastLine start stop : Nat) : State :=
  s.add ⟨block (spanFrom start stop), firstLine, lastLine, false⟩

/-- Adds the paragraph of some lines; link definitions at its start are noted, and if nothing else
is in it there is no paragraph. -/
def addParagraph (s : State) (lines : List TextLine) : State :=
  let (references, text) := takeDefinitions (joinTextLines lines.reverse)
  let s := { s with references := s.references ++ references }
  match lines, lines.getLast?, text with
  | last :: _, some first, glyph :: _ =>
      s.addBlock (.paragraph · (dropTrailingSpaces text)) first.number last.number glyph.start
        last.stop
  | _, _, _ => s

def tableRow (width : Nat) (line : TextLine) : TableRow :=
  let start := (line.glyphs.head?.map (·.start)).getD line.stop
  ⟨spanFrom start line.stop, cellsOfWidth width line.stop line.glyphs⟩

/-- Verbatim lines without the blank ones at the end of the block, which come first. -/
def dropBlankLines (lines : List VerbatimLine) : List VerbatimLine :=
  lines.dropWhile fun line => line.content.all fun c => isSpaceOrTab c || c = '\n'

/-- Closes the open block that holds no blocks. -/
def closeLeaf (s : State) : State :=
  let closed := { s with leaf := none }
  match s.leaf with
  | none => s
  | some (.paragraph lines) => closed.addParagraph lines
  | some (.fenced _ info start stop firstLine lines) =>
      let last := lines.head?.map fun line => (line.number, line.stop)
      let (lastLine, stop) := last.getD (firstLine, stop)
      closed.addBlock (.code · (some info) (contentOfLines lines)) firstLine lastLine start stop
  | some (.indented start firstLine lines) =>
      let lines := dropBlankLines lines
      let last := lines.head?.map fun line => (line.number, line.stop)
      let (lastLine, stop) := last.getD (firstLine, start)
      closed.addBlock (.code · none (contentOfLines lines)) firstLine lastLine start stop
  | some (.html _ start firstLine lines) =>
      let last := lines.head?.map fun line => (line.number, line.stop)
      let (lastLine, stop) := last.getD (firstLine, start)
      closed.addBlock (.html · (contentOfLines lines)) firstLine lastLine start stop
  | some (.table width head delimiters rows) =>
      let last := rows.head?.getD delimiters
      let start := (head.glyphs.head?.map (·.start)).getD head.stop
      closed.addBlock (.table · (tableRow width head) (rows.reverse.map (tableRow width)))
        head.number last.number start last.stop

/-- Closes some number of containers at a boundary, the innermost first, with the block that is open
within them. -/
def closeFrames (s : State) (boundary : Boundary) : (count : Nat) → State
  | 0 => s.closeLeaf
  | count + 1 =>
      let s := s.closeLeaf
      match s.frames with
      | [] => s
      | f :: outer => closeFrames ({ s with frames := outer }.add (f.close boundary)) boundary count

/-- Makes room for a block at the place that is reached when some number of containers are closed.
Directly within a list only items have a place, so a list that would be innermost is closed too. -/
def closeForBlock (s : State) (boundary : Boundary) (count : Nat) : State :=
  let s := s.closeFrames boundary count
  match s.frames with
  | f :: _ =>
      match f.container with
      | .list .. => s.closeFrames boundary 1
      | _ => s
  | [] => s

def openFrame (s : State) (container : Container) (firstLine start : Nat) : State :=
  { s with frames := ⟨container, firstLine, start, []⟩ :: s.frames }

/-- Opens an item, in the list that is innermost if the item belongs
to it, else in a list of its own. -/
def openItem (s : State) (boundary : Boundary) (count : Nat) (item : ItemStart)
    (indent firstLine start : Nat) : State :=
  let s := s.closeFrames boundary count
  let fresh : State → State := fun s => s.openFrame (.list item.marker item.first) firstLine start
  let s :=
    match s.frames with
    | f :: _ =>
        match f.container with
        | .list marker _ => if marker = item.marker then s else fresh (s.closeFrames boundary 1)
        | _ => fresh s
    | [] => fresh s
  s.openFrame (.item indent) firstLine start

end State

end WikiMarkup.Markdown
