import WikiMarkup.Markdown.Block.Open

/-!
The blocks of a document, read line by line. For each line the open containers are asked in turn
whether the line carries their mark; then the rest of the line may open new containers and blocks;
what is left is text. Text without the marks of the containers around an open paragraph still
continues that paragraph.
-/

namespace WikiMarkup.Markdown

/-- Indentation that makes a line code where a block may begin. -/
def codeIndent : Nat := 4

/-- The rest of a line that goes on within a container, if it does. -/
def Frame.continues? (f : Frame) (isEmpty : Bool) (c : Cursor) : Option Cursor :=
  match f.container with
  | .list .. => some c
  | .quote =>
      let inner := c.skipIndent
      if c.indent < codeIndent && inner.rest.head?.any (·.char = '>') then
        some ((inner.advance 1).skip 1)
      else none
  | .item indent =>
      if c.isBlank then if isEmpty then none else some c.skipIndent
      else if indent ≤ c.indent then some (c.skip indent)
      else none

/-- Asks containers, the outermost first, whether a line goes on within them: how many of them do
not, and the rest of the line. -/
def matchFrames (hasLeaf : Bool) : List Frame → Cursor → Nat × Cursor
  | [], c => (0, c)
  | f :: inner, c =>
      match f.continues? (f.held.isEmpty && inner.isEmpty && !hasLeaf) c with
      | some c => matchFrames hasLeaf inner c
      | none => (inner.length + 1, c)

structure Current where
  line : Line
  /-- The place in front of the line. -/
  before : Boundary

namespace Current

def number (l : Current) : Nat := l.before.line + 1

/-- The byte offset at which what is left of the line stands. -/
def startOf (l : Current) (c : Cursor) : Nat := c.start l.line.stop

/-- What is left of the line as verbatim text. -/
def verbatim (l : Current) (c : Cursor) : VerbatimLine :=
  ⟨charsOf c.rest ++ (if l.line.ended then ['\n'] else []), l.number, l.line.stop⟩

/-- What is left of the line as text. -/
def text (l : Current) (c : Cursor) : TextLine :=
  ⟨c.skipIndent.rest, l.line.newline, l.number, l.line.stop⟩

end Current

/-- What a line begins at the place that was reached in it. -/
inductive LineStart where
  | quote
  | heading (level : HeadingLevel) (text : List Glyph)
  | fence (fence : Fence) (info : String)
  | html (ending : HtmlEnd)
  | underline (level : HeadingLevel)
  | delimiters (head : TextLine) (before : List TextLine)
  | rule
  | item (start : ItemStart)
  | code
  | text

/-- Whether a list item may begin here. Within a paragraph it needs content and, if it is numbered,
the number one. -/
def ItemStart.mayBegin (item : ItemStart) (inParagraph : Bool) (chars : List Char) : Bool :=
  !inParagraph || (!isBlankLine (chars.drop item.width) && item.first.all (· = 1))

/-- Whether a paragraph holds anything but link definitions. -/
def hasText (lines : List TextLine) : Bool :=
  !(takeDefinitions (joinTextLines lines.reverse)).2.isEmpty

/-- What a line begins that is neither blank nor indented. `paragraph` holds the lines of the
paragraph that the line would go on in, the last one first; `lazyText` says whether it could go on
in a paragraph without the marks of its containers. -/
def blockStart? (paragraph : List TextLine) (lazyText : Bool) (indent : Nat) (source : List Glyph) :
    Option LineStart :=
  let chars := charsOf source
  let inParagraph := !paragraph.isEmpty
  (if chars.head? = some '>' then some .quote else none)
    <|> (heading? source).map (fun (level, text) => .heading level text)
    <|> (fence? indent chars).map (fun (fence, info) => .fence fence info)
    <|> (htmlEnd? (inParagraph || lazyText) chars).map .html
    <|> (underlineLevel? chars).bind
      (fun level => if hasText paragraph then some (.underline level) else none)
    <|> (if isRule chars then some .rule else none)
    <|> (itemStart? chars).bind
      (fun item => if item.mayBegin inParagraph chars then some (.item item) else none)
    <|> (match paragraph with
      | head :: before =>
          if beginsTable head.glyphs source then some (.delimiters head before) else none
      | [] => none)

/-- What a line begins at the place that was reached in it, when some
number of containers do not go on. -/
def lineStart (leaf : Option Leaf) (unmatched : Nat) (c : Cursor) : LineStart :=
  let lines :=
    match leaf with
    | some (.paragraph lines) => lines
    | _ => []
  if c.isBlank then .text
  else if codeIndent ≤ c.indent then if lines.isEmpty then .code else .text
  else
    let paragraph := if unmatched = 0 then lines else []
    (blockStart? paragraph (!lines.isEmpty) c.indent c.skipIndent.rest).getD .text

namespace State

/-- Adds a line of text where nothing begins: to the open paragraph, as a row of the open table if
there is a cell in it, or as a new paragraph. A blank line ends both. -/
def addText (s : State) (unmatched : Nat) (l : Current) (c : Cursor) : State :=
  let fresh : State → State := fun s => { s with leaf := some (.paragraph [l.text c]) }
  if c.isBlank then s.closeFrames l.before unmatched
  else
    match s.leaf with
    | some (.paragraph lines) =>
        { s with leaf := some (.paragraph (l.text c :: lines)) }
    | some (.table width head delimiters rows) =>
        if unmatched = 0 && !(cellsOfRow c.rest).isEmpty then
          { s with leaf := some (.table width head delimiters (l.text c :: rows)) }
        else fresh (s.closeForBlock l.before unmatched)
    | _ => fresh (s.closeForBlock l.before unmatched)

/-- Adds a line of HTML and closes the block if it ends there. -/
def addHtml (s : State) (ending : HtmlEnd) (start firstLine : Nat) (lines : List VerbatimLine)
    (l : Current) (c : Cursor) : State :=
  let s := { s with leaf := some (.html ending start firstLine (l.verbatim c :: lines)) }
  if ending.isMet (charsOf c.rest) then s.closeLeaf else s

/-- Turns the open paragraph into a heading; link definitions at its start are noted. -/
def underline (s : State) (level : HeadingLevel) (l : Current) : State :=
  match s.leaf with
  | some (.paragraph lines) =>
      let (references, text) := takeDefinitions (joinTextLines lines.reverse)
      let firstLine := (lines.getLast?.map (·.number)).getD l.number
      let start := (text.head?.map (·.start)).getD l.line.stop
      let s := { s with leaf := none, references := s.references ++ references }
      s.addBlock (.heading · level (dropTrailingSpaces text)) firstLine l.number start l.line.stop
  | _ => s

/-- Turns the last line of the open paragraph into the head of a table. -/
def beginTable (s : State) (head : TextLine) (before : List TextLine) (l : Current) (c : Cursor) :
    State :=
  let s := { s with leaf := none }
  let s := if before.isEmpty then s else s.addParagraph before
  { s with leaf := some (.table (cellsOfRow head.glyphs).length head (l.text c) []) }

/-- Reads what is left of a line after the containers that go on in it. `fuel` bounds the number of
containers that the line can open. -/
def readRest (fuel : Nat) (s : State) (unmatched : Nat) (l : Current) (c : Cursor) : State :=
  match fuel with
  | 0 => s
  | fuel + 1 =>
      let inner := c.skipIndent
      let start := l.startOf inner
      let stop := l.line.stop
      match lineStart s.leaf unmatched c with
      | .quote =>
          let s := (s.closeForBlock l.before unmatched).openFrame .quote l.number start
          readRest fuel s 0 l ((inner.advance 1).skip 1)
      | .item item =>
          let after := inner.advance item.width
          let narrow := after.isBlank || codeIndent < after.indent
          let gap := if narrow then 1 else after.indent
          let indent := c.indent + item.width + gap
          let s := s.openItem l.before unmatched item indent l.number (l.startOf c)
          readRest fuel s 0 l (after.skip gap)
      | .heading level text =>
          (s.closeForBlock l.before unmatched).addBlock (.heading · level text) l.number l.number
            start stop
      | .fence fence info =>
          { s.closeForBlock l.before unmatched with
            leaf := some (.fenced fence info start stop l.number []) }
      | .html ending => (s.closeForBlock l.before unmatched).addHtml ending start l.number [] l c
      | .underline level => s.underline level l
      | .delimiters head before => s.beginTable head before l c
      | .rule => (s.closeForBlock l.before unmatched).addBlock .rule l.number l.number start stop
      | .code =>
          { s.closeForBlock l.before unmatched with
            leaf := some (.indented start l.number [l.verbatim (c.skip codeIndent)]) }
      | .text => s.addText unmatched l c

/-- Adds a line to the open code or HTML, which takes lines as they are; none if the line does not
belong to it. -/
def addVerbatim? (s : State) (l : Current) (c : Cursor) : Option State :=
  match s.leaf with
  | some (.fenced fence info start stop firstLine lines) =>
      let inner := c.skipIndent
      if c.indent < codeIndent && fence.isClosedBy (charsOf inner.rest) then
        let stop := ((dropTrailingSpaces inner.rest).getLast?.map (·.stop)).getD stop
        let closed := { s with leaf := none }
        some (closed.addBlock (.code · (some info) (contentOfLines lines)) firstLine l.number start
          stop)
      else
        let line := l.verbatim (c.skip fence.indent)
        some { s with leaf := some (.fenced fence info start stop firstLine (line :: lines)) }
  | some (.indented start firstLine lines) =>
      if codeIndent ≤ c.indent || c.isBlank then
        let line := l.verbatim (c.skip codeIndent)
        some { s with leaf := some (.indented start firstLine (line :: lines)) }
      else none
  | some (.html ending start firstLine lines) =>
      if ending matches .blankLine && c.isBlank then some s.closeLeaf
      else some (s.addHtml ending start firstLine lines l c)
  | _ => none

/-- Reads a line of which the containers that go on are passed;
`unmatched` containers do not go on. -/
def readMatched (s : State) (unmatched : Nat) (l : Current) (c : Cursor) : State :=
  match if unmatched = 0 then s.addVerbatim? l c else none with
  | some s => s
  | none => s.readRest (l.line.glyphs.length + 1) unmatched l c

def readLine (s : State) (l : Current) : State :=
  let (unmatched, c) := matchFrames s.leaf.isSome s.frames.reverse (.ofLine l.line)
  s.readMatched unmatched l c

def readLines (s : State) (before : Boundary) : List Line → State
  | [] => s.closeFrames before s.frames.length
  | line :: rest => readLines (s.readLine ⟨line, before⟩) ⟨before.line + 1, line.stop⟩ rest

end State

def blocksOf (text : String) : List Block × List Reference :=
  let s := State.empty.readLines ⟨0, 0⟩ (linesOf text)
  ((s.finished.map (·.block)).reverse, s.references)

end WikiMarkup.Markdown
