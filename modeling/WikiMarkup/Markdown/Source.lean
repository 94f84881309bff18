/-!
Markdown source text. Every character is kept with the byte offset at which it stands, so whatever
is built from characters knows where it came from. The text is cut into lines, and a line is read
through a cursor that knows its column, since a tab reaches to the next column that is a multiple of
four.
-/

namespace WikiMarkup.Markdown

/-- A character of the source with the bytes that it stands for, of
which `stop` is the first one behind it. -/
structure Glyph where
  char : Char
  start : Nat
  stop : Nat

/-- Characters from a byte offset on. -/
def glyphsFrom : (offset : Nat) → List Char → List Glyph
  | _, [] => []
  | offset, c :: rest => ⟨c, offset, offset + c.utf8Size⟩ :: glyphsFrom (offset + c.utf8Size) rest

def charsOf (gs : List Glyph) : List Char := gs.map (·.char)

def isSpaceOrTab (c : Char) : Bool := c = ' ' || c = '\t'

/-- Source without the spaces and tabs in front of it. -/
def skipSpaces (gs : List Glyph) : List Glyph := gs.dropWhile (isSpaceOrTab ·.char)

/-- Source without the spaces and tabs behind it. -/
def dropTrailingSpaces (gs : List Glyph) : List Glyph :=
  (gs.reverse.dropWhile (isSpaceOrTab ·.char)).reverse

def isBlankSource (gs : List Glyph) : Bool := gs.all (isSpaceOrTab ·.char)

structure Line where
  glyphs : List Glyph
  /-- The byte offset behind the text of the line. -/
  textStop : Nat
  /-- The byte offset behind the line and its ending. -/
  stop : Nat

/-- Whether the line has an ending; only the last line may have none. -/
def Line.ended (line : Line) : Bool := line.textStop < line.stop

/-- The newline at the end of a line; every kind of line ending counts as one. -/
def Line.newline (line : Line) : Glyph := ⟨'\n', line.textStop, line.stop⟩

/-- Cuts source into lines; `pending` holds the characters of the
current line, the last one first. -/
def linesFrom (pending : List Glyph) : List Glyph → List Line
  | [] =>
      match pending with
      | [] => []
      | last :: _ => [⟨pending.reverse, last.stop, last.stop⟩]
  | ⟨'\r', start, _⟩ :: ⟨'\n', _, stop⟩ :: rest =>
      ⟨pending.reverse, start, stop⟩ :: linesFrom [] rest
  | ⟨'\r', start, stop⟩ :: rest => ⟨pending.reverse, start, stop⟩ :: linesFrom [] rest
  | ⟨'\n', start, stop⟩ :: rest => ⟨pending.reverse, start, stop⟩ :: linesFrom [] rest
  | g :: rest => linesFrom (g :: pending) rest

/-- The lines of a text. A line ends with a line feed, a carriage return, or both in that order. -/
def linesOf (text : String) : List Line := linesFrom [] (glyphsFrom 0 text.toList)

/-- The rest of a line from some column on. -/
structure Cursor where
  rest : List Glyph
  column : Nat

def tabWidth (column : Nat) : Nat := 4 - column % 4

/-- How many columns the spaces and tabs in front take. -/
def blankColumns : (column : Nat) → List Glyph → Nat
  | _, [] => 0
  | column, g :: rest =>
      if g.char = ' ' then 1 + blankColumns (column + 1) rest
      else if g.char = '\t' then tabWidth column + blankColumns (column + tabWidth column) rest
      else 0

/-- Skips up to `count` columns of spaces and tabs. What is left of a
tab that is cut in two is kept as spaces. -/
def skipColumns : (count column : Nat) → List Glyph → Cursor
  | _, column, [] => ⟨[], column⟩
  | count, column, g :: rest =>
      if count = 0 then ⟨g :: rest, column⟩
      else if g.char = ' ' then skipColumns (count - 1) (column + 1) rest
      else if g.char = '\t' then
        let width := tabWidth column
        if width ≤ count then skipColumns (count - width) (column + width) rest
        else ⟨List.replicate (width - count) ⟨' ', g.start, g.stop⟩ ++ rest, column + count⟩
      else ⟨g :: rest, column⟩

namespace Cursor

def ofLine (line : Line) : Cursor := ⟨line.glyphs, 0⟩

def indent (c : Cursor) : Nat := blankColumns c.column c.rest

/-- Skips up to `count` columns of indentation. -/
def skip (c : Cursor) (count : Nat) : Cursor := skipColumns count c.column c.rest

def skipIndent (c : Cursor) : Cursor := c.skip c.indent

def advance (c : Cursor) (count : Nat) : Cursor := ⟨c.rest.drop count, c.column + count⟩

def isBlank (c : Cursor) : Bool := isBlankSource c.rest

/-- The byte offset of the rest of the line, or the given one at the end of the line. -/
def start (c : Cursor) (otherwise : Nat) : Nat := (c.rest.head?.map (·.start)).getD otherwise

end Cursor

end WikiMarkup.Markdown
