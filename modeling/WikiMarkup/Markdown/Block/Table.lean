import WikiMarkup.Markdown.Block.Start

/-!
Tables. A row is a line of cells between vertical bars; a backslash in front of a bar makes it part
of its cell, also inside code. A table is a row, a line of delimiters with as many cells, and the
rows after it.
-/

namespace WikiMarkup.Markdown

/-- A cell of a row: its text, and the byte offsets between which it stands. -/
structure Cell where
  start : Nat
  stop : Nat
  text : List Glyph

/-- Cuts a row at its bars. The current cell begins at the offset `start`; `pending` holds its text,
the last character first. The backslash in front of a bar is taken out. -/
def cutCells (start : Nat) (pending : List Glyph) : List Glyph → List Cell
  | [] => [⟨start, (pending.head?.map (·.stop)).getD start, pending.reverse⟩]
  | g :: rest =>
      if g.char = '|' then
        match pending with
        | last :: before =>
            if last.char = '\\' then cutCells start (g :: before) rest
            else ⟨start, g.start, pending.reverse⟩ :: cutCells g.stop [] rest
        | [] => ⟨start, g.start, []⟩ :: cutCells g.stop [] rest
      else cutCells start (g :: pending) rest

def Cell.trim (cell : Cell) : Cell :=
  { cell with text := dropTrailingSpaces (skipSpaces cell.text) }

/-- The cells of a row. A bar at either end of the row belongs to no cell. -/
def cellsOfRow (row : List Glyph) : List Cell :=
  match skipSpaces row with
  | [] => []
  | first :: rest =>
      let cells :=
        if first.char = '|' then cutCells first.stop [] rest
        else cutCells first.start [] (first :: rest)
      let cells := if cells.getLast?.any (isBlankSource ·.text) then cells.dropLast else cells
      cells.map Cell.trim

/-- Whether a row has a bar that is not part of a cell. -/
def hasBar : List Char → Bool
  | [] => false
  | '\\' :: '|' :: rest => hasBar rest
  | c :: rest => c = '|' || hasBar rest

/-- Whether a cell is a delimiter: hyphens, with a colon at either end for the alignment. -/
def isDelimiter (cell : List Char) : Bool :=
  let inner := cell.drop (if cell.head? = some ':' then 1 else 0)
  let rest := inner.dropWhile (· = '-')
  rest.length < inner.length && (rest = [] || rest = [':'])

def delimiterWidth? (row : List Glyph) : Option Nat :=
  let cells := cellsOfRow row
  if !cells.isEmpty && cells.all (isDelimiter <| charsOf ·.text) then some cells.length else none

/-- Whether a line of delimiters makes a table of the line before it. -/
def beginsTable (head delimiters : List Glyph) : Bool :=
  hasBar (charsOf head) && delimiterWidth? delimiters = some (cellsOfRow head).length

/-- The cells of a row in a table of some width: cells that are missing are empty and stand at the
offset `stop` behind the row, and cells beyond the width are dropped. -/
def cellsOfWidth (width stop : Nat) (row : List Glyph) : List Cell :=
  let cells := (cellsOfRow row).take width
  cells ++ List.replicate (width - cells.length) ⟨stop, stop, []⟩

end WikiMarkup.Markdown
