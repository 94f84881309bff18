import WikiMarkup.Text.Blank
import WikiMarkup.Text.Pieces

/-!
The notation of lists. An item is a line that begins with the markers of all lists around it, the
outermost first: `*#` is a numbered item within a bulleted one. A list is written after the lists in
it, so it finds their lines already marked and puts its own marker in front of theirs.
-/

namespace WikiMarkup.Confluence

def isMarker (c : Char) : Bool := c = '#' || c = '*'

def listMarker (ordered : Bool) : Char := if ordered then '#' else '*'

/-- The lines of a text; a text that ends in a newline has an empty last line. -/
def lines (cs : List Char) : List (List Char) := Text.pieces (· = '\n') cs

def joinLines (lines : List (List Char)) : List Char := ['\n'].intercalate lines

/-- Whether a line begins with markers and a space after them, as the lines of a list do. -/
def isMarked (line : List Char) : Bool :=
  !(line.takeWhile isMarker).isEmpty && (line.dropWhile isMarker).head? = some ' '

/-- Marks a line; on a line that is marked already the marker joins those that it has. -/
def markLine (marker : Char) (line : List Char) : List Char :=
  if isMarked line then marker :: line else marker :: ' ' :: line

/-- A list from the text of its items: every line that is not empty is marked. -/
def listMarkup (ordered : Bool) (body : List Char) : List Char :=
  let filled := (lines (Text.trimBlank body)).filter (!·.isEmpty)
  joinLines (filled.map (markLine (listMarker ordered))) ++ ['\n', '\n']

end WikiMarkup.Confluence
