import WikiMarkup.Markdown.Block.Table
import WikiMarkup.Markdown.Inline.Text

/-!
The blocks of a document. The text of a block is kept as source until all link definitions are
known; then blocks become constructs.
-/

namespace WikiMarkup.Markdown

structure TableRow where
  span : Span
  cells : List Cell

inductive Block where
  | paragraph (span : Span) (text : List Glyph)
  | heading (span : Span) (level : HeadingLevel) (text : List Glyph)
  | rule (span : Span)
  /-- A code block; a fenced one has an info string. -/
  | code (span : Span) (info : Option String) (content : List Char)
  | html (span : Span) (content : List Char)
  | table (span : Span) (head : TableRow) (body : List TableRow)
  | quote (span : Span) (blocks : List Block)
  /-- A list; a numbered one has a first number. In a tight list, paragraphs are set without space
  around them. -/
  | list (span : Span) (first : Option Nat) (tight : Bool) (items : List Block)
  | item (span : Span) (blocks : List Block)

def Cell.construct (references : List Reference) (cell : Cell) : Construct :=
  .around .tableCell (spanFrom cell.start cell.stop) (inlineConstructs references cell.text)

def TableRow.constructs (references : List Reference) (row : TableRow) : List Construct :=
  row.cells.map (Cell.construct references)

namespace Block

mutual

/-- The constructs of a block; a paragraph of a tight list is only its text. -/
def constructs (references : List Reference) (tight : Bool) : Block → List Construct
  | paragraph span text =>
      let content := inlineConstructs references text
      if tight then content else [.around .paragraph span content]
  | heading span level text => [.around (.heading level) span (inlineConstructs references text)]
  | rule span => [.leaf .rule span]
  | code span info content =>
      [.around (.codeBlock info) span (if content.isEmpty then [] else [.text content span])]
  | html span content => [.around .htmlBlock span [.leaf (.html (String.ofList content)) span]]
  | table span head body =>
      [.around .table span
        (.around .tableHead head.span (head.constructs references)
          :: body.map fun row => .around .tableRow row.span (row.constructs references))]
  | quote span blocks => [.around (.blockQuote false) span (constructsOf references false blocks)]
  | list span first tight items =>
      [.around (.list first) span (constructsOf references tight items)]
  | item span blocks => [.around .item span (constructsOf references tight blocks)]

def constructsOf (references : List Reference) (tight : Bool) : List Block → List Construct
  | [] => []
  | b :: rest => constructs references tight b ++ constructsOf references tight rest

end

end Block

end WikiMarkup.Markdown
