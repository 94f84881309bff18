import WikiMarkup.Document.Element

/-!
Documents as they are drafted by hand. Block and inline content have types of their own: a heading
holds inline content only, and a list item says whether it holds inline content or blocks. Every
draft describes a document; what it cannot rule out is a heading level that no writer accepts.
-/

namespace WikiMarkup.Draft

inductive Inline where
  | text (content : String)
  | emphasis (content : List Inline)
  | strong (content : List Inline)
  | strikeout (content : List Inline)
  | code (content : String)
  /-- A link; without any text it shows its target. -/
  | link (url : String) (title : Option String) (shown : List Inline)
  | image (url alt : String) (title : Option String)
  | lineBreak
  | softBreak

/-- A row of a table; its cells are header cells if it is a header row. -/
structure Row where
  header : Bool
  cells : List (List Inline)

mutual

inductive Block where
  | heading (level : Int64) (content : List Inline)
  | paragraph (content : List Inline)
  | code (content : String) (language : Option String)
  | quote (blocks : List Block)
  | list (ordered : Bool) (items : List Item)
  | rule
  | table (rows : List Row)
  /-- Markup that is copied to the output. -/
  | raw (content : String)
  /-- A node that was made elsewhere. -/
  | node (n : Node)

inductive Item where
  | ofInlines (content : List Inline)
  | ofBlocks (blocks : List Block)

end

/-- Sets a property that may be absent; an empty text is set too. -/
def withOptional (key : String) (value : Option String) (n : Node) : Node :=
  match value with
  | some value => n.withProperty key (.text value)
  | none => n

mutual

def Inline.toNode : Inline → Node
  | .text content => .text content
  | .emphasis content => .ofElement .emphasis (Inline.toNodes content)
  | .strong content => .ofElement .strong (Inline.toNodes content)
  | .strikeout content => .ofElement .strikeout (Inline.toNodes content)
  | .code content => .ofContent .code content
  | .link url title shown =>
      withOptional PropertyKey.title title
        ((Node.ofElement .link (Inline.toNodes shown)).withProperty PropertyKey.url (.text url))
  | .image url alt title =>
      withOptional PropertyKey.title title
        (((Node.ofElement .image []).withProperty PropertyKey.url (.text url)).withProperty
          PropertyKey.alt (.text alt))
  | .lineBreak => .ofElement .lineBreak []
  | .softBreak => .ofElement .softBreak []

def Inline.toNodes : List Inline → List Node
  | [] => []
  | i :: rest => Inline.toNode i :: Inline.toNodes rest

end

def Row.toNode (row : Row) : Node :=
  .tableRow (row.cells.map fun cell => .tableCell row.header (Inline.toNodes cell))

/-- A section of a table, left out if it has no rows. -/
def tableSection (e : Element) (rows : List Row) : List Node :=
  if rows.isEmpty then [] else [.ofElement e (rows.map Row.toNode)]

/-- The node of a table: all header rows in a head section, all other rows in a body section. -/
def tableNode (rows : List Row) : Node :=
  .ofElement .table
    (tableSection .tableHead (rows.filter (·.header))
      ++ tableSection .tableBody (rows.filter (!·.header)))

mutual

def Block.toNode : Block → Node
  | .heading level content => .heading level (Inline.toNodes content)
  | .paragraph content => .paragraph (Inline.toNodes content)
  | .code content language =>
      withOptional PropertyKey.language language (.ofContent .codeBlock content)
  | .quote blocks => .ofElement .quote (Block.toNodes blocks)
  | .list ordered items => .list ordered (Item.toNodes items)
  | .rule => .ofElement .rule []
  | .table rows => tableNode rows
  | .raw content => .ofContent .rawBlock content
  | .node n => n

def Block.toNodes : List Block → List Node
  | [] => []
  | b :: rest => Block.toNode b :: Block.toNodes rest

def Item.toNode : Item → Node
  | .ofInlines content => .listItem (Inline.toNodes content)
  | .ofBlocks blocks => .listItem (Block.toNodes blocks)

def Item.toNodes : List Item → List Node
  | [] => []
  | i :: rest => Item.toNode i :: Item.toNodes rest

end

def document (blocks : List Block) : Document := ⟨.document (Block.toNodes blocks)⟩

end WikiMarkup.Draft
