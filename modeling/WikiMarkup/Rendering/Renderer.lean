import WikiMarkup.Document.Element

/-!
How a target notation writes each kind of node. A renderer sees the text that was already written
for the children of a node, or the literal content of the node, and nothing of its surroundings.
-/

namespace WikiMarkup

/-- The notation of each kind of node. -/
structure Renderer where
  paragraph : String → String
  /-- Copies markup of the target notation. -/
  raw : String → String
  /-- Writes a heading; documents are rendered with levels from one to six. -/
  heading : (level : Nat) → String → String
  strong : String → String
  emphasis : String → String
  strikeout : String → String
  codeSpan : String → String
  quote : String → String
  /-- Writes a line break that must be kept. -/
  lineBreak : String
  rule : String
  /-- Writes a link from its target, its title and the text shown for it. -/
  link : (href : String) → (title text : Option String) → String
  /-- Writes an image from its address, its title and the text that stands for it. -/
  image : (href : String) → (title alt : Option String) → String
  /-- Writes a list from its items, one line or more each. -/
  list : (ordered : Bool) → (body : String) → String
  listItem : String → String
  /-- Writes a table from its head and body rows. -/
  table : (head body : String) → String
  tableRow : String → String
  tableCell : (header : Bool) → String → String
  /-- Writes a code block, given without the newline that ends its last line. -/
  codeBlock : (language : Option String) → (code : String) → String
  /-- Writes plain text; most notations leave it as it is. -/
  text : String → String := fun text => text
  /-- Writes a line break inside a paragraph that carries no meaning. -/
  softBreak : String := "\n"

end WikiMarkup
