import WikiMarkup.Rendering.Renderer

/-!
The rule by which one node is written: what the node must carry, whether its children are looked at,
and how the text of the node is put together. A rule is found from the node alone, before anything
below it is read.
-/

namespace WikiMarkup

inductive RenderError where
  /-- A property that the kind requires is absent or of another type. -/
  | missingProperty (kind key : String)
  /-- A property that the kind requires has a value that it does not allow. -/
  | invalidProperty (kind key reason : String)
  deriving DecidableEq

def RenderError.message : RenderError → String
  | missingProperty kind key => s!"{kind} node is missing required property `{key}`"
  | invalidProperty kind key reason => s!"{kind} node has invalid `{key}`: {reason}"

/-- How a node is written once its requirements are met. -/
inductive Rule where
  /-- The node stands for a text of its own and its children are not looked at. -/
  | leaf (text : String)
  /-- The node is put together from its children and the texts written for them. -/
  | branch (assemble : List (Node × String) → String)

namespace Rule

def join (parts : List (Node × String)) : String := String.join (parts.map (·.2))

/-- Blocks that start on a line of their own inside a list item. -/
def itemBlocks : List Element :=
  [.list, .paragraph, .codeBlock, .quote, .table, .heading, .rawBlock]

/-- Whether a child of a list item starts on a line of its own. -/
def startsLine (child : Node) : Bool := itemBlocks.any child.is

def stopsInLine (text : String) : Bool := text.toList.getLast?.any (· ≠ '\n')

/-- The body of a list item: its children in order, with a newline before a block that would
otherwise start in the middle of a line. -/
def itemBody (parts : List (Node × String)) : String :=
  parts.foldl
    (fun body part =>
      (if startsLine part.1 && stopsInLine body then body ++ "\n" else body) ++ part.2) ""

/-- Whether a node is written as a header cell. -/
def isHeaderCell (cell : Node) : Bool :=
  cell.is .tableHeader || cell.properties.getFlag? PropertyKey.header = some true

/-- Whether a child of a table belongs to its head: a head section, or a row that stands directly in
the table and begins with a header cell. -/
def inTableHead (child : Node) : Bool :=
  child.is .tableHead || (child.is .tableRow && child.children.head?.any isHeaderCell)

/-- A table: the texts of its head before those of its body, each in document order. -/
def tableText (r : Renderer) (parts : List (Node × String)) : String :=
  r.table (join (parts.filter (inTableHead ·.1))) (join (parts.filter (!inTableHead ·.1)))

def requireText (n : Node) (key : String) : Except RenderError String :=
  match n.properties.getText? key with
  | some text => .ok text
  | none => .error (.missingProperty n.kind key)

/-- The level of a heading, from one to six. -/
def requireLevel (n : Node) : Except RenderError Nat :=
  match n.properties.getNumber? PropertyKey.level with
  | none => .error (.missingProperty n.kind PropertyKey.level)
  | some level =>
      if 1 ≤ level.toInt ∧ level.toInt ≤ 6 then .ok level.toInt.toNat
      else .error (.invalidProperty n.kind PropertyKey.level s!"{level.toInt} is outside 1..=6")

/-- The code of a code block: the newline that ends its last line is no part of it. -/
def codeText (content : String) : String :=
  if content.toList.getLast? = some '\n' then String.ofList content.toList.dropLast else content

def ofElement (r : Renderer) (n : Node) : Element → Except RenderError Rule
  | .document | .division | .group => .ok (.branch join)
  | .paragraph => .ok (.branch (r.paragraph ∘ join))
  | .heading => do
      let level ← requireLevel n
      return .branch (r.heading level ∘ join)
  | .quote => .ok (.branch (r.quote ∘ join))
  | .codeBlock => do
      let content ← requireText n PropertyKey.content
      return .leaf (r.codeBlock (n.properties.getText? PropertyKey.language) (codeText content))
  | .list =>
      .ok (.branch (r.list ((n.properties.getFlag? PropertyKey.ordered).getD false) ∘ join))
  | .listItem => .ok (.branch (r.listItem ∘ itemBody))
  | .table => .ok (.branch (tableText r))
  | .tableHead | .tableBody | .tableFoot => .ok (.branch join)
  | .tableRow => .ok (.branch (r.tableRow ∘ join))
  | .tableCell | .tableHeader => .ok (.branch (r.tableCell (isHeaderCell n) ∘ join))
  | .rule => .ok (.leaf r.rule)
  | .rawBlock | .rawInline => do return .leaf (r.raw (← requireText n PropertyKey.content))
  | .text => do return .leaf (r.text (← requireText n PropertyKey.content))
  | .strong => .ok (.branch (r.strong ∘ join))
  | .emphasis => .ok (.branch (r.emphasis ∘ join))
  | .strikeout => .ok (.branch (r.strikeout ∘ join))
  | .code => do return .leaf (r.codeSpan (← requireText n PropertyKey.content))
  | .link => do
      let href ← requireText n PropertyKey.url
      return .branch fun parts =>
        let text := join parts
        r.link href (n.properties.getText? PropertyKey.title)
          (if text.isEmpty then none else some text)
  | .image => do
      let href ← requireText n PropertyKey.url
      return .leaf (r.image href (n.properties.getText? PropertyKey.title)
        (n.properties.getText? PropertyKey.alt))
  | .lineBreak => .ok (.leaf r.lineBreak)
  | .softBreak => .ok (.leaf r.softBreak)

/-- The rule for a node. Of a node of unknown kind only the children are written. -/
def ofNode (r : Renderer) (n : Node) : Except RenderError Rule :=
  match Element.ofName? n.kind with
  | some e => ofElement r n e
  | none => .ok (.branch join)

end Rule

end WikiMarkup
