import WikiMarkup.Document.Node

/-!
The standard vocabulary of documents: the kinds of node that readers build and writers know, the
keys of their properties, and one function for each shape of node that is built often.
-/

namespace WikiMarkup

inductive Element where
  | document
  | paragraph
  | heading
  | codeBlock
  | quote
  | list
  | listItem
  | table
  | tableHead
  | tableBody
  | tableFoot
  | tableRow
  | tableCell
  | tableHeader
  | rule
  | division
  | rawBlock
  | text
  | emphasis
  | strong
  | strikeout
  | code
  | link
  | image
  | lineBreak
  | softBreak
  | group
  | rawInline
  deriving DecidableEq

namespace Element

/-- The kind under which nodes of this element are filed. -/
def name : Element → String
  | document => "document"
  | paragraph => "paragraph"
  | heading => "heading"
  | codeBlock => "code_block"
  | quote => "blockquote"
  | list => "list"
  | listItem => "list_item"
  | table => "table"
  | tableHead => "table_head"
  | tableBody => "table_body"
  | tableFoot => "table_foot"
  | tableRow => "table_row"
  | tableCell => "table_cell"
  | tableHeader => "table_header"
  | rule => "horizontal_rule"
  | division => "div"
  | rawBlock => "raw_block"
  | text => "text"
  | emphasis => "emphasis"
  | strong => "strong"
  | strikeout => "strikeout"
  | code => "code"
  | link => "link"
  | image => "image"
  | lineBreak => "line_break"
  | softBreak => "soft_break"
  | group => "span"
  | rawInline => "raw_inline"

def all : List Element :=
  [document, paragraph, heading, codeBlock, quote, list, listItem, table, tableHead, tableBody,
    tableFoot, tableRow, tableCell, tableHeader, rule, division, rawBlock, text, emphasis, strong,
    strikeout, code, link, image, lineBreak, softBreak, group, rawInline]

/-- The element that a kind names; an unknown kind names none. -/
def ofName? (kind : String) : Option Element := all.find? (·.name = kind)

@[simp] theorem ofName?_name (e : Element) : ofName? e.name = some e := by
  cases e <;> decide

theorem name_of_ofName? {kind : String} {e : Element} (h : ofName? kind = some e) :
    e.name = kind := by
  simpa using List.find?_some h

end Element

namespace PropertyKey

def level : String := "level"

/-- Whether a list is numbered. -/
def ordered : String := "ordered"

/-- Language of a code block as its source names it. -/
def language : String := "language"

def url : String := "url"

def title : String := "title"

def alt : String := "alt"

/-- Literal text of a text, code or raw node. -/
def content : String := "content"

def header : String := "header"

end PropertyKey

namespace Node

/-- Whether the node is of a standard kind. -/
def is (n : Node) (e : Element) : Bool := n.kind = e.name

theorem is_iff_ofName? {n : Node} {e : Element} :
    n.is e = true ↔ Element.ofName? n.kind = some e := by
  constructor
  · intro h
    have hkind : n.kind = e.name := by simpa [is] using h
    rw [hkind, Element.ofName?_name]
  · intro h
    simpa [is] using (Element.name_of_ofName? h).symm

/-- The kind of a node names at most one element. -/
theorem is_eq_decide {n : Node} {e : Element} (h : n.is e = true) (other : Element) :
    n.is other = decide (e = other) := by
  rw [Bool.eq_iff_iff, is_iff_ofName?, is_iff_ofName?.mp h]
  simp

theorem any_is {n : Node} {e : Element} (hkind : n.is e) (es : List Element) :
    es.any n.is = decide (e ∈ es) := by
  rw [Bool.eq_iff_iff]
  simp [is_eq_decide hkind]

/-- A node of a standard kind with the given children. -/
def ofElement (e : Element) (children : List Node) : Node := mk e.name .empty children none

@[simp] theorem kind_ofElement (e : Element) (children : List Node) :
    (ofElement e children).kind = e.name := rfl

@[simp] theorem properties_ofElement (e : Element) (children : List Node) :
    (ofElement e children).properties = .empty := rfl

@[simp] theorem children_ofElement (e : Element) (children : List Node) :
    (ofElement e children).children = children := rfl

/-- A node that is its literal content. -/
def ofContent (e : Element) (content : String) : Node :=
  (ofElement e []).withProperty PropertyKey.content (.text content)

theorem getText?_content_ofContent (e : Element) (content : String) :
    (ofContent e content).properties.getText? PropertyKey.content = some content :=
  getText?_withProperty ..

def text (content : String) : Node := ofContent .text content

def paragraph (children : List Node) : Node := ofElement .paragraph children

/-- A heading; the level is kept as given, and a writer refuses one outside one to six. -/
def heading (level : Int64) (children : List Node) : Node :=
  (ofElement .heading children).withProperty PropertyKey.level (.number level)

def list (ordered : Bool) (items : List Node) : Node :=
  (ofElement .list items).withProperty PropertyKey.ordered (.flag ordered)

def listItem (children : List Node) : Node := ofElement .listItem children

def tableRow (cells : List Node) : Node := ofElement .tableRow cells

/-- A table cell that says whether it is a header cell. -/
def tableCell (header : Bool) (children : List Node) : Node :=
  (ofElement .tableCell children).withProperty PropertyKey.header (.flag header)

def document (children : List Node) : Node := ofElement .document children

end Node

end WikiMarkup
