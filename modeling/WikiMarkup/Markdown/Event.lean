import WikiMarkup.Document.Node

/-!
Markdown read as a sequence of events: a construct begins with a start event that carries its tag
and ends with an end event that names only the kind of tag; all else is a single event. The end of a
construct is found by counting the starts and ends of its own kind, so tags of other kinds may cross
it.
-/

namespace WikiMarkup.Markdown

inductive HeadingLevel where
  | one
  | two
  | three
  | four
  | five
  | six
  deriving DecidableEq

def HeadingLevel.number : HeadingLevel → Int64
  | one => 1
  | two => 2
  | three => 3
  | four => 4
  | five => 5
  | six => 6

def HeadingLevel.ofNat? : Nat → Option HeadingLevel
  | 1 => some .one
  | 2 => some .two
  | 3 => some .three
  | 4 => some .four
  | 5 => some .five
  | 6 => some .six
  | _ => none

/-- What a construct is, without its particulars. -/
inductive TagKind where
  | paragraph
  | heading
  | blockQuote
  | codeBlock
  | htmlBlock
  | list
  | item
  | table
  | tableHead
  | tableRow
  | tableCell
  | emphasis
  | strong
  | strikethrough
  | link
  | image
  | footnoteDefinition
  | definitionList
  | definitionTitle
  | definitionText
  | metadata
  deriving DecidableEq

/-- A construct with its particulars. -/
inductive Tag where
  | paragraph
  | heading (level : HeadingLevel)
  /-- A block quote, or a note set as one. -/
  | blockQuote (note : Bool)
  /-- A code block; only a fenced one has an info string. -/
  | codeBlock (info : Option String)
  | htmlBlock
  /-- A list; a numbered one has a first number. -/
  | list (first : Option Nat)
  | item
  | table
  | tableHead
  | tableRow
  | tableCell
  | emphasis
  | strong
  | strikethrough
  /-- A link with its target and its title, empty if it has none. -/
  | link (url title : String)
  /-- An image with its address and its title, empty if it has none. -/
  | image (url title : String)
  | footnoteDefinition
  | definitionList
  | definitionTitle
  | definitionText
  | metadata
  deriving DecidableEq

def Tag.kind : Tag → TagKind
  | paragraph => .paragraph
  | heading _ => .heading
  | blockQuote _ => .blockQuote
  | codeBlock _ => .codeBlock
  | htmlBlock => .htmlBlock
  | list _ => .list
  | item => .item
  | table => .table
  | tableHead => .tableHead
  | tableRow => .tableRow
  | tableCell => .tableCell
  | emphasis => .emphasis
  | strong => .strong
  | strikethrough => .strikethrough
  | link _ _ => .link
  | image _ _ => .image
  | footnoteDefinition => .footnoteDefinition
  | definitionList => .definitionList
  | definitionTitle => .definitionTitle
  | definitionText => .definitionText
  | metadata => .metadata

/-- Whether constructs of this kind have a place in a document. The others belong to dialects of
markdown that are not read; no end event closes them. -/
def TagKind.isRead : TagKind → Bool
  | footnoteDefinition | definitionList | definitionTitle | definitionText | metadata => false
  | _ => true

inductive Event where
  | start (tag : Tag)
  | stop (kind : TagKind)
  | text (content : String)
  | code (content : String)
  | html (content : String)
  | inlineHtml (content : String)
  | softBreak
  | hardBreak
  | rule
  /-- Mathematics inside a line; not read. -/
  | inlineMath
  /-- Mathematics on lines of its own; not read. -/
  | displayMath
  /-- A reference to a footnote; not read. -/
  | footnoteReference
  /-- The box of a task; not read. -/
  | taskMarker
  deriving DecidableEq

/-- Whether the event stands for itself: it neither starts nor ends a construct. -/
def Event.isSingle : Event → Bool
  | start _ | stop _ => false
  | _ => true

structure SourceEvent where
  event : Event
  span : Span
  deriving DecidableEq

namespace SourceEvent

def opens (kind : TagKind) (e : SourceEvent) : Bool :=
  match e.event with
  | .start tag => tag.kind = kind
  | _ => false

def closes (kind : TagKind) (e : SourceEvent) : Bool :=
  match e.event with
  | .stop other => kind.isRead && other = kind
  | _ => false

end SourceEvent

/-- Where the construct that was opened before these events ends, when `depth` constructs of its
kind are open inside it. -/
def closingIndex? (kind : TagKind) : (depth : Nat) → List SourceEvent → Option Nat
  | _, [] => none
  | depth, e :: rest =>
      if e.opens kind then (closingIndex? kind (depth + 1) rest).map (· + 1)
      else if e.closes kind then
        match depth with
        | 0 => some 0
        | depth + 1 => (closingIndex? kind depth rest).map (· + 1)
      else (closingIndex? kind depth rest).map (· + 1)

/-- Where a construct ends, given the events after its start. A construct that is never closed ends
at the last event. -/
def closingIndex (kind : TagKind) (events : List SourceEvent) : Nat :=
  (closingIndex? kind 0 events).getD (events.length - 1)

/-- How many events belong to the construct or the single event at the head of a sequence; for a
start event without any event after it the end that is missing is counted too. -/
def extent (e : SourceEvent) (rest : List SourceEvent) : Nat :=
  match e.event with
  | .start tag => closingIndex tag.kind rest + 2
  | _ => 1

end WikiMarkup.Markdown
