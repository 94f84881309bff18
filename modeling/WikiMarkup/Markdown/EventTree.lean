import WikiMarkup.Document.Element
import WikiMarkup.Markdown.Event
import WikiMarkup.Text.Blank

/-!
The document tree that a sequence of events describes. Each construct becomes one node around the
nodes of the events inside it. Any sequence is accepted: an end event that closes nothing describes
nothing, and a construct that is never closed takes in all that follows but the last event.
-/

namespace WikiMarkup

namespace Node

mutual

/-- The literal contents of a node and of all nodes below it, in document order. -/
def plainText : Node → String
  | mk _ properties children _ =>
      (properties.getText? PropertyKey.content).getD "" ++ plainTextAll children

def plainTextAll : List Node → String
  | [] => ""
  | n :: rest => plainText n ++ plainTextAll rest

end

theorem plainText_eq (n : Node) :
    n.plainText =
      (n.properties.getText? PropertyKey.content).getD "" ++ plainTextAll n.children := by
  cases n
  rw [plainText]
  rfl

theorem plainTextAll_eq_join (ns : List Node) :
    plainTextAll ns = String.join (ns.map plainText) := by
  induction ns with
  | nil => rfl
  | cons n rest ih => rw [plainTextAll, ih, List.map_cons, String.join_cons]

theorem plainTextAll_map {f : Node → Node} {ns : List Node}
    (h : ∀ n ∈ ns, (f n).plainText = n.plainText) : plainTextAll (ns.map f) = plainTextAll ns := by
  rw [plainTextAll_eq_join, plainTextAll_eq_join, List.map_map]
  exact congrArg String.join (List.map_congr_left h)

/-- Sets the title of a link or an image, where there is one. -/
def withTitle (title : String) (n : Node) : Node :=
  if title.isEmpty then n else n.withProperty PropertyKey.title (.text title)

@[simp] theorem kind_withTitle (title : String) (n : Node) : (n.withTitle title).kind = n.kind := by
  unfold withTitle
  split <;> simp

@[simp] theorem children_withTitle (title : String) (n : Node) :
    (n.withTitle title).children = n.children := by
  unfold withTitle
  split <;> simp

theorem getText?_withTitle_of_ne (n : Node) {key : String} (h : key ≠ PropertyKey.title)
    (title : String) : (n.withTitle title).properties.getText? key = n.properties.getText? key := by
  unfold withTitle
  split
  · rfl
  · exact n.getText?_withProperty_of_ne h _

/-- A row whose cells are all marked as header cells, or all as data cells. -/
def rowOfCells (header : Bool) (cells : List Node) : Node :=
  tableRow (cells.map (·.withProperty PropertyKey.header (.flag header)))

/-- A table: its head sections, and one body section for all else that it holds. -/
def tableOfParts (parts : List Node) : Node :=
  let body := parts.filter (!·.is .tableHead)
  ofElement .table
    (parts.filter (·.is .tableHead) ++ if body.isEmpty then [] else [ofElement .tableBody body])

end Node

namespace Markdown

/-- The language that an info string names: its first word. -/
def infoLanguage? (info : String) : Option String :=
  (Text.firstWord? info.toList).map String.ofList

/-- A code block with its text and, if the info string of its fence names one, its language. -/
def codeBlockNode (info : Option String) (content : String) : Node :=
  let block := Node.ofContent .codeBlock content
  match info.bind infoLanguage? with
  | some language => block.withProperty PropertyKey.language (.text language)
  | none => block

@[simp] theorem kind_codeBlockNode (info : Option String) (content : String) :
    (codeBlockNode info content).kind = Element.codeBlock.name := by
  unfold codeBlockNode
  split <;> simp [Node.ofContent]

@[simp] theorem children_codeBlockNode (info : Option String) (content : String) :
    (codeBlockNode info content).children = [] := by
  unfold codeBlockNode
  split <;> simp [Node.ofContent]

theorem getText?_content_codeBlockNode (info : Option String) (content : String) :
    (codeBlockNode info content).properties.getText? PropertyKey.content = some content := by
  unfold codeBlockNode
  split
  · rw [Node.getText?_withProperty_of_ne _ (by decide), Node.getText?_content_ofContent]
  · exact Node.getText?_content_ofContent ..

/-- The node of a construct that holds the given nodes; none for a construct that is not read. -/
def Tag.node? (children : List Node) : Tag → Option Node
  | paragraph => some (.paragraph children)
  | heading level => some (.heading level.number children)
  | blockQuote _ => some (.ofElement .quote children)
  | codeBlock info => some (codeBlockNode info (Node.plainTextAll children))
  | htmlBlock =>
      some (.ofContent .rawBlock
        (String.join (children.filterMap (·.properties.getText? PropertyKey.content))))
  | list first => some (.list first.isSome children)
  | item => some (.listItem children)
  | table => some (Node.tableOfParts children)
  | tableHead => some (.ofElement .tableHead [Node.rowOfCells true children])
  | tableRow => some (Node.rowOfCells false children)
  | tableCell => some (.ofElement .tableCell children)
  | emphasis => some (.ofElement .emphasis children)
  | strong => some (.ofElement .strong children)
  | strikethrough => some (.ofElement .strikeout children)
  | link url title =>
      some (((Node.ofElement .link children).withProperty PropertyKey.url (.text url)).withTitle
        title)
  | image url title =>
      some ((((Node.ofElement .image []).withProperty PropertyKey.url (.text url)).withProperty
        PropertyKey.alt (.text (Node.plainTextAll children))).withTitle title)
  | footnoteDefinition | definitionList | definitionTitle | definitionText | metadata => none

/-- The node of a single event; none for an end event and for what is not read. -/
def Event.node? : Event → Option Node
  | text content => some (.text content)
  | code content => some (.ofContent .code content)
  | html content => some (.ofContent .rawBlock content)
  | inlineHtml content => some (.ofContent .rawInline content)
  | softBreak => some (.ofElement .softBreak [])
  | hardBreak => some (.ofElement .lineBreak [])
  | rule => some (.ofElement .rule [])
  | start _ | stop _ | inlineMath | displayMath | footnoteReference | taskMarker => none

/-- Notes the source of a node, if sources are to be kept. -/
def located (keepSpans : Bool) (span : Span) (n : Node) : Node :=
  if keepSpans then n.withSpan span else n

@[simp] theorem kind_located (keepSpans : Bool) (span : Span) (n : Node) :
    (located keepSpans span n).kind = n.kind := by
  cases keepSpans <;> simp [located]

@[simp] theorem properties_located (keepSpans : Bool) (span : Span) (n : Node) :
    (located keepSpans span n).properties = n.properties := by
  cases keepSpans <;> simp [located]

@[simp] theorem children_located (keepSpans : Bool) (span : Span) (n : Node) :
    (located keepSpans span n).children = n.children := by
  cases keepSpans <;> simp [located]

/-- The nodes that a sequence of events describes. -/
def nodesOfEvents (keepSpans : Bool) : List SourceEvent → List Node
  | [] => []
  | e :: rest =>
      let first :=
        match e.event with
        | .start tag =>
            -- Without an end event the last event bounds the construct and is not read.
            let close := closingIndex tag.kind rest
            let children := nodesOfEvents keepSpans (rest.take close)
            let stop := (rest[close]?.getD e).span.stop
            (tag.node? children).map (located keepSpans ⟨e.span.start, stop⟩)
        | event => event.node?.map (located keepSpans e.span)
      first.toList ++ nodesOfEvents keepSpans (rest.drop (extent e rest - 1))
  termination_by events => events.length
  decreasing_by
    all_goals simp only [List.length_take, List.length_drop, List.length_cons]; omega

@[simp] theorem nodesOfEvents_nil (keepSpans : Bool) : nodesOfEvents keepSpans [] = [] := by
  rw [nodesOfEvents]

/-- A start event gives the node of its construct, and reading goes on behind the end of it. -/
theorem nodesOfEvents_start (keepSpans : Bool) (tag : Tag) (span : Span)
    (rest : List SourceEvent) :
    nodesOfEvents keepSpans (⟨.start tag, span⟩ :: rest) =
      ((tag.node? (nodesOfEvents keepSpans (rest.take (closingIndex tag.kind rest)))).map
        (located keepSpans ⟨span.start,
          (rest[closingIndex tag.kind rest]?.getD ⟨.start tag, span⟩).span.stop⟩)).toList ++
      nodesOfEvents keepSpans (rest.drop (closingIndex tag.kind rest + 1)) := by
  rw [nodesOfEvents]
  rfl

theorem nodesOfEvents_single (keepSpans : Bool) {event : Event} (span : Span)
    (rest : List SourceEvent) (h : ∀ tag, event ≠ .start tag) :
    nodesOfEvents keepSpans (⟨event, span⟩ :: rest) =
      (event.node?.map (located keepSpans span)).toList ++ nodesOfEvents keepSpans rest := by
  rw [nodesOfEvents]
  cases event with
  | start tag => exact absurd rfl (h tag)
  | _ => rfl

theorem nodesOfEvents_leaf (keepSpans : Bool) {event : Event} (h : event.isSingle) (span : Span)
    (rest : List SourceEvent) :
    nodesOfEvents keepSpans (⟨event, span⟩ :: rest) =
      (event.node?.map (located keepSpans span)).toList ++ nodesOfEvents keepSpans rest := by
  apply nodesOfEvents_single
  rintro tag rfl
  simp [Event.isSingle] at h

/-- Induction along the reading of events: a construct is read from the events up to its end and
from those behind it. -/
theorem eventInduction {motive : List SourceEvent → Prop} (nil : motive [])
    (start : ∀ tag span rest, motive (rest.take (closingIndex tag.kind rest)) →
      motive (rest.drop (closingIndex tag.kind rest + 1)) → motive (⟨.start tag, span⟩ :: rest))
    (single : ∀ event span rest, (∀ tag, event ≠ .start tag) → motive rest →
      motive (⟨event, span⟩ :: rest)) (events : List SourceEvent) : motive events := by
  induction hlength : events.length using Nat.strongRecOn generalizing events with
  | ind length ih =>
      cases events with
      | nil => exact nil
      | cons e rest =>
          obtain ⟨event, span⟩ := e
          simp only [List.length_cons] at hlength
          by_cases h : ∃ tag, event = .start tag
          · obtain ⟨tag, rfl⟩ := h
            apply start
            · exact ih _ (by simp only [List.length_take]; omega) _ rfl
            · exact ih _ (by simp only [List.length_drop]; omega) _ rfl
          · apply single
            · intro tag heq
              exact h ⟨tag, heq⟩
            · exact ih rest.length (by omega) rest rfl

def documentOfEvents (keepSpans : Bool) (events : List SourceEvent) : Document :=
  ⟨.document (nodesOfEvents keepSpans events)⟩

end Markdown

end WikiMarkup
