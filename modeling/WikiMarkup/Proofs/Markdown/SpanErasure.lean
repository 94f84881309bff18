import WikiMarkup.Markdown.EventTree
import WikiMarkup.Proofs.Rendering.Assembly

/-!
Spans as annotations. A node may note the bytes that it came from. Reading with spans gives the same
trees as reading without them, but for the spans; and two trees that differ in their spans only are
written alike, or refused alike, by every renderer. Warnings are the one place where a span comes to
light: each repeats the span of its node.
-/

namespace WikiMarkup

/-- The warning without the bytes that it is about. -/
def FidelityWarning.withoutSpan (w : FidelityWarning) : FidelityWarning := { w with span := none }

/-- A result with the bytes taken out of its warnings. -/
def Converted.withoutSpans {α : Type} (result : Converted α) : Converted α :=
  ⟨result.value, result.warnings.map (·.withoutSpan)⟩

namespace Node

mutual

/-- The tree without any spans. -/
def withoutSpans : Node → Node
  | mk kind properties children _ => mk kind properties (withoutSpansAll children) none

def withoutSpansAll : List Node → List Node
  | [] => []
  | n :: rest => withoutSpans n :: withoutSpansAll rest

end

theorem withoutSpansAll_eq_map (ns : List Node) : withoutSpansAll ns = ns.map withoutSpans := by
  induction ns with
  | nil => rfl
  | cons n rest ih => rw [withoutSpansAll, ih, List.map_cons]

theorem withoutSpans_eq (n : Node) :
    n.withoutSpans = mk n.kind n.properties (n.children.map withoutSpans) none := by
  cases n
  rw [withoutSpans, withoutSpansAll_eq_map]
  rfl

@[simp] theorem kind_withoutSpans (n : Node) : n.withoutSpans.kind = n.kind := by
  rw [withoutSpans_eq]
  rfl

@[simp] theorem properties_withoutSpans (n : Node) :
    n.withoutSpans.properties = n.properties := by
  rw [withoutSpans_eq]
  rfl

@[simp] theorem children_withoutSpans (n : Node) :
    n.withoutSpans.children = n.children.map withoutSpans := by
  rw [withoutSpans_eq]
  rfl

@[simp] theorem span_withoutSpans (n : Node) : n.withoutSpans.span = none := by
  rw [withoutSpans_eq]
  rfl

@[simp] theorem is_withoutSpans (n : Node) (e : Element) : n.withoutSpans.is e = n.is e := by
  rw [is, is, kind_withoutSpans]

section Assembly

variable (n : Node) (ns : List Node)

theorem withoutSpans_mk (kind : String) (properties : Properties) (span : Option Span) :
    (mk kind properties ns span).withoutSpans =
      mk kind properties (ns.map withoutSpans) none := by
  rw [withoutSpans, withoutSpansAll_eq_map]

@[simp] theorem withoutSpans_ofElement (e : Element) :
    (ofElement e ns).withoutSpans = ofElement e (ns.map withoutSpans) :=
  withoutSpans_mk ns ..

@[simp] theorem withoutSpans_withProperty (key : String) (value : PropertyValue) :
    (n.withProperty key value).withoutSpans = n.withoutSpans.withProperty key value := by
  cases n
  simp only [withProperty, withoutSpans_mk]

@[simp] theorem withoutSpans_withTitle (title : String) :
    (n.withTitle title).withoutSpans = n.withoutSpans.withTitle title := by
  unfold withTitle
  split
  · rfl
  · exact withoutSpans_withProperty ..

@[simp] theorem withoutSpans_located (keepSpans : Bool) (span : Span) :
    (Markdown.located keepSpans span n).withoutSpans = n.withoutSpans := by
  cases n
  cases keepSpans <;> simp [Markdown.located, withSpan, withoutSpans_mk]

@[simp] theorem withoutSpans_ofContent (e : Element) (content : String) :
    (ofContent e content).withoutSpans = ofContent e content := by
  rw [ofContent, withoutSpans_withProperty, withoutSpans_ofElement, List.map_nil]

@[simp] theorem withoutSpans_rowOfCells (header : Bool) :
    (rowOfCells header ns).withoutSpans = rowOfCells header (ns.map withoutSpans) := by
  rw [rowOfCells, rowOfCells, tableRow, tableRow, withoutSpans_ofElement, List.map_map,
    List.map_map]
  congr 2
  funext cell
  exact withoutSpans_withProperty ..

@[simp] theorem withoutSpans_tableOfParts :
    (tableOfParts ns).withoutSpans = tableOfParts (ns.map withoutSpans) := by
  have hfilter : ∀ keep : Bool → Bool, (ns.map withoutSpans).filter (keep <| ·.is .tableHead) =
      (ns.filter (keep <| ·.is .tableHead)).map withoutSpans := by
    intro keep
    rw [List.filter_map]
    congr 2
    funext part
    rw [Function.comp_apply, is_withoutSpans]
  have hheads := hfilter id
  have hrest := hfilter not
  simp only [id_eq] at hheads
  rw [tableOfParts, tableOfParts, withoutSpans_ofElement, hheads, hrest, List.map_append,
    List.isEmpty_map]
  congr 2
  split
  · rfl
  · rw [List.map_singleton, withoutSpans_ofElement]

theorem plainText_withoutSpans : n.withoutSpans.plainText = n.plainText := by
  induction n using childInduction with
  | step n ih =>
      rw [plainText_eq, plainText_eq, properties_withoutSpans, children_withoutSpans,
        plainTextAll_map ih]

@[simp] theorem plainTextAll_withoutSpans : plainTextAll (ns.map withoutSpans) = plainTextAll ns :=
  plainTextAll_map fun n _ => plainText_withoutSpans n

theorem contents_withoutSpans :
    (ns.map withoutSpans).filterMap (·.properties.getText? PropertyKey.content) =
      ns.filterMap (·.properties.getText? PropertyKey.content) := by
  rw [List.filterMap_map]
  congr 1
  funext n
  rw [Function.comp_apply, properties_withoutSpans]

end Assembly

theorem losses_withoutSpans (n : Node) :
    n.withoutSpans.losses = n.losses.map (·.withoutSpan) := by
  rw [losses, losses, kind_withoutSpans]
  cases Element.ofName? n.kind with
  | some e => rfl
  | none => simp [FidelityWarning.withoutSpan]

theorem renderAll_withoutSpans {r : Renderer} {ns : List Node}
    (h : ∀ n ∈ ns, n.withoutSpans.render r = (n.render r).map (·.withoutSpans)) :
    renderAll r (ns.map withoutSpans) = (renderAll r ns).map fun parts =>
      ⟨parts.value.map fun part => (part.1.withoutSpans, part.2),
        parts.warnings.map (·.withoutSpan)⟩ := by
  induction ns with
  | nil => rfl
  | cons n rest ih =>
      obtain ⟨hn, hrest⟩ := List.forall_mem_cons.mp h
      rw [List.map_cons, renderAll, renderAll, hn, ih hrest]
      cases n.render r with
      | error e => rfl
      | ok first =>
          cases renderAll r rest with
          | error e => rfl
          | ok others => simp [Except.map, Converted.withoutSpans]

theorem isHeaderCell_withoutSpans (n : Node) :
    Rule.isHeaderCell n.withoutSpans = Rule.isHeaderCell n := by
  rw [Rule.isHeaderCell, Rule.isHeaderCell, is_withoutSpans, properties_withoutSpans]

/-- What the rule of a parent sees of a part has nothing to do with spans. -/
theorem seen_withoutSpans (part : Node × String) :
    seen (part.1.withoutSpans, part.2) = seen part := by
  obtain ⟨n, text⟩ := part
  have his : n.withoutSpans.is = n.is := funext (is_withoutSpans n)
  have hhead : Rule.inTableHead n.withoutSpans = Rule.inTableHead n :=
    inTableHead_image (is_withoutSpans n _) (is_withoutSpans n _) (children_withoutSpans n)
      isHeaderCell_withoutSpans
  simp only [seen, Rule.startsLine, his, hhead]

theorem render_withoutSpans (r : Renderer) (n : Node) :
    n.withoutSpans.render r = (n.render r).map (·.withoutSpans) := by
  induction n using childInduction with
  | step n ih =>
      have hrule : Rule.ofNode r n.withoutSpans = Rule.ofNode r n :=
        ofNode_congr r (kind_withoutSpans n) (properties_withoutSpans n)
      have hall := renderAll_withoutSpans ih
      rw [render_eq, render_eq, hrule, children_withoutSpans, hall, losses_withoutSpans]
      cases hcase : Rule.ofNode r n with
      | error e => rfl
      | ok rule =>
          cases rule with
          | leaf text => rfl
          | branch assemble =>
              cases renderAll r n.children with
              | error e => rfl
              | ok parts =>
                  have hseen : (parts.value.map fun part =>
                      (part.1.withoutSpans, part.2)).map seen = parts.value.map seen := by
                    rw [List.map_map]
                    exact List.map_congr_left fun part _ => seen_withoutSpans part
                  have htext := branch_congr hcase (join_of_seen hseen)
                    (fun _ => itemBody_of_seen hseen) fun _ => tableText_of_seen r hseen
                  simp [Except.map, Converted.withoutSpans, htext]

end Node

namespace Markdown

open Node

@[simp] theorem withoutSpans_codeBlockNode (info : Option String) (content : String) :
    (codeBlockNode info content).withoutSpans = codeBlockNode info content := by
  unfold codeBlockNode
  split
  · rw [withoutSpans_withProperty, withoutSpans_ofContent]
  · rw [withoutSpans_ofContent]

/-- A construct makes the same of nodes without spans, whatever it makes of nodes. -/
theorem Tag.node?_withoutSpans (tag : Tag) (children : List Node) :
    tag.node? (children.map withoutSpans) = (tag.node? children).map withoutSpans := by
  cases tag
  case htmlBlock =>
    rw [Tag.node?, Tag.node?, contents_withoutSpans, Option.map_some, withoutSpans_ofContent]
  all_goals simp [Tag.node?, Node.paragraph, Node.heading, Node.list, Node.listItem]

theorem Event.node?_withoutSpans (event : Event) :
    event.node?.map withoutSpans = event.node? := by
  cases event <;> simp [Event.node?, Node.text]

theorem map_withoutSpans_nodesOfEvents (keepSpans : Bool) (events : List SourceEvent) :
    (nodesOfEvents keepSpans events).map withoutSpans = nodesOfEvents false events := by
  have hlocated : ∀ (node? : Option Node) (span span' : Span),
      ((node?.map (located keepSpans span)).toList).map withoutSpans =
        ((node?.map withoutSpans).map (located false span')).toList := by
    intro node? span span'
    cases node? with
    | none => rfl
    | some n => exact congrArg (fun m => [m]) (withoutSpans_located n keepSpans span)
  induction events using eventInduction with
  | nil => simp only [nodesOfEvents_nil, List.map_nil]
  | start tag span rest hinside hbehind =>
      rw [nodesOfEvents_start, nodesOfEvents_start, List.map_append, hbehind, ← hinside,
        Tag.node?_withoutSpans, hlocated]
  | single event span rest hsingle ih =>
      rw [nodesOfEvents_single _ _ _ hsingle, nodesOfEvents_single _ _ _ hsingle, List.map_append,
        ih, hlocated, Event.node?_withoutSpans]

end Markdown

/-- Spans are annotations. Events in any order are read with spans as they are read without, but for
the spans; and without its spans a tree is written as the same text, or refused for the same error,
by every renderer, and with the same warnings but for their spans. -/
theorem spans_are_annotations :
    (∀ events, (Markdown.nodesOfEvents true events).map Node.withoutSpans =
      Markdown.nodesOfEvents false events) ∧
      ∀ (r : Renderer) (n : Node), n.withoutSpans.render r =
        (n.render r).map fun result =>
          ⟨result.value, result.warnings.map fun w => { w with span := none }⟩ :=
  ⟨Markdown.map_withoutSpans_nodesOfEvents true, Node.render_withoutSpans⟩

end WikiMarkup
