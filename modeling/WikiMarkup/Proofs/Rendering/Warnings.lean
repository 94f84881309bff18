import Mathlib.Data.List.Basic
import WikiMarkup.Confluence.Notation
import WikiMarkup.Proofs.Rendering.Assembly
import WikiMarkup.Proofs.Rendering.Outcome

/-!
The warnings of a rendered document. They are read off the tree: one for each visited node outside
the standard vocabulary, in document order, and no renderer has a say in them. Such a node is written
as a group is, that is, as the texts of its children one behind the other; putting groups in the place
of all of them changes nothing but the warnings.
-/

namespace WikiMarkup

namespace Node

/-- Whether a node is of one of the standard kinds. -/
def isStandard (n : Node) : Bool := Element.all.any n.is

/-- The warning for a node outside the standard vocabulary. -/
def reduction (n : Node) : FidelityWarning where
  severity := .minor
  unsupported := n.kind
  message := s!"{n.kind} has no Confluence equivalent; rendering its content only"
  span := n.span

theorem isStandard_eq (n : Node) : n.isStandard = (Element.ofName? n.kind).isSome := by
  rw [isStandard, Element.ofName?, List.isSome_find?]
  congr 1
  funext e
  simp only [is, eq_comm]

theorem ofName?_of_not_standard {n : Node} (h : n.isStandard = false) :
    Element.ofName? n.kind = none := by
  rwa [isStandard_eq, Option.isSome_eq_false_iff, Option.isNone_iff_eq_none] at h

theorem losses_eq (n : Node) : n.losses = if n.isStandard then [] else [n.reduction] := by
  rw [isStandard_eq, losses]
  cases Element.ofName? n.kind <;> rfl

theorem flatMap_losses (ns : List Node) :
    ns.flatMap losses = (ns.filter (!·.isStandard)).map reduction := by
  induction ns with
  | nil => rfl
  | cons n rest ih =>
      rw [List.flatMap_cons, ih, losses_eq]
      cases hn : n.isStandard <;> simp [hn]

mutual

/-- A tree with a group in the place of every node outside the standard vocabulary. -/
def withGroups : Node → Node
  | mk kind properties children span =>
      mk (if (mk kind properties children span).isStandard then kind else Element.group.name)
        properties (withGroupsAll children) span

def withGroupsAll : List Node → List Node
  | [] => []
  | n :: rest => withGroups n :: withGroupsAll rest

end

theorem withGroupsAll_eq_map (ns : List Node) : withGroupsAll ns = ns.map withGroups := by
  induction ns with
  | nil => rfl
  | cons n rest ih => rw [withGroupsAll, ih, List.map_cons]

@[simp] theorem properties_withGroups (n : Node) : n.withGroups.properties = n.properties := by
  cases n; rw [withGroups]; rfl

@[simp] theorem children_withGroups (n : Node) :
    n.withGroups.children = n.children.map withGroups := by
  cases n; rw [withGroups, ← withGroupsAll_eq_map]; rfl

theorem kind_withGroups (n : Node) :
    n.withGroups.kind = if n.isStandard then n.kind else Element.group.name := by
  cases n; rw [withGroups]; rfl

/-- A group is no node of which any rule asks for the kind. -/
theorem is_withGroups (n : Node) {e : Element} (he : e ≠ .group) : n.withGroups.is e = n.is e := by
  cases hn : n.isStandard with
  | true => rw [is, is, kind_withGroups, hn, if_pos rfl]
  | false =>
      have hgroup : n.withGroups.is .group := by
        rw [is, kind_withGroups, hn]
        rfl
      rw [is_eq_decide hgroup, is_eq_false (ofName?_of_not_standard hn), decide_eq_false he.symm]

theorem isStandard_withGroups (n : Node) : n.withGroups.isStandard = true := by
  rw [isStandard_eq, kind_withGroups]
  cases hn : n.isStandard with
  | true => rwa [if_pos rfl, ← isStandard_eq]
  | false => rfl

theorem any_is_withGroups (n : Node) {es : List Element} (h : .group ∉ es) :
    es.any n.withGroups.is = es.any n.is := by
  rw [Bool.eq_iff_iff, List.any_eq_true, List.any_eq_true]
  refine exists_congr fun e => and_congr_right fun he => ?_
  rw [is_withGroups n (ne_of_mem_of_not_mem he h)]

theorem isClosed_withGroups (n : Node) : n.withGroups.isClosed = n.isClosed :=
  any_is_withGroups n (by decide)

theorem startsLine_withGroups (n : Node) :
    Rule.startsLine n.withGroups = Rule.startsLine n :=
  any_is_withGroups n (by decide)

theorem isHeaderCell_withGroups (n : Node) :
    Rule.isHeaderCell n.withGroups = Rule.isHeaderCell n := by
  rw [Rule.isHeaderCell, Rule.isHeaderCell, is_withGroups n (by decide), properties_withGroups]

theorem inTableHead_withGroups (n : Node) :
    Rule.inTableHead n.withGroups = Rule.inTableHead n :=
  inTableHead_image (is_withGroups n (by decide)) (is_withGroups n (by decide))
    (children_withGroups n) isHeaderCell_withGroups

theorem ofNode_withGroups (r : Renderer) (n : Node) :
    Rule.ofNode r n.withGroups = Rule.ofNode r n := by
  cases hn : n.isStandard with
  | true =>
      apply ofNode_congr
      · rw [kind_withGroups, hn, if_pos rfl]
      · exact properties_withGroups n
  | false =>
      have hgroup : n.withGroups.is .group := by
        rw [is, kind_withGroups, hn]
        rfl
      rw [ofNode_of_is hgroup, Rule.ofNode, ofName?_of_not_standard hn]
      rfl

theorem text?_withGroups (r : Renderer) (n : Node) : n.withGroups.text? r = n.text? r := by
  induction n using childInduction with
  | step n ih =>
      apply text?_congr (ofNode_withGroups r n)
      rw [children_withGroups, List.map_map]
      apply List.map_congr_left
      intro child hchild
      rw [Function.comp_apply, outcome, outcome, ih child hchild, startsLine_withGroups,
        inTableHead_withGroups]

theorem visited_withGroups (n : Node) : n.withGroups.visited = n.visited.map withGroups := by
  induction n using childInduction with
  | step n ih =>
      rw [visited_eq, visited_eq n, isClosed_withGroups, List.map_cons, children_withGroups]
      cases n.isClosed with
      | true => rfl
      | false =>
          simp only [Bool.false_eq_true, if_false, List.flatMap_map, List.map_flatMap]
          rw [List.flatMap_congr ih]

/-- Putting groups in the place of nodes outside the vocabulary takes the warnings away and leaves the
text as it is. -/
theorem render_withGroups {r : Renderer} {n : Node} {result : Converted String}
    (h : n.render r = .ok result) : n.withGroups.render r = .ok (.exact result.value) := by
  have htext := text?_withGroups r n
  have houtcome := render_outcome r n.withGroups
  have hnone : n.withGroups.visited.flatMap losses = [] := by
    rw [List.flatMap_eq_nil_iff, visited_withGroups, List.forall_mem_map]
    intro m _
    rw [losses_eq, isStandard_withGroups, if_pos rfl]
  cases hgroups : n.withGroups.render r with
  | error e => simp [text?, h, hgroups, Except.map] at htext
  | ok other =>
      rw [hgroups] at houtcome
      simp only [text?, h, hgroups, Except.map, Except.ok.injEq] at htext
      obtain ⟨text, warnings⟩ := other
      have hwarnings : warnings = [] := houtcome.2.trans hnone
      rw [hwarnings, ← htext]
      rfl

theorem visited_trans {k m n : Node} (hm : m ∈ n.visited) (hk : k ∈ m.visited) : k ∈ n.visited := by
  induction n using childInduction with
  | step n ih =>
      cases hclosed : n.isClosed with
      | true =>
          rw [visited_of_closed hclosed, List.mem_singleton] at hm
          exact hm ▸ hk
      | false =>
          rw [visited_of_open hclosed, List.mem_cons] at hm
          rcases hm with rfl | hm
          · exact hk
          · obtain ⟨child, hchild, hm⟩ := List.mem_flatMap.mp hm
            exact mem_visited_of_child hclosed hchild (ih child hchild hm)

/-- What is visited in a tree that is written is written itself. -/
theorem exists_render_of_visited {r : Renderer} {n m : Node} {result : Converted String}
    (h : n.render r = .ok result) (hm : m ∈ n.visited) : ∃ inner, m.render r = .ok inner := by
  have houtcome := render_outcome r n
  rw [h] at houtcome
  cases hinner : m.render r with
  | ok inner => exact ⟨inner, rfl⟩
  | error e =>
      obtain ⟨before, k, after, heq, -, hbreaks⟩ := render_eq_error_iff.mp hinner
      have hk : k ∈ m.visited := by simp [heq]
      exact absurd hbreaks (houtcome.1 k (visited_trans hm hk) e)

theorem render_not_standard {r : Renderer} {n : Node} (hn : n.isStandard = false)
    {result : Converted String} (h : n.render r = .ok result) :
    ∃ parts, renderAll r n.children = .ok parts ∧ result.value = Rule.join parts.value := by
  have hrule : Rule.ofNode r n = .ok (.branch Rule.join) := by
    rw [Rule.ofNode, ofName?_of_not_standard hn]
  rw [render_eq, hrule] at h
  cases hall : renderAll r n.children with
  | error e => simp [hall] at h
  | ok parts =>
      simp only [hall, Except.ok.injEq] at h
      exact ⟨parts, rfl, by rw [← h]⟩

end Node

/-- The warnings of a document are those of the visited nodes outside the standard vocabulary, one
each and in document order, with every renderer. Each of these nodes is written as the texts of its
children, and a document with groups in their place has the same text and no warning. -/
theorem warnings_are_of_the_tree (doc : Document) (r : Renderer) {result : Converted String}
    (hrender : doc.render r = .ok result) :
    result.warnings = (doc.root.visited.filter (!·.isStandard)).map Node.reduction ∧
      (∀ other : Renderer, ∃ text, doc.render other = .ok ⟨text, result.warnings⟩) ∧
      (∀ n ∈ doc.root.visited, n.isStandard = false → ∃ inner parts, n.render r = .ok inner ∧
        Node.renderAll r n.children = .ok parts ∧ inner.value = Rule.join parts.value) ∧
      Document.render ⟨doc.root.withGroups⟩ r = .ok (.exact result.value) := by
  have houtcome := Node.render_outcome r doc.root
  rw [show doc.root.render r = .ok result from hrender] at houtcome
  refine ⟨houtcome.2.trans (Node.flatMap_losses _), ?_, ?_, Node.render_withGroups hrender⟩
  · intro other
    have hother := Node.render_outcome other doc.root
    cases hrendered : doc.root.render other with
    | ok result' =>
        rw [hrendered] at hother
        exact ⟨result'.value, by rw [Document.render, hrendered, houtcome.2, ← hother.2]⟩
    | error e =>
        rw [hrendered] at hother
        obtain ⟨before, n, after, heq, -, hbreaks⟩ := hother
        exact absurd hbreaks (houtcome.1 n (by simp [heq]) e)
  · intro n hn hunknown
    obtain ⟨inner, hinner⟩ := Node.exists_render_of_visited hrender hn
    obtain ⟨parts, hparts, hvalue⟩ := Node.render_not_standard hunknown hinner
    exact ⟨inner, parts, hinner, hparts, hvalue⟩

/-- A footnote in a sidebar, neither of which is a standard kind. -/
theorem warnings_are_of_the_tree_nested :
    let footnote := Node.mk "footnote" .empty [.text "a"] (some ⟨3, 4⟩)
    let doc : Document := ⟨.document [.mk "sidebar" .empty [.paragraph [footnote]] none]⟩
    let warnings : List FidelityWarning :=
      [⟨.minor, "sidebar", "sidebar has no Confluence equivalent; rendering its content only", none⟩,
        ⟨.minor, "footnote", "footnote has no Confluence equivalent; rendering its content only",
          some ⟨3, 4⟩⟩]
    doc.render (Confluence.renderer {}) = .ok ⟨"a\n\n", warnings⟩ ∧
      warnings = (doc.root.visited.filter (!·.isStandard)).map Node.reduction ∧
        Document.render ⟨doc.root.withGroups⟩ (Confluence.renderer {}) =
          .ok (.exact "a\n\n") := by
  intro footnote doc warnings
  have hrender : doc.render (Confluence.renderer {}) = .ok ⟨"a\n\n", warnings⟩ := by
    decide +kernel
  obtain ⟨hwarnings, -, -, hgroups⟩ :=
    warnings_are_of_the_tree doc (Confluence.renderer {}) hrender
  exact ⟨hrender, hwarnings, hgroups⟩

end WikiMarkup
