import WikiMarkup.Document.Warning
import WikiMarkup.Rendering.Rule

/-!
Rendering of whole trees. The walk goes depth first and leaves first: the rule of a node is looked
up, so that a requirement that fails is reported before anything below the node is read; then the
children are written, and their texts are put together by the rule. Warnings come in the order in
which the walk meets their nodes.
-/

namespace WikiMarkup

namespace Node

/-- What is lost at the node itself: a node of unknown kind is reduced to its children. -/
def losses (n : Node) : List FidelityWarning :=
  match Element.ofName? n.kind with
  | some _ => []
  | none =>
      [{ severity := .minor
         unsupported := n.kind
         message := s!"{n.kind} has no Confluence equivalent; rendering its content only"
         span := n.span }]

mutual

def render (r : Renderer) : Node → Except RenderError (Converted String)
  | mk kind properties children span =>
      match Rule.ofNode r (mk kind properties children span) with
      | .error e => .error e
      | .ok (.leaf text) => .ok (.exact text)
      | .ok (.branch assemble) =>
          match renderAll r children with
          | .error e => .error e
          | .ok parts =>
              .ok ⟨assemble parts.value,
                losses (mk kind properties children span) ++ parts.warnings⟩

/-- Writes nodes one after the other and keeps each beside its text. -/
def renderAll (r : Renderer) : List Node → Except RenderError (Converted (List (Node × String)))
  | [] => .ok (.exact [])
  | n :: rest =>
      match render r n with
      | .error e => .error e
      | .ok first =>
          match renderAll r rest with
          | .error e => .error e
          | .ok others =>
              .ok ⟨(n, first.value) :: others.value, first.warnings ++ others.warnings⟩

end

/-- The walk in one equation, for a node given whole. -/
theorem render_eq (r : Renderer) (n : Node) :
    n.render r =
      match Rule.ofNode r n with
      | .error e => .error e
      | .ok (.leaf text) => .ok (.exact text)
      | .ok (.branch assemble) =>
          match renderAll r n.children with
          | .error e => .error e
          | .ok parts => .ok ⟨assemble parts.value, n.losses ++ parts.warnings⟩ := by
  cases n
  rw [render]
  rfl

theorem ofNode_of_is {n : Node} {e : Element} (h : n.is e) (r : Renderer) :
    Rule.ofNode r n = Rule.ofElement r n e := by
  rw [Rule.ofNode, is_iff_ofName?.mp h]

theorem losses_of_is {n : Node} {e : Element} (h : n.is e) : n.losses = [] := by
  rw [losses, is_iff_ofName?.mp h]

theorem render_leaf {r : Renderer} {n : Node} {text : String}
    (hrule : Rule.ofNode r n = .ok (.leaf text)) : n.render r = .ok (.exact text) := by
  rw [render_eq, hrule]

theorem render_branch {r : Renderer} {n : Node} {assemble : List (Node × String) → String}
    {parts : List (Node × String)} (hrule : Rule.ofNode r n = .ok (.branch assemble))
    (hknown : n.losses = []) (hparts : renderAll r n.children = .ok (.exact parts)) :
    n.render r = .ok (.exact (assemble parts)) := by
  rw [render_eq, hrule]
  simp only [hparts, hknown, Converted.exact, List.append_nil]

/-- Nodes that are each written without a warning are written together without one, and what is
known of the text of each is known of the parts. -/
theorem renderAll_exact {r : Renderer} {ns : List Node} {P : Node → String → Prop}
    (h : ∀ n ∈ ns, ∃ text, n.render r = .ok (.exact text) ∧ P n text) :
    ∃ parts, renderAll r ns = .ok (.exact parts) ∧ parts.map (·.1) = ns ∧
      ∀ part ∈ parts, P part.1 part.2 := by
  induction ns with
  | nil => exact ⟨[], by rw [renderAll], rfl, by simp⟩
  | cons n rest ih =>
      obtain ⟨text, hn, htext⟩ := h n (by simp)
      obtain ⟨parts, hparts, hfirst, hall⟩ := ih fun m hm => h m (by simp [hm])
      refine ⟨(n, text) :: parts, ?_, by simp [hfirst], ?_⟩
      · simp only [renderAll, hn, hparts, Converted.exact, List.append_nil]
      · intro part hpart
        rcases List.mem_cons.mp hpart with rfl | hpart
        · exact htext
        · exact hall part hpart

end Node

def Document.render (doc : Document) (r : Renderer) : Except RenderError (Converted String) :=
  doc.root.render r

end WikiMarkup
