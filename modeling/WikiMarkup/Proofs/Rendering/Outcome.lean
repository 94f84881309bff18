import WikiMarkup.Proofs.Rendering.Visited

/-!
What rendering reports of a whole tree. Of the visited nodes the first in document order that breaks
a requirement decides the error, although a table prints its children in another order than it
reads them; if there is none, the result carries the warnings of all visited nodes. Renderers differ
in the text only.
-/

namespace WikiMarkup

namespace Node

/-- The first node of a list that breaks a requirement breaks it with the given error. -/
def FirstBreak (nodes : List Node) (e : RenderError) : Prop :=
  ∃ before n after, nodes = before ++ n :: after ∧ (∀ m ∈ before, m.IsSound) ∧ n.Breaks e

theorem FirstBreak.head {n : Node} {rest : List Node} {e : RenderError} (h : n.Breaks e) :
    FirstBreak (n :: rest) e :=
  ⟨[], n, rest, rfl, by simp, h⟩

theorem FirstBreak.append_right {ns : List Node} {e : RenderError} (h : FirstBreak ns e)
    (more : List Node) : FirstBreak (ns ++ more) e := by
  obtain ⟨before, n, after, rfl, hbefore, hbreaks⟩ := h
  exact ⟨before, n, after ++ more, by simp, hbefore, hbreaks⟩

theorem FirstBreak.append_left {ns more : List Node} {e : RenderError}
    (hns : ∀ n ∈ ns, n.IsSound) (h : FirstBreak more e) : FirstBreak (ns ++ more) e := by
  obtain ⟨before, n, after, rfl, hbefore, hbreaks⟩ := h
  refine ⟨ns ++ before, n, after, by simp, ?_, hbreaks⟩
  intro m hm
  rcases List.mem_append.mp hm with hm | hm
  · exact hns m hm
  · exact hbefore m hm

theorem FirstBreak.cons {n : Node} {rest : List Node} {e : RenderError} (hn : n.IsSound)
    (h : FirstBreak rest e) : FirstBreak (n :: rest) e := by
  have hsingle : ∀ m ∈ [n], m.IsSound := by simpa using hn
  exact FirstBreak.append_left hsingle h

theorem firstBreak_cons_iff {n : Node} {rest : List Node} {e : RenderError} :
    FirstBreak (n :: rest) e ↔ n.Breaks e ∨ n.IsSound ∧ FirstBreak rest e := by
  constructor
  · rintro ⟨before, m, after, heq, hbefore, hbreaks⟩
    cases before with
    | nil =>
        cases heq
        exact .inl hbreaks
    | cons head tail =>
        cases heq
        exact .inr ⟨hbefore n (by simp), tail, m, after, rfl,
          fun k hk => hbefore k (by simp [hk]), hbreaks⟩
  · rintro (hbreaks | ⟨hsound, hrest⟩)
    · exact .head hbreaks
    · exact .cons hsound hrest

/-- A node breaks at most one requirement: the one that the rule of any renderer reports. -/
theorem Breaks.unique (r : Renderer) {n : Node} {e other : RenderError} (h : n.Breaks e)
    (hother : n.Breaks other) : e = other := by
  have herror := h.ofNode r
  rw [hother.ofNode r] at herror
  exact (Except.error.inj herror).symm

theorem FirstBreak.unique (r : Renderer) {ns : List Node} {e other : RenderError}
    (h : FirstBreak ns e) (hother : FirstBreak ns other) : e = other := by
  induction ns with
  | nil =>
      obtain ⟨before, n, after, heq, _⟩ := h
      simp at heq
  | cons n rest ih =>
      rcases firstBreak_cons_iff.mp h with hbreaks | ⟨hsound, hrest⟩
      · rcases firstBreak_cons_iff.mp hother with hbreaks' | ⟨hsound', _⟩
        · exact hbreaks.unique r hbreaks'
        · exact absurd hbreaks (hsound' e)
      · rcases firstBreak_cons_iff.mp hother with hbreaks' | ⟨_, hrest'⟩
        · exact absurd hbreaks' (hsound other)
        · exact ih hrest hrest'

/-- A walk over the given nodes has either found all of them sound and collected the warnings of
each, or stopped at the first that breaks a requirement. -/
def WalkOutcome {α : Type} (nodes : List Node) : Except RenderError (Converted α) → Prop
  | .ok result => (∀ n ∈ nodes, n.IsSound) ∧ result.warnings = nodes.flatMap losses
  | .error e => FirstBreak nodes e

theorem renderAll_outcome (r : Renderer) (ns : List Node)
    (h : ∀ n ∈ ns, WalkOutcome n.visited (n.render r)) :
    WalkOutcome (ns.flatMap visited) (renderAll r ns) := by
  induction ns with
  | nil => simp [renderAll, WalkOutcome, Converted.exact]
  | cons n rest ih =>
      have hfirst := h n (by simp)
      have hrest := ih fun m hm => h m (by simp [hm])
      simp only [renderAll, List.flatMap_cons]
      cases hn : n.render r with
      | error e =>
          rw [hn] at hfirst
          exact hfirst.append_right _
      | ok first =>
          rw [hn] at hfirst
          cases hall : renderAll r rest with
          | error e =>
              rw [hall] at hrest
              exact .append_left hfirst.1 hrest
          | ok others =>
              rw [hall] at hrest
              refine ⟨?_, by simp [hfirst.2, hrest.2]⟩
              intro m hm
              rcases List.mem_append.mp hm with hm | hm
              · exact hfirst.1 m hm
              · exact hrest.1 m hm

/-- What rendering reports is decided by the visited nodes alone, for every renderer. -/
theorem render_outcome (r : Renderer) (n : Node) : WalkOutcome n.visited (n.render r) := by
  induction n using childInduction with
  | step n ih =>
      rw [render_eq, visited_eq]
      rcases ofNode_cases r n with ⟨e, hrule, hbreaks⟩ | ⟨hsound, hclosed, hlosses, text, hrule⟩ |
        ⟨hsound, hopen, assemble, hrule⟩
      · simp only [hrule]
        exact .head hbreaks
      · simp only [hrule, hclosed, if_true]
        exact ⟨by simpa using hsound, by simp [Converted.exact, hlosses]⟩
      · have hchildren := renderAll_outcome r n.children ih
        simp only [hrule, hopen, Bool.false_eq_true, if_false]
        cases hall : renderAll r n.children with
        | error e =>
            rw [hall] at hchildren
            exact .cons hsound hchildren
        | ok parts =>
            rw [hall] at hchildren
            refine ⟨?_, by simp [hchildren.2]⟩
            intro m hm
            rcases List.mem_cons.mp hm with rfl | hm
            · exact hsound
            · exact hchildren.1 m hm

theorem renderAll_append (r : Renderer) (ns others : List Node) :
    renderAll r (ns ++ others) =
      match renderAll r ns with
      | .error e => .error e
      | .ok first =>
          match renderAll r others with
          | .error e => .error e
          | .ok rest => .ok ⟨first.value ++ rest.value, first.warnings ++ rest.warnings⟩ := by
  induction ns with
  | nil =>
      rw [List.nil_append, renderAll]
      cases renderAll r others <;> rfl
  | cons n rest ih =>
      rw [List.cons_append, renderAll, renderAll, ih]
      cases n.render r with
      | error e => rfl
      | ok first =>
          cases renderAll r rest with
          | error e => rfl
          | ok second => cases renderAll r others <;> simp

/-- What was written for nodes that were written one after the other. -/
theorem renderAll_parts {r : Renderer} {ns : List Node} {parts : Converted (List (Node × String))}
    (h : renderAll r ns = .ok parts) :
    parts.value.map (·.1) = ns ∧
      ∀ part ∈ parts.value, ∃ warnings, part.1.render r = .ok ⟨part.2, warnings⟩ := by
  induction ns generalizing parts with
  | nil =>
      simp only [renderAll, Except.ok.injEq] at h
      subst h
      simp [Converted.exact]
  | cons n rest ih =>
      rw [renderAll] at h
      cases hn : n.render r with
      | error e => simp [hn] at h
      | ok first =>
          cases hrest : renderAll r rest with
          | error e => simp [hn, hrest] at h
          | ok others =>
              obtain ⟨hnodes, hwritten⟩ := ih hrest
              simp only [hn, hrest, Except.ok.injEq] at h
              subst h
              refine ⟨by simp [hnodes], ?_⟩
              intro part hpart
              rcases List.mem_cons.mp hpart with rfl | hpart
              · exact ⟨first.warnings, hn⟩
              · exact hwritten part hpart

/-- Nodes that are each written are written one after the other. -/
theorem exists_renderAll {r : Renderer} {parts : List (Node × String)}
    (h : ∀ part ∈ parts, ∃ warnings, part.1.render r = .ok ⟨part.2, warnings⟩) :
    ∃ warnings, renderAll r (parts.map (·.1)) = .ok ⟨parts, warnings⟩ := by
  induction parts with
  | nil => exact ⟨[], rfl⟩
  | cons part rest ih =>
      obtain ⟨own, hpart⟩ := h part (by simp)
      obtain ⟨others, hrest⟩ := ih fun other hother => h other (by simp [hother])
      exact ⟨own ++ others, by simp only [List.map_cons, renderAll, hpart, hrest]⟩

/-- A node that is not closed is put together from its children, where it is written at all. -/
theorem exists_parts_of_render {r : Renderer} {n : Node} (hopen : n.isClosed = false)
    {result : Converted String} (h : n.render r = .ok result) :
    ∃ assemble parts, Rule.ofNode r n = .ok (.branch assemble) ∧
      renderAll r n.children = .ok parts ∧
        result = ⟨assemble parts.value, n.losses ++ parts.warnings⟩ := by
  rw [render_eq] at h
  rcases ofNode_cases r n with ⟨e, hrule, -⟩ | ⟨-, hclosed, -⟩ | ⟨-, -, assemble, hrule⟩
  · simp [hrule] at h
  · simp [hopen] at hclosed
  · cases hall : renderAll r n.children with
    | error e => simp [hrule, hall] at h
    | ok parts =>
        simp only [hrule, hall, Except.ok.injEq] at h
        exact ⟨assemble, parts, hrule, rfl, h.symm⟩

/-- A child of such a node is one of the parts that the node is put together from. -/
theorem exists_part_of_render {r : Renderer} {n child : Node} (hopen : n.isClosed = false)
    (hchild : child ∈ n.children) {result : Converted String} (h : n.render r = .ok result) :
    ∃ assemble parts text warnings, Rule.ofNode r n = .ok (.branch assemble) ∧
      (child, text) ∈ parts ∧ child.render r = .ok ⟨text, warnings⟩ ∧
        result.value = assemble parts := by
  obtain ⟨assemble, parts, hrule, hall, rfl⟩ := exists_parts_of_render hopen h
  obtain ⟨hnodes, hwritten⟩ := renderAll_parts hall
  rw [← hnodes] at hchild
  obtain ⟨part, hpart, rfl⟩ := List.mem_map.mp hchild
  obtain ⟨warnings, hrendered⟩ := hwritten part hpart
  exact ⟨assemble, parts.value, part.2, warnings, hrule, hpart, hrendered, rfl⟩

theorem render_eq_error_iff {r : Renderer} {n : Node} {e : RenderError} :
    n.render r = .error e ↔ FirstBreak n.visited e := by
  have houtcome := render_outcome r n
  constructor
  · intro h
    rwa [h] at houtcome
  · intro h
    cases hrender : n.render r with
    | ok result =>
        rw [hrender] at houtcome
        obtain ⟨before, m, after, heq, _, hbreaks⟩ := h
        exact absurd hbreaks (houtcome.1 m (by simp [heq]) e)
    | error other =>
        rw [hrender] at houtcome
        rw [FirstBreak.unique r houtcome h]

/-- If no visited node is at fault and nothing is lost at any, the tree is written without warning. -/
theorem exists_render_of_sound {n : Node} (h : ∀ m ∈ n.visited, m.IsSound ∧ m.losses = [])
    (r : Renderer) : ∃ text, n.render r = .ok (.exact text) := by
  have houtcome := render_outcome r n
  cases hrender : n.render r with
  | error e =>
      rw [hrender] at houtcome
      obtain ⟨before, m, after, heq, _, hbreaks⟩ := houtcome
      exact absurd hbreaks ((h m (by simp [heq])).1 e)
  | ok result =>
      rw [hrender] at houtcome
      have hnone : n.visited.flatMap losses = [] :=
        List.flatMap_eq_nil_iff.mpr fun m hm => (h m hm).2
      obtain ⟨text, warnings⟩ := result
      have hwarnings : warnings = [] := houtcome.2.trans hnone
      exact ⟨text, by rw [hwarnings]; rfl⟩

/-- Some requirement is broken as soon as any is: there is then a first one. -/
theorem exists_firstBreak {ns : List Node} (h : ∃ n ∈ ns, ∃ e, n.Breaks e) :
    ∃ e, FirstBreak ns e := by
  induction ns with
  | nil => simp at h
  | cons n rest ih =>
      by_cases hn : ∃ e, n.Breaks e
      · obtain ⟨e, hbreaks⟩ := hn
        exact ⟨e, .head hbreaks⟩
      · obtain ⟨m, hm, hbreaks⟩ := h
        have hsound : n.IsSound := fun e he => hn ⟨e, he⟩
        rcases List.mem_cons.mp hm with rfl | hm
        · exact absurd hbreaks hn
        · obtain ⟨e, hfirst⟩ := ih ⟨m, hm, hbreaks⟩
          exact ⟨e, .cons hsound hfirst⟩

/-- The notation of headings outside the six levels has no influence on the rule of a node. -/
theorem ofNode_congr_heading (r : Renderer) (heading : Nat → String → String)
    (h : ∀ level, 1 ≤ level → level ≤ 6 → heading level = r.heading level) (n : Node) :
    Rule.ofNode { r with heading := heading } n = Rule.ofNode r n := by
  cases hkind : Element.ofName? n.kind with
  | none => simp only [Rule.ofNode, hkind]
  | some e =>
      simp only [Rule.ofNode, hkind]
      cases e with
      | heading =>
          rcases requireLevel_cases (is_iff_ofName?.mpr hkind) with
            ⟨level, hok, _, hlow, hhigh⟩ | ⟨e, herr, _⟩
          · have hsame := h level.toInt.toNat (by omega) (by omega)
            simp only [Rule.ofElement, hok, bind, Except.bind, hsame]
          · simp only [Rule.ofElement, herr, bind, Except.bind]
      | _ => rfl

theorem renderAll_congr {r other : Renderer} {ns : List Node}
    (h : ∀ n ∈ ns, n.render other = n.render r) : renderAll other ns = renderAll r ns := by
  induction ns with
  | nil => rfl
  | cons n rest ih =>
      simp only [renderAll]
      rw [h n (by simp), ih fun m hm => h m (by simp [hm])]

theorem render_congr_heading (r : Renderer) (heading : Nat → String → String)
    (h : ∀ level, 1 ≤ level → level ≤ 6 → heading level = r.heading level) (n : Node) :
    n.render { r with heading := heading } = n.render r := by
  induction n using childInduction with
  | step n ih =>
      rw [render_eq, render_eq, ofNode_congr_heading r heading h, renderAll_congr ih]

end Node

/-- Rendering fails exactly if some visited node breaks a requirement of its kind, and then with
the error of the first such node in document order. So a renderer is asked for headings of the
levels one to six only: how it would write others cannot be told from any document. -/
theorem render_stops_at_first_break (doc : Document) (r : Renderer) :
    (∀ e, doc.render r = .error e ↔ Node.FirstBreak doc.root.visited e) ∧
      ((∃ e, doc.render r = .error e) ↔ ∃ n ∈ doc.root.visited, ∃ e, n.Breaks e) ∧
        ∀ heading : Nat → String → String,
          (∀ level, 1 ≤ level → level ≤ 6 → heading level = r.heading level) →
            doc.render { r with heading := heading } = doc.render r := by
  refine ⟨fun e => Node.render_eq_error_iff, ⟨?_, ?_⟩, ?_⟩
  · rintro ⟨e, h⟩
    obtain ⟨before, n, after, heq, _, hbreaks⟩ := Node.render_eq_error_iff.mp h
    exact ⟨n, by simp [heq], e, hbreaks⟩
  · intro h
    obtain ⟨e, hfirst⟩ := Node.exists_firstBreak h
    exact ⟨e, Node.render_eq_error_iff.mpr hfirst⟩
  · intro heading h
    exact Node.render_congr_heading r heading h doc.root

end WikiMarkup
