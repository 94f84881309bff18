import WikiMarkup.Rendering.Tree

/-!
The nodes that a walk reads and what their kinds require of them. A closed node is written from its
own properties, so nothing below it is ever looked at. The rule of a node settles three things at
once, and the same way for every renderer: whether the node breaks a requirement, with which error,
and whether the walk goes on below it.
-/

namespace WikiMarkup

/-- Kinds of node that are written from their own properties alone. -/
def closedElements : List Element :=
  [.text, .code, .codeBlock, .rawBlock, .rawInline, .image, .lineBreak, .softBreak, .rule]

/-- Kinds of node that must carry a literal content. -/
def literalElements : List Element := [.text, .code, .codeBlock, .rawBlock, .rawInline]

/-- Kinds of node that are nothing without a property of theirs. -/
def demandingElements : List Element := [.heading, .link, .image] ++ literalElements

namespace Node

/-- Whether the walk ends at a node. -/
def isClosed (n : Node) : Bool := closedElements.any n.is

mutual

/-- A node and the nodes below it that stand below no closed node, in document order. -/
def visited : Node → List Node
  | mk kind properties children span =>
      mk kind properties children span ::
        if (mk kind properties children span).isClosed then [] else visitedAll children

def visitedAll : List Node → List Node
  | [] => []
  | n :: rest => visited n ++ visitedAll rest

end

theorem visitedAll_eq_flatMap (ns : List Node) : visitedAll ns = ns.flatMap visited := by
  induction ns with
  | nil => rfl
  | cons n rest ih => simp only [visitedAll, ih, List.flatMap_cons]

theorem visited_eq (n : Node) :
    n.visited = n :: if n.isClosed then [] else n.children.flatMap visited := by
  cases n with
  | mk kind properties children span =>
      rw [visited, visitedAll_eq_flatMap]
      rfl

theorem mem_visited_self (n : Node) : n ∈ n.visited := by
  rw [visited_eq]
  exact List.mem_cons_self

theorem visited_of_closed {n : Node} (h : n.isClosed = true) : n.visited = [n] := by
  rw [visited_eq, h, if_pos rfl]

theorem visited_of_open {n : Node} (h : n.isClosed = false) :
    n.visited = n :: n.children.flatMap visited := by
  rw [visited_eq, h, if_neg Bool.false_ne_true]

theorem mem_visited_of_child {n child m : Node} (h : n.isClosed = false)
    (hchild : child ∈ n.children) (hm : m ∈ child.visited) : m ∈ n.visited := by
  rw [visited_of_open h]
  exact List.mem_cons_of_mem _ (List.mem_flatMap.mpr ⟨child, hchild, hm⟩)

/-- A node breaks a requirement of its kind, which is reported as the given error. A property of
another type than the required one is as good as none. -/
inductive Breaks (n : Node) : RenderError → Prop where
  | noLevel (hkind : n.is .heading)
      (hlevel : ∀ level, n.properties.get? PropertyKey.level ≠ some (.number level)) :
      Breaks n (.missingProperty n.kind PropertyKey.level)
  | badLevel (hkind : n.is .heading) (level : Int64)
      (hlevel : n.properties.get? PropertyKey.level = some (.number level))
      (hrange : level.toInt < 1 ∨ 6 < level.toInt) :
      Breaks n (.invalidProperty n.kind PropertyKey.level s!"{level.toInt} is outside 1..=6")
  | noUrl (hkind : n.is .link ∨ n.is .image)
      (hurl : ∀ url, n.properties.get? PropertyKey.url ≠ some (.text url)) :
      Breaks n (.missingProperty n.kind PropertyKey.url)
  | noContent (hkind : literalElements.any n.is)
      (hcontent : ∀ content, n.properties.get? PropertyKey.content ≠ some (.text content)) :
      Breaks n (.missingProperty n.kind PropertyKey.content)

def IsSound (n : Node) : Prop := ∀ e, ¬ n.Breaks e

theorem is_eq_false {n : Node} (h : Element.ofName? n.kind = none) (e : Element) :
    n.is e = false := by
  rw [Bool.eq_false_iff]
  intro he
  rw [is_iff_ofName?.mp he] at h
  contradiction

theorem isSound_of {n : Node}
    (hlevel : n.is .heading → ∃ level : Int64,
      n.properties.get? PropertyKey.level = some (.number level) ∧
        1 ≤ level.toInt ∧ level.toInt ≤ 6)
    (hurl : n.is .link ∨ n.is .image → ∃ url,
      n.properties.get? PropertyKey.url = some (.text url))
    (hcontent : literalElements.any n.is → ∃ content,
      n.properties.get? PropertyKey.content = some (.text content)) : n.IsSound := by
  intro e hbreaks
  cases hbreaks with
  | noLevel hkind hnone =>
      obtain ⟨level, hget, _⟩ := hlevel hkind
      exact hnone level hget
  | badLevel hkind level hget hrange =>
      obtain ⟨other, hother, hlow, hhigh⟩ := hlevel hkind
      rw [hget] at hother
      cases hother
      omega
  | noUrl hkind hnone =>
      obtain ⟨url, hget⟩ := hurl hkind
      exact hnone url hget
  | noContent hkind hnone =>
      obtain ⟨content, hget⟩ := hcontent hkind
      exact hnone content hget

theorem isSound_heading {n : Node} (hkind : n.is .heading) {level : Int64}
    (hget : n.properties.get? PropertyKey.level = some (.number level))
    (hrange : 1 ≤ level.toInt ∧ level.toInt ≤ 6) : n.IsSound := by
  have hkinds := is_eq_decide hkind
  apply isSound_of
  · intro _
    exact ⟨level, hget, hrange⟩
  · simp [hkinds]
  · simp [literalElements, hkinds]

theorem isSound_target {n : Node} {e : Element} (he : e = .link ∨ e = .image) (hkind : n.is e)
    {url : String} (hget : n.properties.get? PropertyKey.url = some (.text url)) : n.IsSound := by
  have hkinds := is_eq_decide hkind
  apply isSound_of
  · rcases he with rfl | rfl <;> simp [hkinds]
  · intro _
    exact ⟨url, hget⟩
  · rcases he with rfl | rfl <;> simp [literalElements, hkinds]

theorem isSound_literal {n : Node} {e : Element} (he : e ∈ literalElements) (hkind : n.is e)
    {content : String} (hget : n.properties.get? PropertyKey.content = some (.text content)) :
    n.IsSound := by
  have hkinds := is_eq_decide hkind
  simp only [literalElements, List.mem_cons, List.not_mem_nil, or_false] at he
  apply isSound_of
  · rcases he with rfl | rfl | rfl | rfl | rfl <;> simp [hkinds]
  · rcases he with rfl | rfl | rfl | rfl | rfl <;> simp [hkinds]
  · intro _
    exact ⟨content, hget⟩

theorem isSound_undemanding {n : Node} {e : Element} (he : e ∉ demandingElements)
    (hkind : n.is e) : n.IsSound := by
  have hkinds := is_eq_decide hkind
  simp only [demandingElements, literalElements, List.mem_append, List.mem_cons,
    List.not_mem_nil, or_false, not_or] at he
  apply isSound_of
  · simp [hkinds, he]
  · simp [hkinds, he]
  · simp [literalElements, hkinds, he]

/-- A required level is there and lies between one and six, or the heading is at fault. -/
theorem requireLevel_cases {n : Node} (h : n.is .heading) :
    (∃ level : Int64, Rule.requireLevel n = .ok level.toInt.toNat ∧
        n.properties.get? PropertyKey.level = some (.number level) ∧
          1 ≤ level.toInt ∧ level.toInt ≤ 6) ∨
      ∃ e, Rule.requireLevel n = .error e ∧ n.Breaks e := by
  unfold Rule.requireLevel
  cases hlevel : n.properties.getNumber? PropertyKey.level with
  | none =>
      exact .inr ⟨_, rfl, .noLevel h (Properties.getNumber?_eq_none_iff.mp hlevel)⟩
  | some level =>
      have hget := Properties.getNumber?_eq_some_iff.mp hlevel
      by_cases hrange : 1 ≤ level.toInt ∧ level.toInt ≤ 6
      · exact .inl ⟨level, if_pos hrange, hget, hrange⟩
      · exact .inr ⟨_, if_neg hrange, .badLevel h level hget (by omega)⟩

theorem requireText_eq_ok {n : Node} {key text : String}
    (h : n.properties.get? key = some (.text text)) : Rule.requireText n key = .ok text := by
  rw [Rule.requireText, Properties.getText?_eq_some_iff.mpr h]

/-- A required text is there, or is reported as missing. -/
theorem requireText_cases (n : Node) (key : String) :
    (∃ text, Rule.requireText n key = .ok text ∧ n.properties.get? key = some (.text text)) ∨
      (Rule.requireText n key = .error (.missingProperty n.kind key) ∧
        ∀ text, n.properties.get? key ≠ some (.text text)) := by
  unfold Rule.requireText
  cases htext : n.properties.getText? key with
  | some text => exact .inl ⟨text, rfl, Properties.getText?_eq_some_iff.mp htext⟩
  | none =>
      exact .inr ⟨rfl, Properties.getText?_eq_none_iff.mp htext⟩

/-- What the rule of a node says about it: an error of its own, a text that stands for it, or a
text put together from its children. -/
theorem ofNode_cases (r : Renderer) (n : Node) :
    (∃ e, Rule.ofNode r n = .error e ∧ n.Breaks e) ∨
      (n.IsSound ∧ n.isClosed = true ∧ n.losses = [] ∧
        ∃ text, Rule.ofNode r n = .ok (.leaf text)) ∨
      (n.IsSound ∧ n.isClosed = false ∧ ∃ assemble, Rule.ofNode r n = .ok (.branch assemble)) := by
  cases h : Element.ofName? n.kind with
  | none =>
      have hnot := is_eq_false h
      have hsound : n.IsSound :=
        isSound_of (by simp [hnot]) (by simp [hnot]) (by simp [literalElements, hnot])
      have hopen : n.isClosed = false := by simp [isClosed, closedElements, hnot]
      exact .inr (.inr ⟨hsound, hopen, Rule.join, by simp [Rule.ofNode, h]⟩)
  | some e =>
      have hkind : n.is e := is_iff_ofName?.mpr h
      have hlosses := losses_of_is hkind
      have hends : n.isClosed = decide (e ∈ closedElements) := any_is hkind closedElements
      rw [ofNode_of_is hkind]
      -- Kinds are taken together that require the same and end the walk alike.
      cases e with
      | text | code | codeBlock | rawBlock | rawInline =>
          rcases requireText_cases n PropertyKey.content with ⟨content, hok, hget⟩ | ⟨herr, hnone⟩
          · have hsound := isSound_literal (by decide) hkind hget
            simp only [Rule.ofElement, hok]
            exact .inr (.inl ⟨hsound, hends, hlosses, _, rfl⟩)
          · have hliteral : literalElements.any n.is :=
              List.any_eq_true.mpr ⟨_, by decide, hkind⟩
            simp only [Rule.ofElement, herr]
            exact .inl ⟨_, rfl, .noContent hliteral hnone⟩
      | link =>
          rcases requireText_cases n PropertyKey.url with ⟨url, hok, hget⟩ | ⟨herr, hnone⟩
          · have hsound := isSound_target (.inl rfl) hkind hget
            simp only [Rule.ofElement, hok]
            exact .inr (.inr ⟨hsound, hends, _, rfl⟩)
          · simp only [Rule.ofElement, herr]
            exact .inl ⟨_, rfl, .noUrl (.inl hkind) hnone⟩
      | image =>
          rcases requireText_cases n PropertyKey.url with ⟨url, hok, hget⟩ | ⟨herr, hnone⟩
          · have hsound := isSound_target (.inr rfl) hkind hget
            simp only [Rule.ofElement, hok]
            exact .inr (.inl ⟨hsound, hends, hlosses, _, rfl⟩)
          · simp only [Rule.ofElement, herr]
            exact .inl ⟨_, rfl, .noUrl (.inr hkind) hnone⟩
      | heading =>
          rcases requireLevel_cases hkind with ⟨level, hok, hget, hrange⟩ | ⟨e, herr, hbreaks⟩
          · have hsound := isSound_heading hkind hget hrange
            simp only [Rule.ofElement, hok]
            exact .inr (.inr ⟨hsound, hends, _, rfl⟩)
          · simp only [Rule.ofElement, herr]
            exact .inl ⟨e, rfl, hbreaks⟩
      | lineBreak | softBreak | rule =>
          have hsound := isSound_undemanding (by decide) hkind
          exact .inr (.inl ⟨hsound, hends, hlosses, _, rfl⟩)
      | _ =>
          have hsound := isSound_undemanding (by decide) hkind
          exact .inr (.inr ⟨hsound, hends, _, rfl⟩)

/-- A broken requirement is what the rule of the node reports, whatever the renderer. -/
theorem Breaks.ofNode {n : Node} {e : RenderError} (h : n.Breaks e) (r : Renderer) :
    Rule.ofNode r n = .error e := by
  cases h with
  | noLevel hkind hnone =>
      simp only [Rule.ofNode, is_iff_ofName?.mp hkind, Rule.ofElement, Rule.requireLevel,
        Properties.getNumber?_eq_none_iff.mpr hnone]
      rfl
  | badLevel hkind level hget hrange =>
      have hbad : ¬(1 ≤ level.toInt ∧ level.toInt ≤ 6) := by omega
      simp only [Rule.ofNode, is_iff_ofName?.mp hkind, Rule.ofElement, Rule.requireLevel,
        Properties.getNumber?_eq_some_iff.mpr hget, if_neg hbad]
      rfl
  | noUrl hkind hnone =>
      have hmissing : Rule.requireText n PropertyKey.url =
          .error (.missingProperty n.kind PropertyKey.url) := by
        simp only [Rule.requireText, Properties.getText?_eq_none_iff.mpr hnone]
      rcases hkind with hkind | hkind <;>
        simp only [Rule.ofNode, is_iff_ofName?.mp hkind, Rule.ofElement, hmissing] <;> rfl
  | noContent hkind hnone =>
      have hmissing : Rule.requireText n PropertyKey.content =
          .error (.missingProperty n.kind PropertyKey.content) := by
        simp only [Rule.requireText, Properties.getText?_eq_none_iff.mpr hnone]
      obtain ⟨element, hmem, hkind⟩ := List.any_eq_true.mp hkind
      simp only [literalElements, List.mem_cons, List.not_mem_nil, or_false] at hmem
      rcases hmem with rfl | rfl | rfl | rfl | rfl <;>
        simp only [Rule.ofNode, is_iff_ofName?.mp hkind, Rule.ofElement, hmissing] <;> rfl

end Node

end WikiMarkup
