import WikiMarkup.Proofs.Rendering.Visited

/-!
What the text of a node depends on. The rule of a node is found from its kind and its properties.
Of its children a rule takes the texts, and of the nodes themselves two things at most: an item asks
which of them start a line, and a table asks which of them belong to its head. So two trees whose
nodes agree in this are written alike, whatever else they differ in.
-/

namespace WikiMarkup

/-- Joined texts hold what any of them holds. -/
theorem infix_stringJoin {text value : String} {values : List String} (hvalue : value ∈ values)
    (h : text.toList <:+: value.toList) : text.toList <:+: (String.join values).toList := by
  rw [String.toList_join, List.flatMap_def]
  exact h.trans (List.infix_of_mem_flatten (List.mem_map_of_mem hvalue))

namespace Rule

theorem join_cons (part : Node × String) (parts : List (Node × String)) :
    join (part :: parts) = part.2 ++ join parts := by
  rw [join, List.map_cons, String.join_cons]
  rfl

theorem join_append (parts others : List (Node × String)) :
    join (parts ++ others) = join parts ++ join others := by
  simp [join]

/-- The body of a list item with one more part: a newline comes first if the part starts a line and
the body does not end one. -/
def addPart (body : String) (part : Node × String) : String :=
  (if startsLine part.1 && stopsInLine body then body ++ "\n" else body) ++ part.2

theorem itemBody_eq_foldl (parts : List (Node × String)) : itemBody parts = parts.foldl addPart "" :=
  rfl

/-- A body only grows behind what it has, by a part and at most one newline. -/
theorem addPart_eq (body : String) (part : Node × String) :
    ∃ joint, (joint = "" ∨ joint = "\n") ∧ addPart body part = body ++ joint ++ part.2 := by
  rw [addPart]
  split
  · exact ⟨"\n", .inr rfl, rfl⟩
  · exact ⟨"", .inl rfl, by rw [String.append_empty]⟩

theorem exists_foldl_addPart (parts : List (Node × String)) (body : String) :
    ∃ back, parts.foldl addPart body = body ++ back := by
  induction parts generalizing body with
  | nil => exact ⟨"", by simp⟩
  | cons part rest ih =>
      obtain ⟨joint, -, hstep⟩ := addPart_eq body part
      obtain ⟨back, hback⟩ := ih (addPart body part)
      refine ⟨joint ++ part.2 ++ back, ?_⟩
      rw [List.foldl_cons, hback, hstep]
      simp only [String.append_assoc]

theorem addPart_of_startsLine_eq_false {part : Node × String} (h : startsLine part.1 = false)
    (body : String) : addPart body part = body ++ part.2 := by
  simp [addPart, h]

/-- Whether one of the parts begins on a line of its own because the body has not ended its line. -/
def breaksLine (body : String) : List (Node × String) → Bool
  | [] => false
  | part :: rest => startsLine part.1 && stopsInLine body || breaksLine (body ++ part.2) rest

/-- Parts that break no line go on behind the body as they are. -/
theorem foldl_addPart_of_not_breaksLine {body : String} {parts : List (Node × String)}
    (h : breaksLine body parts = false) : parts.foldl addPart body = body ++ join parts := by
  induction parts generalizing body with
  | nil => exact String.append_empty.symm
  | cons part rest ih =>
      rw [breaksLine, Bool.or_eq_false_iff] at h
      have hstep : addPart body part = body ++ part.2 := by
        rw [addPart, h.1]
        rfl
      rw [List.foldl_cons, hstep, ih h.2, join_cons, String.append_assoc]

theorem breaksLine_eq_false {parts : List (Node × String)}
    (h : ∀ part ∈ parts, startsLine part.1 = false) (body : String) :
    breaksLine body parts = false := by
  induction parts generalizing body with
  | nil => rfl
  | cons part rest ih =>
      obtain ⟨hpart, hrest⟩ := List.forall_mem_cons.mp h
      rw [breaksLine, hpart, ih hrest]
      rfl

theorem itemBody_eq_join {parts : List (Node × String)}
    (h : ∀ part ∈ parts, startsLine part.1 = false) : itemBody parts = join parts := by
  rw [itemBody_eq_foldl, foldl_addPart_of_not_breaksLine (breaksLine_eq_false h ""),
    String.empty_append]

end Rule

namespace Node

theorem ofNode_congr (r : Renderer) {n other : Node} (hkind : other.kind = n.kind)
    (hproperties : other.properties = n.properties) :
    Rule.ofNode r other = Rule.ofNode r n := by
  unfold Rule.ofNode
  rw [hkind]
  cases Element.ofName? n.kind with
  | none => rfl
  | some e =>
      cases e <;> simp only [Rule.ofElement, Rule.requireLevel, Rule.requireText, Rule.isHeaderCell,
        is, hkind, hproperties]

/-- The text of a branch depends on three readings of its parts, two of which only one kind of node
makes. -/
theorem branch_congr {r : Renderer} {n : Node} {assemble : List (Node × String) → String}
    (hrule : Rule.ofNode r n = .ok (.branch assemble)) {parts others : List (Node × String)}
    (hjoin : Rule.join parts = Rule.join others)
    (hitem : n.is .listItem → Rule.itemBody parts = Rule.itemBody others)
    (htable : n.is .table → Rule.tableText r parts = Rule.tableText r others) :
    assemble parts = assemble others := by
  cases hname : Element.ofName? n.kind with
  | none =>
      simp only [Rule.ofNode, hname, Except.ok.injEq, Rule.branch.injEq] at hrule
      rw [← hrule, hjoin]
  | some e =>
      have hkind : n.is e := is_iff_ofName?.mpr hname
      rw [ofNode_of_is hkind] at hrule
      cases e with
      | listItem =>
          simp only [Rule.ofElement, Except.ok.injEq, Rule.branch.injEq] at hrule
          rw [← hrule, Function.comp_apply, Function.comp_apply, hitem hkind]
      | table =>
          simp only [Rule.ofElement, Except.ok.injEq, Rule.branch.injEq] at hrule
          rw [← hrule, htable hkind]
      | heading =>
          cases hlevel : Rule.requireLevel n with
          | error e => simp [Rule.ofElement, hlevel, bind, Except.bind] at hrule
          | ok level =>
              simp only [Rule.ofElement, hlevel, bind, Except.bind, pure, Except.pure,
                Except.ok.injEq, Rule.branch.injEq] at hrule
              rw [← hrule, Function.comp_apply, Function.comp_apply, hjoin]
      | link =>
          cases hurl : Rule.requireText n PropertyKey.url with
          | error e => simp [Rule.ofElement, hurl, bind, Except.bind] at hrule
          | ok url =>
              simp only [Rule.ofElement, hurl, bind, Except.bind, pure, Except.pure,
                Except.ok.injEq, Rule.branch.injEq] at hrule
              rw [← hrule]
              simp only [hjoin]
      | text | code | codeBlock | rawBlock | rawInline =>
          cases hcontent : Rule.requireText n PropertyKey.content <;>
            simp [Rule.ofElement, hcontent, bind, Except.bind, pure, Except.pure] at hrule
      | image =>
          cases hurl : Rule.requireText n PropertyKey.url <;>
            simp [Rule.ofElement, hurl, bind, Except.bind, pure, Except.pure] at hrule
      | lineBreak | softBreak | rule => simp [Rule.ofElement] at hrule
      | _ =>
          simp only [Rule.ofElement, Except.ok.injEq, Rule.branch.injEq] at hrule
          rw [← hrule]
          simp only [Function.comp_apply, hjoin]

/-- Whether a node belongs to the head of a table is still seen in its image, if the image is made
child by child and header cells are seen in theirs. -/
theorem inTableHead_image {f : Node → Node} {n : Node}
    (hhead : (f n).is .tableHead = n.is .tableHead) (hrow : (f n).is .tableRow = n.is .tableRow)
    (hchildren : (f n).children = n.children.map f)
    (hcell : ∀ child, Rule.isHeaderCell (f child) = Rule.isHeaderCell child) :
    Rule.inTableHead (f n) = Rule.inTableHead n := by
  have hfirst : (f n).children.head?.any Rule.isHeaderCell =
      n.children.head?.any Rule.isHeaderCell := by
    rw [hchildren, List.head?_map, Option.any_map]
    exact congrArg (Option.any · n.children.head?) (funext hcell)
  rw [Rule.inTableHead, Rule.inTableHead, hhead, hrow, hfirst]

/-- What the rule of a parent can see of a part. -/
def seen (part : Node × String) : String × Bool × Bool :=
  (part.2, Rule.startsLine part.1, Rule.inTableHead part.1)

section Seen

variable {parts others : List (Node × String)}

theorem join_of_seen (h : parts.map seen = others.map seen) :
    Rule.join parts = Rule.join others := by
  have hjoin : ∀ parts : List (Node × String),
      Rule.join parts = String.join ((parts.map seen).map (·.1)) := by
    intro parts
    rw [List.map_map]
    rfl
  rw [hjoin, hjoin, h]

theorem itemBody_of_seen (h : parts.map seen = others.map seen) :
    Rule.itemBody parts = Rule.itemBody others := by
  have hbody : ∀ parts : List (Node × String),
      Rule.itemBody parts = (parts.map seen).foldl (fun body part =>
        (if part.2.1 && Rule.stopsInLine body then body ++ "\n" else body) ++ part.1) "" := by
    intro parts
    rw [List.foldl_map]
    rfl
  rw [hbody, hbody, h]

theorem tableText_of_seen (r : Renderer) (h : parts.map seen = others.map seen) :
    Rule.tableText r parts = Rule.tableText r others := by
  have htable : ∀ parts : List (Node × String), Rule.tableText r parts =
      r.table (String.join (((parts.map seen).filter (·.2.2)).map (·.1)))
        (String.join (((parts.map seen).filter (!·.2.2)).map (·.1))) := by
    intro parts
    rw [List.filter_map, List.filter_map, List.map_map, List.map_map]
    rfl
  rw [htable, htable, h]

end Seen

/-- The text of a node alone, without the warnings. -/
def text? (r : Renderer) (n : Node) : Except RenderError String := (n.render r).map (·.value)

/-- What becomes of a node as a part of its parent. -/
def outcome (r : Renderer) (n : Node) : Except RenderError String × Bool × Bool :=
  (n.text? r, Rule.startsLine n, Rule.inTableHead n)

theorem renderAll_of_outcome {r : Renderer} {ns others : List Node}
    (h : ns.map (outcome r) = others.map (outcome r)) :
    (renderAll r ns).map (·.value.map seen) = (renderAll r others).map (·.value.map seen) := by
  induction ns generalizing others with
  | nil =>
      rw [List.map_nil, eq_comm, List.map_eq_nil_iff] at h
      rw [h]
  | cons n rest ih =>
      obtain ⟨other, more, rfl, hfirst, hrest⟩ := List.map_eq_cons_iff.mp h.symm
      have hmore := ih hrest.symm
      simp only [outcome, text?, Prod.mk.injEq] at hfirst
      obtain ⟨htext, hstarts, hheads⟩ := hfirst
      rw [renderAll, renderAll]
      cases hn : n.render r <;> cases hother : other.render r <;>
        simp only [hn, hother, Except.map, Except.ok.injEq, Except.error.injEq, reduceCtorEq]
          at htext ⊢
      · exact htext.symm
      · cases hleft : renderAll r rest <;> cases hright : renderAll r more <;>
          simp only [hleft, hright, Except.map, Except.ok.injEq, Except.error.injEq, reduceCtorEq]
            at hmore ⊢
        · exact hmore
        · simp only [List.map_cons, seen, htext, hstarts, hheads]
          rw [← hmore]

/-- Trees are written alike if their roots have one rule and their children have one outcome each. -/
theorem text?_congr {r : Renderer} {n other : Node}
    (hrule : Rule.ofNode r other = Rule.ofNode r n)
    (hchildren : other.children.map (outcome r) = n.children.map (outcome r)) :
    other.text? r = n.text? r := by
  have hparts := renderAll_of_outcome hchildren
  rw [text?, text?, render_eq, render_eq, hrule]
  cases hkind : Rule.ofNode r n with
  | error e => rfl
  | ok rule =>
      cases rule with
      | leaf text => rfl
      | branch assemble =>
          cases hleft : renderAll r other.children <;> cases hright : renderAll r n.children <;>
            simp only [hleft, hright, Except.map, Except.ok.injEq, Except.error.injEq,
              reduceCtorEq] at hparts ⊢
          · exact hparts
          · exact branch_congr hkind (join_of_seen hparts) (fun _ => itemBody_of_seen hparts)
              fun _ => tableText_of_seen r hparts

end Node

end WikiMarkup
