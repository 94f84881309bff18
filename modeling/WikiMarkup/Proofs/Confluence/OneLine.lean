import Mathlib.Data.List.Forall2
import WikiMarkup.Proofs.Confluence.Outline
import WikiMarkup.Proofs.Confluence.Shape

/-!
Constructs that stand on one line: headings, rows of tables and items of lists. Nothing puts a line
end into them but the contents that they hold and the breaks among their nodes, since a break is
written as a line end wherever it stands. So where the contents have none, a heading and a row have
as many line ends within as they have breaks, and a list whose items have no breaks has one marked
line for each item.
-/

namespace WikiMarkup.Confluence

open Node

/-- Kinds of node that end a line of a paragraph. -/
def breakElements : List Element := [.softBreak, .lineBreak]

/-- The number of breaks among some nodes and the nodes below them. -/
def breakCount (ns : List Node) : Nat :=
  (ns.flatMap visited).countP fun m => breakElements.any m.is

/-- An inline node; its content or its target, if it has one, is on one line. -/
inductive IsInline (n : Node) : Prop where
  | lineEnd {e : Element} (hkind : n.is e) (he : e = .softBreak ∨ e = .lineBreak)
  | literal (hkind : n.is .text ∨ n.is .code) (content : String)
      (hcontent : n.properties.get? PropertyKey.content = some (.text content))
      (hline : '\n' ∉ content.toList)
  | style {e : Element} (hkind : n.is e) (he : e = .emphasis ∨ e = .strong ∨ e = .strikeout)
  | target (hkind : n.is .link ∨ n.is .image) (url : String)
      (hurl : n.properties.get? PropertyKey.url = some (.text url)) (hline : '\n' ∉ url.toList)

/-- Whether a node shows by itself. A break does not, nor does a text of blanks; what is not a text
has marks that do. -/
def IsVisible (n : Node) : Prop :=
  breakElements.any n.is = false ∧ (n.is .text → ∃ content,
    n.properties.get? PropertyKey.content = some (.text content) ∧ solid content.toList ≠ [])

/-- A text for a node has a line end for each break in the node, and is not blank if anything there
shows. -/
structure WrittenInline (n : Node) (text : String) : Prop where
  lineEnds : text.toList.count '\n' = breakCount [n]
  filled : (∃ m ∈ n.visited, IsVisible m) → solid text.toList ≠ []

/-- A node is written without error and warning, and as an inline node is. -/
def IsWrittenInline (options : Options) (n : Node) : Prop :=
  ∃ text, n.render (renderer options) = .ok (.exact text) ∧ WrittenInline n text

theorem breakCount_of_is {n : Node} {e : Element} (hkind : n.is e) (he : e ∈ closedElements) :
    breakCount [n] = if e ∈ breakElements then 1 else 0 := by
  have hclosed : n.isClosed = true := (any_is hkind closedElements).trans (decide_eq_true he)
  rw [breakCount, List.flatMap_singleton, visited_of_closed hclosed, List.countP_singleton,
    any_is hkind breakElements]
  simp only [decide_eq_true_eq]

theorem breakCount_of_open {n : Node} (h : n.isClosed = false) :
    breakCount [n] = breakCount n.children := by
  have hbreak : breakElements.any n.is = false := by
    rw [isClosed, List.any_eq_false] at h
    rw [List.any_eq_false]
    exact fun e he => h e (by revert he; cases e <;> decide)
  rw [breakCount, List.flatMap_singleton, visited_of_open h, List.countP_cons, hbreak]
  rfl

theorem count_join {parts : List (Node × String)}
    (h : ∀ part ∈ parts, WrittenInline part.1 part.2) :
    (Rule.join parts).toList.count '\n' = breakCount (parts.map (·.1)) := by
  induction parts with
  | nil => rfl
  | cons part rest ih =>
      obtain ⟨hpart, hrest⟩ := List.forall_mem_cons.mp h
      have hcount := hpart.lineEnds
      rw [toList_join] at ih ⊢
      rw [List.flatMap_cons, List.count_append, ih hrest, hcount, List.map_cons]
      simp [breakCount]

theorem filled_join {parts : List (Node × String)} {part : Node × String} (hpart : part ∈ parts)
    (h : solid part.2.toList ≠ []) : solid (Rule.join parts).toList ≠ [] := by
  obtain ⟨c, hc⟩ := List.exists_mem_of_ne_nil _ h
  obtain ⟨hmem, hsolid⟩ := List.mem_filter.mp hc
  have hjoin : c ∈ (Rule.join parts).toList := by
    rw [toList_join]
    exact List.mem_flatMap.mpr ⟨part, hpart, hmem⟩
  exact List.ne_nil_of_mem (List.mem_filter.mpr ⟨hjoin, hsolid⟩)

/-- A text between two marks keeps its line ends, and shows. -/
theorem WrittenInline.within {n : Node} {front text back : String}
    (htext : text.toList.count '\n' = breakCount [n])
    (hfront : '\n' ∉ front.toList) (hback : '\n' ∉ back.toList) (hmark : solid front.toList ≠ []) :
    WrittenInline n (front ++ text ++ back) := by
  constructor
  · simp [htext, List.count_eq_zero_of_not_mem hfront, List.count_eq_zero_of_not_mem hback]
  · intro _
    simp [solid_append, hmark]

theorem render_parts (options : Options) {ns : List Node}
    (h : ∀ n ∈ ns, IsWrittenInline options n) :
    ∃ parts, renderAll (renderer options) ns = .ok (.exact parts) ∧ parts.map (·.1) = ns ∧
      (Rule.join parts).toList.count '\n' = breakCount ns ∧
        ((∃ m ∈ ns.flatMap visited, IsVisible m) → solid (Rule.join parts).toList ≠ []) := by
  obtain ⟨parts, hparts, hnodes, hwritten⟩ := renderAll_exact h
  refine ⟨parts, hparts, hnodes, hnodes ▸ count_join hwritten, ?_⟩
  rintro ⟨m, hm, hvisible⟩
  obtain ⟨n, hn, hm⟩ := List.mem_flatMap.mp hm
  rw [← hnodes] at hn
  obtain ⟨part, hpart, rfl⟩ := List.mem_map.mp hn
  exact filled_join hpart ((hwritten part hpart).filled ⟨m, hm, hvisible⟩)

theorem render_break (options : Options) {n : Node} {e : Element} (hkind : n.is e)
    (he : e = .softBreak ∨ e = .lineBreak) : IsWrittenInline options n := by
  have hrule : Rule.ofNode (renderer options) n = .ok (.leaf "\n") := by
    rcases he with rfl | rfl <;> rw [ofNode_of_is hkind] <;> rfl
  have hclosed : e ∈ closedElements := by rcases he with rfl | rfl <;> decide
  have hbreak : e ∈ breakElements := by rcases he with rfl | rfl <;> decide
  refine ⟨_, render_leaf hrule, ?_, ?_⟩
  · rw [breakCount_of_is hkind hclosed, if_pos hbreak]
    rfl
  · rintro ⟨m, hm, hshown, _⟩
    rw [visited_of_closed ((any_is hkind _).trans (decide_eq_true hclosed)),
      List.mem_singleton] at hm
    rw [hm, any_is hkind, decide_eq_true hbreak] at hshown
    contradiction

theorem render_text (options : Options) {n : Node} (hkind : n.is .text) {content : String}
    (hcontent : n.properties.get? PropertyKey.content = some (.text content))
    (hline : '\n' ∉ content.toList) : IsWrittenInline options n := by
  have hrule : Rule.ofNode (renderer options) n = .ok (.leaf content) := by
    rw [ofNode_of_is hkind, Rule.ofElement, requireText_eq_ok hcontent]
    rfl
  refine ⟨content, render_leaf hrule, ?_, ?_⟩
  · rw [List.count_eq_zero_of_not_mem hline, breakCount_of_is hkind (by decide)]
    rfl
  · rintro ⟨m, hm, _, hvisible⟩
    have hclosed : n.isClosed = true := any_is hkind closedElements
    rw [visited_of_closed hclosed, List.mem_singleton] at hm
    subst hm
    obtain ⟨other, hother, hfilled⟩ := hvisible hkind
    rw [hcontent] at hother
    cases hother
    exact hfilled

/-- A content or a target of a closed node, between two marks. -/
theorem render_marked_leaf {options : Options} {n : Node} {e : Element} (hkind : n.is e)
    (he : e = .code ∨ e = .image) {front text back : String}
    (hrule : Rule.ofNode (renderer options) n = .ok (.leaf (front ++ text ++ back)))
    (hfront : '\n' ∉ front.toList) (hback : '\n' ∉ back.toList)
    (hmark : solid front.toList ≠ []) (hline : '\n' ∉ text.toList) :
    IsWrittenInline options n := by
  have hclosed : e ∈ closedElements := by rcases he with rfl | rfl <;> decide
  have hnone : e ∉ breakElements := by rcases he with rfl | rfl <;> decide
  have hcount : text.toList.count '\n' = breakCount [n] := by
    rw [List.count_eq_zero_of_not_mem hline, breakCount_of_is hkind hclosed, if_neg hnone]
  exact ⟨_, render_leaf hrule, .within hcount hfront hback hmark⟩

theorem render_style (options : Options) {n : Node} {e : Element} (hkind : n.is e)
    (he : e = .emphasis ∨ e = .strong ∨ e = .strikeout)
    (h : ∀ child ∈ n.children, IsWrittenInline options child) : IsWrittenInline options n := by
  obtain ⟨mark, hmark, hshown, hrule⟩ : ∃ mark : String, '\n' ∉ mark.toList ∧
      solid mark.toList ≠ [] ∧ Rule.ofNode (renderer options) n =
        .ok (.branch fun parts => mark ++ Rule.join parts ++ mark) := by
    rcases he with rfl | rfl | rfl <;> rw [ofNode_of_is hkind] <;>
      exact ⟨_, by decide, by decide, rfl⟩
  have hopen : n.isClosed = false := by
    rcases he with rfl | rfl | rfl <;> exact any_is hkind closedElements
  obtain ⟨parts, hparts, _, hcount, _⟩ := render_parts options h
  rw [← breakCount_of_open hopen] at hcount
  exact ⟨_, render_branch hrule (losses_of_is hkind) hparts, .within hcount hmark hmark hshown⟩

theorem render_link (options : Options) {n : Node} (hkind : n.is .link) {url : String}
    (hurl : n.properties.get? PropertyKey.url = some (.text url)) (hline : '\n' ∉ url.toList)
    (h : ∀ child ∈ n.children, IsWrittenInline options child) : IsWrittenInline options n := by
  have hrule : Rule.ofNode (renderer options) n = .ok (.branch fun parts =>
      (renderer options).link url (n.properties.getText? PropertyKey.title)
        (if (Rule.join parts).isEmpty then none else some (Rule.join parts))) := by
    rw [ofNode_of_is hkind, Rule.ofElement, requireText_eq_ok hurl]
    rfl
  obtain ⟨parts, hparts, _, hcount, _⟩ := render_parts options h
  rw [← breakCount_of_open (any_is hkind closedElements)] at hcount
  refine ⟨_, render_branch hrule (losses_of_is hkind) hparts, ?_⟩
  by_cases hnone : Rule.join parts = ""
  · have hurlCount : url.toList.count '\n' = breakCount [n] := by
      rw [List.count_eq_zero_of_not_mem hline, ← hcount, hnone]
      rfl
    simp only [hnone, renderer]
    exact .within hurlCount (by decide) (by decide) (by decide)
  · have hback : '\n' ∉ ("|" ++ url ++ "]").toList := by simp [hline]
    have hlink : WrittenInline n ("[" ++ Rule.join parts ++ ("|" ++ url ++ "]")) :=
      .within hcount (by decide) hback (by decide)
    simpa [hnone, renderer, String.append_assoc] using hlink

/-- An inline node has no line ends but its breaks. -/
theorem render_inline (options : Options) {n : Node} (h : ∀ m ∈ n.visited, IsInline m) :
    IsWrittenInline options n := by
  induction n using childInduction with
  | step n ih =>
      have hbelow : n.isClosed = false → ∀ child ∈ n.children, IsWrittenInline options child :=
        fun hopen child hchild =>
          ih child hchild fun m hm => h m (mem_visited_of_child hopen hchild hm)
      cases h n (mem_visited_self n) with
      | lineEnd hkind he => exact render_break options hkind he
      | literal hkind content hcontent hline =>
          rcases hkind with hkind | hkind
          · exact render_text options hkind hcontent hline
          · have hrule : Rule.ofNode (renderer options) n =
                .ok (.leaf ("\x7b\x7b" ++ content ++ "\x7d\x7d")) := by
              rw [ofNode_of_is hkind, Rule.ofElement, requireText_eq_ok hcontent]
              rfl
            exact render_marked_leaf hkind (.inl rfl) hrule (by decide) (by decide) (by decide)
              hline
      | style hkind he =>
          have hopen : n.isClosed = false := by
            rcases he with rfl | rfl | rfl <;> exact any_is hkind closedElements
          exact render_style options hkind he (hbelow hopen)
      | target hkind url hurl hline =>
          rcases hkind with hkind | hkind
          · exact render_link options hkind hurl hline (hbelow (any_is hkind closedElements))
          · have hrule : Rule.ofNode (renderer options) n = .ok (.leaf ("!" ++ url ++ "!")) := by
              rw [ofNode_of_is hkind, Rule.ofElement, requireText_eq_ok hurl]
              rfl
            exact render_marked_leaf hkind (.inr rfl) hrule (by decide) (by decide) (by decide)
              hline

theorem render_inlines (options : Options) {n : Node}
    (h : ∀ m ∈ n.children.flatMap visited, IsInline m) :
    ∃ parts, renderAll (renderer options) n.children = .ok (.exact parts) ∧
      parts.map (·.1) = n.children ∧
      (Rule.join parts).toList.count '\n' = breakCount n.children ∧
        ((∃ m ∈ n.children.flatMap visited, IsVisible m) →
          solid (Rule.join parts).toList ≠ []) :=
  render_parts options fun _ hchild => render_inline options fun m hm =>
    h m (List.mem_flatMap.mpr ⟨_, hchild, hm⟩)

theorem render_heading (options : Options) {n : Node} (hkind : n.is .heading) (hsound : n.IsSound)
    (h : ∀ m ∈ n.children.flatMap visited, IsInline m) :
    ∃ line, n.render (renderer options) = .ok (.exact (line ++ "\n\n")) ∧
      line.toList.count '\n' = breakCount n.children := by
  obtain ⟨parts, hparts, _, hcount, _⟩ := render_inlines options h
  rcases requireLevel_cases hkind with ⟨level, hok, _, hlow, hhigh⟩ | ⟨e, _, hbreaks⟩
  · have hrule : Rule.ofNode (renderer options) n = .ok (.branch fun parts =>
        s!"h{level.toInt.toNat}. " ++ Rule.join parts ++ "\n\n") := by
      rw [ofNode_of_is hkind, Rule.ofElement, hok]
      rfl
    have hmark : (s!"h{level.toInt.toNat}. ").toList.count '\n' = 0 := by
      generalize hk : level.toInt.toNat = k
      have hcases : k = 1 ∨ k = 2 ∨ k = 3 ∨ k = 4 ∨ k = 5 ∨ k = 6 := by omega
      rcases hcases with rfl | rfl | rfl | rfl | rfl | rfl <;> decide
    refine ⟨_, render_branch hrule (losses_of_is hkind) hparts, ?_⟩
    rw [String.toList_append, List.count_append, hmark, hcount, Nat.zero_add]
  · exact absurd hbreaks (hsound e)

/-- A cell of inline nodes. -/
def IsInlineCell (n : Node) : Prop :=
  (n.is .tableCell ∨ n.is .tableHeader) ∧ ∀ m ∈ n.children.flatMap visited, IsInline m

theorem render_cell (options : Options) {n : Node} (h : IsInlineCell n) :
    IsWrittenInline options n := by
  obtain ⟨hkind, hinline⟩ := h
  obtain ⟨parts, hparts, _, hcount, _⟩ := render_inlines options hinline
  have hknown : n.losses = [] := by
    rcases hkind with hkind | hkind <;> exact losses_of_is hkind
  have hopen : n.isClosed = false := by
    rcases hkind with hkind | hkind <;> exact any_is hkind closedElements
  rw [← breakCount_of_open hopen] at hcount
  refine ⟨_, render_branch (ofNode_tableCell options hkind) hknown hparts, ?_⟩
  have hmark : '\n' ∉ (cellMark (Rule.isHeaderCell n)).toList ∧
      solid (cellMark (Rule.isHeaderCell n)).toList ≠ [] := by
    cases Rule.isHeaderCell n <;> decide
  have hback : '\n' ∉ "".toList := by decide
  simpa using WrittenInline.within hcount hmark.1 hback hmark.2

theorem render_row (options : Options) {n : Node} (hkind : n.is .tableRow)
    (h : ∀ cell ∈ n.children, IsInlineCell cell) :
    ∃ line, n.render (renderer options) = .ok (.exact (line ++ "\n")) ∧
      line.toList.count '\n' = breakCount n.children := by
  obtain ⟨parts, hparts, _, hcount, _⟩ := render_parts options fun cell hcell =>
    render_cell options (h cell hcell)
  exact ⟨_, render_branch (ofNode_tableRow options hkind) (losses_of_is hkind) hparts, hcount⟩

theorem IsInline.startsLine {n : Node} (h : IsInline n) : Rule.startsLine n = false := by
  cases h with
  | lineEnd hkind he => rcases he with rfl | rfl <;> exact any_is hkind _
  | literal hkind => rcases hkind with hkind | hkind <;> exact any_is hkind _
  | style hkind he => rcases he with rfl | rfl | rfl <;> exact any_is hkind _
  | target hkind => rcases hkind with hkind | hkind <;> exact any_is hkind _

/-- An item of inline nodes without breaks, in which something shows. -/
structure IsLineItem (n : Node) : Prop where
  kind : n.is .listItem
  inline : ∀ m ∈ n.children.flatMap visited, IsInline m
  unbroken : breakCount n.children = 0
  visible : ∃ m ∈ n.children.flatMap visited, IsVisible m

/-- A text that is one line with its end, and not blank. -/
def IsEndedLine (text : String) : Prop :=
  ∃ line, text = line ++ "\n" ∧ '\n' ∉ line.toList ∧ solid line.toList ≠ []

theorem IsLineItem.render (options : Options) {n : Node} (h : IsLineItem n) :
    ∃ text, n.render (renderer options) = .ok (.exact text) ∧ IsEndedLine text := by
  obtain ⟨parts, hparts, hnodes, hcount, hfilled⟩ := render_inlines options h.inline
  have hrule := ofNode_listItem options h.kind
  have hjoin : Rule.itemBody parts = Rule.join parts := by
    apply Rule.itemBody_eq_join
    intro part hpart
    have hchild : part.1 ∈ n.children := hnodes ▸ List.mem_map_of_mem hpart
    have hself := mem_visited_self part.1
    exact (h.inline part.1 (List.mem_flatMap.mpr ⟨part.1, hchild, hself⟩)).startsLine
  have hline : '\n' ∉ (Rule.join parts).toList := List.count_eq_zero.mp (hcount.trans h.unbroken)
  exact ⟨_, render_branch hrule (losses_of_is h.kind) hparts, Rule.join parts, by rw [hjoin],
    hline, hfilled h.visible⟩

theorem solid_ended (line : String) : solid (line ++ "\n").toList = solid line.toList := by
  rw [String.toList_append, solid_append]
  exact List.append_nil _

theorem IsEndedLine.filledLines {text : String} (h : IsEndedLine text) :
    ∃ line, filledLines text.toList = [line] ∧ solid line = solid text.toList ∧
      solid line ≠ [] := by
  obtain ⟨line, rfl, hline, hfilled⟩ := h
  have hne : line.toList ≠ [] := by
    intro hnil
    exact hfilled (by simp [hnil, solid])
  refine ⟨line.toList, ?_, (solid_ended line).symm, hfilled⟩
  rw [String.toList_append]
  exact (filledLines_ended _).trans (filledLines_of_line hline hne)

/-- The lines of a list of items that are one line each are these lines, as far as they are not
blank. -/
theorem map_solid_items {parts : List (Node × String)}
    (h : ∀ part ∈ parts, IsEndedLine part.2) :
    (filledLines (Text.trimBlank (Rule.join parts).toList)).map solid =
      parts.map fun part => solid part.2.toList := by
  have hends : ∀ part ∈ parts, isAtLineStart part.2.toList := by
    intro part hpart
    obtain ⟨line, hline, _⟩ := h part hpart
    simp [hline, isAtLineStart]
  have hlines := filledLines_join hends
  have hsolid : ∀ line ∈ filledLines (Rule.join parts).toList, solid line ≠ [] := by
    intro line hline
    rw [hlines] at hline
    obtain ⟨part, hpart, hline⟩ := List.mem_flatMap.mp hline
    obtain ⟨only, honly, _, hfilled⟩ := (h part hpart).filledLines
    rw [honly, List.mem_singleton] at hline
    exact hline ▸ hfilled
  rw [map_solid_trimBlank hsolid, hlines, List.map_flatMap, ← List.flatMap_pure_eq_map]
  apply List.flatMap_congr
  intro part hpart
  obtain ⟨line, hline, heq, _⟩ := (h part hpart).filledLines
  rw [hline, List.map_singleton, heq]
  rfl

theorem render_list (options : Options) {n : Node} (hkind : n.is .list)
    (h : ∀ item ∈ n.children, IsLineItem item) :
    ∃ rows, n.render (renderer options) =
        .ok (.exact (String.ofList (joinLines rows ++ ['\n', '\n']))) ∧
      (∀ row ∈ rows, '\n' ∉ row ∧ isMarked row) ∧
        List.Forall₂ (fun item row => ∃ line,
          item.render (renderer options) = .ok (.exact (line ++ "\n")) ∧
            solid row = markerOf n :: solid line.toList) n.children rows := by
  have hitems : ∀ item ∈ n.children, ∃ text, item.render (renderer options) = .ok (.exact text) ∧
      item.render (renderer options) = .ok (.exact text) ∧ IsEndedLine text := by
    intro item hitem
    obtain ⟨text, htext, hended⟩ := (h item hitem).render options
    exact ⟨text, htext, htext, hended⟩
  obtain ⟨parts, hparts, hnodes, hwritten⟩ := renderAll_exact hitems
  have hrule := ofNode_list options hkind
  refine ⟨_, render_branch hrule (losses_of_is hkind) hparts, ?_, ?_⟩
  · intro row hrow
    obtain ⟨line, hline, rfl⟩ := List.mem_map.mp hrow
    exact ⟨newline_not_mem_markLine _ (newline_not_mem_filledLines _ line hline),
      isMarked_markLine _ line⟩
  · have hsolid := map_solid_items fun part hpart => (hwritten part hpart).2
    rw [← List.forall₂_eq_eq_eq, List.forall₂_map_left_iff, List.forall₂_map_right_iff] at hsolid
    rw [← hnodes, List.forall₂_map_left_iff, List.forall₂_map_right_iff]
    refine ((List.forall₂_and_left ..).mpr ⟨hwritten, hsolid.flip⟩).imp ?_
    rintro part row ⟨⟨hrender, line, htext, _⟩, hrow⟩
    refine ⟨line, htext ▸ hrender, (solid_markLine _ row).trans ?_⟩
    rw [hrow, htext, solid_ended]
    rfl

/-- Headings, rows and lists of inline nodes by their lines. A heading and a row are one line each
but for the breaks in them; a list whose items have no breaks has one marked line for each. -/
theorem inline_constructs_by_line (options : Options) (n : Node) :
    (n.is .heading → n.IsSound → (∀ m ∈ n.children.flatMap visited, IsInline m) →
      ∃ line, n.render (renderer options) = .ok (.exact (line ++ "\n\n")) ∧
        line.toList.count '\n' = breakCount n.children) ∧
    (n.is .tableRow → (∀ cell ∈ n.children, IsInlineCell cell) →
      ∃ line, n.render (renderer options) = .ok (.exact (line ++ "\n")) ∧
        line.toList.count '\n' = breakCount n.children) ∧
    (n.is .list → (∀ item ∈ n.children, IsLineItem item) →
      ∃ rows, n.render (renderer options) =
          .ok (.exact (String.ofList (joinLines rows ++ ['\n', '\n']))) ∧
        (∀ row ∈ rows, '\n' ∉ row ∧ isMarked row) ∧
          List.Forall₂ (fun item row => ∃ line,
            item.render (renderer options) = .ok (.exact (line ++ "\n")) ∧
              solid row = markerOf n :: solid line.toList) n.children rows) :=
  ⟨render_heading options, render_row options, render_list options⟩

theorem inline_constructs_by_line_unbroken :
    let a := Node.text "a"
    let b := Node.ofElement .strong [a]
    let row := Node.tableRow [.tableCell true [a, b], .tableCell false [b]]
    let list := Node.list false [listItem [a, b], listItem [b]]
    (∃ line, (Node.heading 2 [a, b]).render (renderer {}) = .ok (.exact (line ++ "\n\n")) ∧
      line.toList.count '\n' = 0) ∧
    (∃ line, row.render (renderer {}) = .ok (.exact (line ++ "\n")) ∧
      line.toList.count '\n' = 0) ∧
    ∃ rows, list.render (renderer {}) =
        .ok (.exact (String.ofList (joinLines rows ++ ['\n', '\n']))) ∧
      (∀ row ∈ rows, '\n' ∉ row ∧ isMarked row) ∧ rows.length = 2 := by
  intro a b row list
  have ha : IsInline a := .literal (.inl rfl) "a" rfl (by decide)
  have hb : IsInline b := .style (e := .strong) rfl (.inr (.inl rfl))
  have hshown : IsVisible a := ⟨rfl, fun _ => ⟨"a", rfl, by decide⟩⟩
  have hpair : ∀ m ∈ [a, b].flatMap visited, IsInline m := by
    have hvisited : [a, b].flatMap visited = [a, b, a] := by rfl
    simp [hvisited, ha, hb]
  have hstrong : ∀ m ∈ [b].flatMap visited, IsInline m := by
    have hvisited : [b].flatMap visited = [b, a] := by rfl
    simp [hvisited, ha, hb]
  have hsound : (Node.heading 2 [a, b]).IsSound := isSound_heading rfl rfl (by decide)
  have hcells : ∀ cell ∈ row.children, IsInlineCell cell :=
    List.forall_mem_cons.mpr ⟨⟨.inl rfl, hpair⟩, List.forall_mem_singleton.mpr ⟨.inl rfl, hstrong⟩⟩
  have hfirst : IsLineItem (listItem [a, b]) :=
    ⟨rfl, hpair, by rfl, a, by decide, hshown⟩
  have hsecond : IsLineItem (listItem [b]) := ⟨rfl, hstrong, by rfl, a, by decide, hshown⟩
  have hitems : ∀ item ∈ list.children, IsLineItem item :=
    List.forall_mem_cons.mpr ⟨hfirst, List.forall_mem_singleton.mpr hsecond⟩
  obtain ⟨rows, hrows, hmarked, hforall⟩ := (inline_constructs_by_line {} list).2.2 rfl hitems
  exact ⟨(inline_constructs_by_line {} (.heading 2 [a, b])).1 rfl hsound hpair,
    (inline_constructs_by_line {} row).2.1 rfl hcells, rows, hrows, hmarked, hforall.length_eq.symm⟩

/-- A break in a list item makes two items of it, one in a row ends the row, and one in a heading
ends the heading. -/
theorem breaks_cut_lines :
    let content := [Node.text "a", .ofElement .softBreak [], .text "b"]
    (Node.list false [listItem content]).render (renderer {}) = .ok (.exact "* a\n* b\n\n") ∧
      (Node.tableRow [.tableCell false content]).render (renderer {}) = .ok (.exact "|a\nb\n") ∧
        (Node.heading 1 content).render (renderer {}) = .ok (.exact "h1. a\nb\n\n") := by
  exact ⟨by rfl, by rfl, by rfl⟩

end WikiMarkup.Confluence
