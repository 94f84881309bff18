import Mathlib.Data.List.Forall2
import Mathlib.Data.List.TakeWhile
import WikiMarkup.Proofs.Confluence.Shape

/-!
Reading rows of tables back. A row is its cells one after the other, each behind a mark, and the
mark of a header cell is that of a data cell written twice. So the line of a row can be read from
the left, and two bars are taken for one mark; this gives the cells back unless an empty data cell
stands before another cell, whose mark then runs on into the next one.
-/

namespace WikiMarkup.Confluence

open Node

/-- A cell as the line of its row shows it. -/
structure CellText where
  header : Bool
  content : List Char
  deriving DecidableEq

def CellText.written (c : CellText) : List Char := (cellMark c.header).toList ++ c.content

/-- The line of a row. -/
def rowLine (cells : List CellText) : List Char := cells.flatMap CellText.written

/-- Reads the cells of a line, two bars as one mark. -/
def cellsOf : List Char → List CellText
  | '|' :: '|' :: rest =>
      ⟨true, rest.takeWhile (· ≠ '|')⟩ :: cellsOf (rest.dropWhile (· ≠ '|'))
  | '|' :: rest => ⟨false, rest.takeWhile (· ≠ '|')⟩ :: cellsOf (rest.dropWhile (· ≠ '|'))
  | _ => []
  termination_by line => line.length
  decreasing_by
    all_goals
      have hlength :=
        (List.dropWhile_suffix (fun c : Char => decide (c ≠ '|')) (l := rest)).length_le
      simp only [List.length_cons]
      omega

/-- A content that could be told from the marks around it, and stands on one line. -/
def CellText.IsPlain (c : CellText) : Prop := '|' ∉ c.content ∧ '\n' ∉ c.content

/-- No empty data cell stands before another cell. -/
def IsSettled (cells : List CellText) : Prop :=
  ∀ c ∈ cells.dropLast, c.header = true ∨ c.content ≠ []

instance (cells : List CellText) : Decidable (IsSettled cells) :=
  inferInstanceAs (Decidable (∀ c ∈ cells.dropLast, _))

theorem isSettled_cons_iff {c : CellText} {rest : List CellText} :
    IsSettled (c :: rest) ↔
      (rest = [] ∨ c.header = true ∨ c.content ≠ []) ∧ IsSettled rest := by
  cases rest with
  | nil => simp [IsSettled]
  | cons next more => simp [IsSettled]

/-- A text that is empty or goes on with a mark. -/
def IsAtMark (line : List Char) : Prop := line = [] ∨ ∃ more, line = '|' :: more

theorem rowLine_header (content : List Char) (rest : List CellText) :
    rowLine (⟨true, content⟩ :: rest) = '|' :: '|' :: (content ++ rowLine rest) := by
  simp [rowLine, CellText.written, cellMark]

theorem rowLine_data (content : List Char) (rest : List CellText) :
    rowLine (⟨false, content⟩ :: rest) = '|' :: (content ++ rowLine rest) := by
  simp [rowLine, CellText.written, cellMark]

theorem isAtMark_rowLine (cells : List CellText) : IsAtMark (rowLine cells) := by
  cases cells with
  | nil => exact .inl rfl
  | cons c rest =>
      obtain ⟨header, content⟩ := c
      cases header
      · exact .inr ⟨_, rowLine_data content rest⟩
      · exact .inr ⟨_, rowLine_header content rest⟩

theorem isAtMark_dropWhile (line : List Char) : IsAtMark (line.dropWhile (· ≠ '|')) := by
  induction line with
  | nil => exact .inl rfl
  | cons c rest ih =>
      by_cases hc : c = '|'
      · exact .inr ⟨rest, by simp [hc]⟩
      · rw [List.dropWhile_cons_of_pos (by simpa using hc)]
        exact ih

theorem cellsOf_nil : cellsOf [] = [] := by
  rw [cellsOf] <;> simp

theorem cellsOf_header (rest : List Char) :
    cellsOf ('|' :: '|' :: rest) =
      ⟨true, rest.takeWhile (· ≠ '|')⟩ :: cellsOf (rest.dropWhile (· ≠ '|')) := by
  rw [cellsOf]

theorem cellsOf_data {rest : List Char} (h : ∀ more, rest ≠ '|' :: more) :
    cellsOf ('|' :: rest) =
      ⟨false, rest.takeWhile (· ≠ '|')⟩ :: cellsOf (rest.dropWhile (· ≠ '|')) := by
  rw [cellsOf]
  exact h

/-- A content ends at the next mark. -/
theorem takeWhile_content {content rest : List Char} (hcontent : '|' ∉ content)
    (hrest : IsAtMark rest) :
    (content ++ rest).takeWhile (· ≠ '|') = content ∧
      (content ++ rest).dropWhile (· ≠ '|') = rest := by
  have hnot : ∀ c ∈ content, decide (c ≠ '|') = true := by
    intro c hc
    rw [decide_eq_true_eq]
    rintro rfl
    exact hcontent hc
  rw [List.takeWhile_append_of_pos hnot, List.dropWhile_append_of_pos hnot]
  rcases hrest with rfl | ⟨more, rfl⟩ <;> simp

theorem cellsOf_rowLine {cells : List CellText} (hplain : ∀ c ∈ cells, c.IsPlain)
    (hsettled : IsSettled cells) : cellsOf (rowLine cells) = cells := by
  induction cells with
  | nil => exact cellsOf_nil
  | cons c rest ih =>
      obtain ⟨header, content⟩ := c
      obtain ⟨hfilled, hsettledRest⟩ := isSettled_cons_iff.mp hsettled
      have hcontent := (hplain ⟨header, content⟩ (by simp)).1
      have hrest := ih (fun other hother => hplain other (by simp [hother])) hsettledRest
      obtain ⟨htake, hdrop⟩ := takeWhile_content hcontent (isAtMark_rowLine rest)
      cases header with
      | true => rw [rowLine_header, cellsOf_header, htake, hdrop, hrest]
      | false =>
          -- Behind the mark stands the content, or the end of the line.
          have hmark : ∀ more, content ++ rowLine rest ≠ '|' :: more := by
            intro more hmore
            cases content with
            | nil =>
                have hlast : rest = [] := by simpa using hfilled
                simp [hlast, rowLine] at hmore
            | cons first others =>
                injection hmore with hfirst
                exact hcontent (by simp [hfirst])
          rw [rowLine_data, cellsOf_data hmark, htake, hdrop, hrest]

/-- The cells that are read from a line of marks and contents are written as this line. -/
theorem rowLine_cellsOf {line : List Char} (h : IsAtMark line) :
    rowLine (cellsOf line) = line := by
  induction line using cellsOf.induct with
  | case1 rest ih =>
      rw [cellsOf_header, rowLine_header, ih (isAtMark_dropWhile rest),
        List.takeWhile_append_dropWhile]
  | case2 rest hrest ih =>
      rw [cellsOf_data hrest, rowLine_data, ih (isAtMark_dropWhile rest),
        List.takeWhile_append_dropWhile]
  | case3 line hheader hdata =>
      rcases h with rfl | ⟨more, rfl⟩
      · rw [cellsOf_nil]
        rfl
      · exact absurd rfl (hdata more)

theorem isSettled_cellsOf {line : List Char} (h : IsAtMark line) :
    IsSettled (cellsOf line) := by
  induction line using cellsOf.induct with
  | case1 rest ih =>
      rw [cellsOf_header]
      exact isSettled_cons_iff.mpr ⟨.inr (.inl rfl), ih (isAtMark_dropWhile rest)⟩
  | case2 rest hrest ih =>
      rw [cellsOf_data hrest]
      refine isSettled_cons_iff.mpr ⟨?_, ih (isAtMark_dropWhile rest)⟩
      cases rest with
      | nil => exact .inl cellsOf_nil
      | cons c more =>
          have hc : c ≠ '|' := by
            rintro rfl
            exact hrest more rfl
          exact .inr (.inr (by simp [hc]))
  | case3 line hheader hdata =>
      rcases h with rfl | ⟨more, rfl⟩
      · rw [cellsOf_nil]
        simp [IsSettled]
      · exact absurd rfl (hdata more)

theorem isPlain_takeWhile (header : Bool) {line : List Char} (hline : '\n' ∉ line) :
    CellText.IsPlain ⟨header, line.takeWhile (· ≠ '|')⟩ := by
  constructor
  · intro hbar
    simpa using List.mem_takeWhile_imp hbar
  · exact fun hbreak => hline ((List.takeWhile_sublist _).subset hbreak)

theorem isPlain_cellsOf {line : List Char} (hline : '\n' ∉ line) :
    ∀ c ∈ cellsOf line, c.IsPlain := by
  induction line using cellsOf.induct with
  | case1 rest ih =>
      have hrest : '\n' ∉ rest := fun h => hline (by simp [h])
      have hbehind := ih fun h => hrest ((List.dropWhile_sublist _).subset h)
      rw [cellsOf_header]
      exact List.forall_mem_cons.mpr ⟨isPlain_takeWhile true hrest, hbehind⟩
  | case2 rest hmark ih =>
      have hrest : '\n' ∉ rest := fun h => hline (by simp [h])
      have hbehind := ih fun h => hrest ((List.dropWhile_sublist _).subset h)
      rw [cellsOf_data hmark]
      exact List.forall_mem_cons.mpr ⟨isPlain_takeWhile false hrest, hbehind⟩
  | case3 line hheader hdata =>
      have hnone : cellsOf line = [] := by
        rw [cellsOf]
        · exact hheader
        · exact hdata
      simp [hnone]

theorem CellText.newline_not_mem_written {c : CellText} (h : '\n' ∉ c.content) :
    '\n' ∉ c.written := by
  intro hmem
  rcases List.mem_append.mp hmem with hmark | hcontent
  · revert hmark
    cases c.header <;> decide
  · exact h hcontent

theorem newline_not_mem_rowLine {cells : List CellText} (h : ∀ c ∈ cells, c.IsPlain) :
    '\n' ∉ rowLine cells := by
  intro hmem
  obtain ⟨c, hc, hmem⟩ := List.mem_flatMap.mp hmem
  exact c.newline_not_mem_written (h c hc).2 hmem

/-- A cell of either kind, with the text written for its children. -/
structure IsTableCell (options : Options) (n : Node) (c : CellText) : Prop where
  kind : n.is .tableCell ∨ n.is .tableHeader
  header : Rule.isHeaderCell n = c.header
  content : ∃ parts, renderAll (renderer options) n.children = .ok parts ∧
    (Rule.join parts.value).toList = c.content

/-- A row of cells, each given by what its line shows of it. -/
structure IsTableRow (options : Options) (n : Node) (cells : List CellText) : Prop where
  kind : n.is .tableRow
  cells : List.Forall₂ (IsTableCell options) n.children cells

theorem IsTableCell.render {options : Options} {n : Node} {c : CellText}
    (h : IsTableCell options n c) :
    ∃ warnings, n.render (renderer options) = .ok ⟨String.ofList c.written, warnings⟩ := by
  obtain ⟨parts, hparts, hcontent⟩ := h.content
  have htext : cellMark (Rule.isHeaderCell n) ++ Rule.join parts.value =
      String.ofList c.written := by
    rw [CellText.written, ← h.header, ← hcontent]
    simp [String.ofList_append]
  refine ⟨n.losses ++ parts.warnings, ?_⟩
  rw [render_eq, ofNode_tableCell options h.kind]
  simp only [hparts, htext]

theorem exists_forall₂ {α β : Type} {R : α → β → Prop} {values : List α}
    (h : ∀ value ∈ values, ∃ other, R value other) : ∃ others, List.Forall₂ R values others := by
  induction values with
  | nil => exact ⟨[], .nil⟩
  | cons value rest ih =>
      obtain ⟨⟨other, hother⟩, hrest⟩ := List.forall_mem_cons.mp h
      obtain ⟨others, hothers⟩ := ih hrest
      exact ⟨other :: others, .cons hother hothers⟩

/-- Nodes that are each written as something is are written, one after the other, as a sequence of
such things is. -/
theorem renderAll_of_forall₂ {α : Type} {r : Renderer} {IsWrittenAs : Node → α → Prop}
    {write : α → List Char} {ns : List Node} {values : List α}
    (hwrite : ∀ n value, IsWrittenAs n value → ∃ text warnings,
      n.render r = .ok ⟨text, warnings⟩ ∧ text.toList = write value)
    (h : List.Forall₂ IsWrittenAs ns values) :
    ∃ parts, renderAll r ns = .ok parts ∧
      (Rule.join parts.value).toList = values.flatMap write := by
  induction h with
  | nil => exact ⟨.exact [], by rw [renderAll], rfl⟩
  | cons hn _ ih =>
      obtain ⟨text, warnings, hrender, htext⟩ := hwrite _ _ hn
      obtain ⟨parts, hparts, hjoin⟩ := ih
      refine ⟨_, by simp only [renderAll, hrender, hparts]; rfl, ?_⟩
      rw [toList_join] at hjoin ⊢
      rw [List.flatMap_cons, List.flatMap_cons, hjoin, htext]

theorem render_cells {options : Options} {ns : List Node} {cells : List CellText}
    (h : List.Forall₂ (IsTableCell options) ns cells) :
    ∃ parts, renderAll (renderer options) ns = .ok parts ∧
      Rule.join parts.value = String.ofList (rowLine cells) := by
  have hwrite : ∀ n c, IsTableCell options n c → ∃ text warnings,
      n.render (renderer options) = .ok ⟨text, warnings⟩ ∧ text.toList = c.written := by
    intro n c hcell
    obtain ⟨warnings, hrender⟩ := hcell.render
    exact ⟨_, warnings, hrender, String.toList_ofList⟩
  obtain ⟨parts, hparts, hjoin⟩ := renderAll_of_forall₂ hwrite h
  exact ⟨parts, hparts, by rw [rowLine, ← hjoin, String.ofList_toList]⟩

theorem IsTableRow.render {options : Options} {n : Node} {cells : List CellText}
    (h : IsTableRow options n cells) :
    ∃ warnings, n.render (renderer options) =
      .ok ⟨String.ofList (rowLine cells) ++ "\n", warnings⟩ := by
  obtain ⟨parts, hparts, hjoin⟩ := render_cells h.cells
  refine ⟨n.losses ++ parts.warnings, ?_⟩
  rw [render_eq, ofNode_tableRow options h.kind]
  simp only [hparts, hjoin]

/-- A cell with the given text, or with nothing in it. -/
def CellText.node (c : CellText) : Node :=
  .tableCell c.header (if c.content = [] then [] else [.text (String.ofList c.content)])

def rowOf (cells : List CellText) : Node := .tableRow (cells.map CellText.node)

theorem isTableCell_node (options : Options) (c : CellText) : IsTableCell options c.node c := by
  have hkind : c.node.is .tableCell := rfl
  have hflag : c.node.properties.getFlag? PropertyKey.header = some c.header := by
    simp [CellText.node, tableCell, Properties.getFlag?, Properties.get?_set]
  constructor
  · exact .inl hkind
  · rw [Rule.isHeaderCell, is_eq_decide hkind, hflag]
    cases c.header <;> rfl
  · have hchildren : c.node.children =
        if c.content = [] then [] else [.text (String.ofList c.content)] := rfl
    by_cases hempty : c.content = []
    · rw [hchildren, if_pos hempty, hempty]
      exact ⟨.exact [], by rw [renderAll], rfl⟩
    · rw [hchildren, if_neg hempty]
      exact ⟨.exact [(.text (String.ofList c.content), String.ofList c.content)], rfl,
        by simp [Rule.join, Converted.exact]⟩

theorem isTableRow_rowOf (options : Options) (cells : List CellText) :
    IsTableRow options (rowOf cells) cells := by
  refine ⟨rfl, ?_⟩
  rw [rowOf, tableRow, children_ofElement, List.forall₂_map_left_iff, List.forall₂_same]
  exact fun c _ => isTableCell_node options c

/-- Rows of plain cells are each written on one line. The line determines the cells of a row in
which no empty data cell stands before another cell; every other row has its line in common with a
different row. -/
theorem settled_rows_are_unambiguous (options : Options) {n other : Node}
    {cells others : List CellText} (hn : IsTableRow options n cells)
    (hother : IsTableRow options other others) (hcells : ∀ c ∈ cells, c.IsPlain)
    (hothers : ∀ c ∈ others, c.IsPlain) :
    ∃ line warnings line' warnings',
      n.render (renderer options) = .ok ⟨line ++ "\n", warnings⟩ ∧
        other.render (renderer options) = .ok ⟨line' ++ "\n", warnings'⟩ ∧
          '\n' ∉ line.toList ∧
            (IsSettled cells → IsSettled others → line = line' → cells = others) ∧
              (¬ IsSettled cells → ∃ m different, IsTableRow options m different ∧
                (∀ c ∈ different, c.IsPlain) ∧ different ≠ cells ∧
                  ∃ more, m.render (renderer options) = .ok ⟨line ++ "\n", more⟩) := by
  obtain ⟨warnings, hline⟩ := hn.render
  obtain ⟨warnings', hline'⟩ := hother.render
  refine ⟨_, warnings, _, warnings', hline, hline', ?_, ?_, ?_⟩
  · simpa using newline_not_mem_rowLine hcells
  · intro hsettled hsettled' heq
    have hsame : rowLine cells = rowLine others := by
      simpa using congrArg String.toList heq
    rw [← cellsOf_rowLine hcells hsettled, hsame, cellsOf_rowLine hothers hsettled']
  · intro hunsettled
    have hmark := isAtMark_rowLine cells
    have hrow := isTableRow_rowOf options (cellsOf (rowLine cells))
    obtain ⟨more, hrender⟩ := hrow.render
    rw [rowLine_cellsOf hmark] at hrender
    refine ⟨_, _, hrow, isPlain_cellsOf (newline_not_mem_rowLine hcells), ?_, more, hrender⟩
    intro heq
    exact hunsettled (heq ▸ isSettled_cellsOf hmark)

/-- Two rows with cells of both kinds, some of them empty. -/
theorem settled_rows_are_unambiguous_full :
    let cells : List CellText := [⟨true, []⟩, ⟨false, ['x']⟩, ⟨false, []⟩]
    let others : List CellText := [⟨true, []⟩, ⟨true, ['x']⟩, ⟨false, []⟩]
    IsTableRow {} (rowOf cells) cells ∧ IsTableRow {} (rowOf others) others ∧
      (∀ c ∈ cells, c.IsPlain) ∧ (∀ c ∈ others, c.IsPlain) ∧ IsSettled cells ∧
        IsSettled others ∧
          (rowOf cells).render (renderer {}) ≠ (rowOf others).render (renderer {}) := by
  intro cells others
  have hcells : ∀ c ∈ cells, c.IsPlain := by simp [cells, CellText.IsPlain]
  have hothers : ∀ c ∈ others, c.IsPlain := by simp [others, CellText.IsPlain]
  have hrow := isTableRow_rowOf {} cells
  have hrow' := isTableRow_rowOf {} others
  have hsettled : IsSettled cells := by decide
  have hsettled' : IsSettled others := by decide
  refine ⟨hrow, hrow', hcells, hothers, hsettled, hsettled', ?_⟩
  obtain ⟨line, warnings, line', warnings', hline, hline', _, hsame, _⟩ :=
    settled_rows_are_unambiguous {} hrow hrow' hcells hothers
  intro heq
  rw [hline, hline'] at heq
  injection heq with hresult
  injection hresult with hvalue
  have hlines : line = line' := by simpa using hvalue
  have hnot : cells ≠ others := by decide
  exact hnot (hsame hsettled hsettled' hlines)

/-- An empty data cell before a data cell makes the mark of one header cell. -/
theorem empty_cell_joins_next_mark :
    let cells : List CellText := [⟨false, []⟩, ⟨false, ['x']⟩]
    let others : List CellText := [⟨true, ['x']⟩]
    IsTableRow {} (rowOf cells) cells ∧ IsTableRow {} (rowOf others) others ∧
      (∀ c ∈ cells ++ others, c.IsPlain) ∧ cells ≠ others ∧
        (rowOf cells).render (renderer {}) = .ok (.exact "||x\n") ∧
          (rowOf others).render (renderer {}) = .ok (.exact "||x\n") := by
  intro cells others
  refine ⟨isTableRow_rowOf {} cells, isTableRow_rowOf {} others, ?_, by decide, by rfl, by rfl⟩
  simp [cells, others, CellText.IsPlain]

end WikiMarkup.Confluence
