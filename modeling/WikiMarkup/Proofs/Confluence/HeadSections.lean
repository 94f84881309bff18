import WikiMarkup.Proofs.Confluence.Lines
import WikiMarkup.Proofs.Confluence.Rows
import WikiMarkup.Proofs.Rendering.Assembly
import WikiMarkup.Proofs.Rendering.Outcome

/-!
Rows of a head section. A head section puts its rows in front of all that is not of the head, and
that is all it does: the mark of each cell is the one that the cell asks for itself, by its kind or
by a flag. So a cell that says nothing is written as a data cell in a head section too.
-/

namespace WikiMarkup.Confluence

open Node

variable {options : Options}

/-- A cell that says of itself that it is a header cell, by its kind or by a flag. -/
def SaysHeader (cell : Node) : Prop :=
  cell.is .tableHeader ∨ cell.properties.get? PropertyKey.header = some (.flag true)

instance (cell : Node) : Decidable (SaysHeader cell) := inferInstanceAs (Decidable (_ ∨ _))

theorem isHeaderCell_iff {cell : Node} : Rule.isHeaderCell cell ↔ SaysHeader cell := by
  rw [Rule.isHeaderCell, SaysHeader, Bool.or_eq_true, decide_eq_true_eq, Properties.getFlag?]
  refine or_congr_right ?_
  split <;> simp_all

/-- A head section with rows of cells of either kind. -/
structure IsHeadSection (n : Node) : Prop where
  kind : n.is .tableHead
  rows : ∀ row ∈ n.children, row.is .tableRow
  cells : ∀ row ∈ n.children, ∀ cell ∈ row.children, cell.is .tableCell ∨ cell.is .tableHeader

/-- Nodes that are written one after the other as the given text. -/
def AreWritten (options : Options) (ns : List Node) (text : List Char) : Prop :=
  ∃ parts, renderAll (renderer options) ns = .ok parts ∧
    (Rule.join parts.value).toList = text

theorem areWritten_parts {parts : List (Node × String)}
    (h : ∀ part ∈ parts, ∃ warnings, part.1.render (renderer options) = .ok ⟨part.2, warnings⟩) :
    AreWritten options (parts.map (·.1)) (Rule.join parts).toList := by
  obtain ⟨warnings, hall⟩ := exists_renderAll h
  exact ⟨_, hall, rfl⟩

/-- The nodes of some parts are chosen by what they are, and their texts with them. -/
theorem areWritten_filter {parts : List (Node × String)}
    (h : ∀ part ∈ parts, ∃ warnings, part.1.render (renderer options) = .ok ⟨part.2, warnings⟩)
    (keep : Node → Bool) :
    AreWritten options ((parts.map (·.1)).filter keep)
      (Rule.join (parts.filter (keep ·.1))).toList := by
  rw [List.filter_map]
  exact areWritten_parts fun part hpart => h part (List.mem_filter.mp hpart).1

theorem exists_tableCell {cell : Node} (hkind : cell.is .tableCell ∨ cell.is .tableHeader)
    {result : Converted String} (h : cell.render (renderer options) = .ok result) :
    ∃ c, IsTableCell options cell c := by
  have hopen : cell.isClosed = false := by
    rcases hkind with hkind | hkind <;> exact any_is hkind closedElements
  obtain ⟨_, parts, -, hparts, -⟩ := exists_parts_of_render hopen h
  exact ⟨⟨_, _⟩, hkind, rfl, parts, hparts, rfl⟩

theorem exists_tableRow {row : Node} (hkind : row.is .tableRow)
    (hcells : ∀ cell ∈ row.children, cell.is .tableCell ∨ cell.is .tableHeader)
    {result : Converted String} (h : row.render (renderer options) = .ok result) :
    ∃ cells, IsTableRow options row cells := by
  have hopen : row.isClosed = false := any_is hkind closedElements
  have hwritten : ∀ cell ∈ row.children, ∃ c, IsTableCell options cell c := by
    intro cell hcell
    obtain ⟨_, _, _, _, -, -, hrender, -⟩ := exists_part_of_render hopen hcell h
    exact exists_tableCell (hcells cell hcell) hrender
  obtain ⟨cells, hforall⟩ := exists_forall₂ hwritten
  exact ⟨cells, hkind, hforall⟩

/-- A head section is written row by row, each row as the line of its cells. -/
theorem IsHeadSection.exists_rows {head : Node} (h : IsHeadSection head)
    {result : Converted String} (hrender : head.render (renderer options) = .ok result) :
    ∃ rows, List.Forall₂ (IsTableRow options) head.children rows ∧
      result.value.toList = endLines (rows.map rowLine) := by
  have hopen : head.isClosed = false := any_is h.kind closedElements
  have hwritten : ∀ row ∈ head.children, ∃ cells, IsTableRow options row cells := by
    intro row hrow
    obtain ⟨_, _, _, _, -, -, hrow', -⟩ := exists_part_of_render hopen hrow hrender
    exact exists_tableRow (h.rows row hrow) (h.cells row hrow) hrow'
  obtain ⟨rows, hrows⟩ := exists_forall₂ hwritten
  have hlines : ∀ row cells, IsTableRow options row cells → ∃ text warnings,
      row.render (renderer options) = .ok ⟨text, warnings⟩ ∧
        text.toList = rowLine cells ++ ['\n'] := by
    intro row cells hcells
    obtain ⟨warnings, hrow⟩ := hcells.render
    exact ⟨_, warnings, hrow, by simp⟩
  obtain ⟨parts, hparts, hjoin⟩ := renderAll_of_forall₂ hlines hrows
  have hrule : Rule.ofNode (renderer options) head = .ok (.branch Rule.join) :=
    ofNode_of_is h.kind _
  rw [render_eq, hrule] at hrender
  simp only [hparts, Except.ok.injEq] at hrender
  refine ⟨rows, hrows, ?_⟩
  rw [← hrender, endLines, List.flatMap_map]
  exact hjoin

/-- What is in front of and behind a child among the parts of a table that is written. -/
theorem exists_table_parts {n head : Node} {front back : List Node} (hkind : n.is .table)
    (hchildren : n.children = front ++ head :: back) {result : Converted String}
    (hrender : n.render (renderer options) = .ok result) :
    ∃ before text after,
      before.map (·.1) = front ∧ after.map (·.1) = back ∧
        (∀ part ∈ before ++ (head, text) :: after, ∃ warnings,
          part.1.render (renderer options) = .ok ⟨part.2, warnings⟩) ∧
          result.value = Rule.tableText (renderer options) (before ++ (head, text) :: after) := by
  have hopen : n.isClosed = false := any_is hkind closedElements
  obtain ⟨assemble, parts, hrule, hparts, rfl⟩ := exists_parts_of_render hopen hrender
  obtain ⟨hnodes, hwritten⟩ := renderAll_parts hparts
  rw [hchildren, List.map_eq_append_iff] at hnodes
  obtain ⟨before, others, hvalue, hbefore, hothers⟩ := hnodes
  obtain ⟨⟨_, text⟩, after, rfl, rfl, hafter⟩ := List.map_eq_cons_iff.mp hothers
  have htable : Rule.ofNode (renderer options) n =
      .ok (.branch (Rule.tableText (renderer options))) := ofNode_of_is hkind _
  rw [htable] at hrule
  cases hrule
  rw [hvalue] at hwritten ⊢
  exact ⟨before, text, after, hbefore, hafter, hwritten, rfl⟩

/-- A cell behind the mark that it asks for itself. -/
structure IsMarkedByItself (options : Options) (cell : Node) (c : CellText) : Prop where
  content : AreWritten options cell.children c.content
  header : SaysHeader cell → c.written = '|' :: '|' :: c.content
  data : ¬ SaysHeader cell → c.written = '|' :: c.content

theorem IsTableCell.isMarkedByItself {cell : Node} {c : CellText} (h : IsTableCell options cell c) :
    IsMarkedByItself options cell c := by
  refine ⟨h.content, ?_, ?_⟩
  · intro hsays
    rw [CellText.written, ← h.header, isHeaderCell_iff.mpr hsays]
    rfl
  · intro hnot
    have hdata : Rule.isHeaderCell cell = false :=
      Bool.eq_false_iff.mpr fun hheader => hnot (isHeaderCell_iff.mp hheader)
    rw [CellText.written, ← h.header, hdata]
    rfl

theorem IsMarkedByItself.doubled_iff {cell : Node} {c : CellText}
    (h : IsMarkedByItself options cell c) :
    c.written = '|' :: '|' :: c.content ↔ SaysHeader cell := by
  refine ⟨fun hdouble => ?_, h.header⟩
  apply Classical.byContradiction
  intro hnot
  have hlength := congrArg List.length ((h.data hnot).symm.trans hdouble)
  simp at hlength

theorem forall_mem_iff_of_forall₂ {α β : Type} {R : α → β → Prop} {P : α → Prop} {Q : β → Prop}
    (hiff : ∀ value other, R value other → (Q other ↔ P value)) {values : List α} {others : List β}
    (h : List.Forall₂ R values others) :
    (∀ other ∈ others, Q other) ↔ ∀ value ∈ values, P value := by
  induction h with
  | nil => simp
  | cons hfirst _ ih => rw [List.forall_mem_cons, List.forall_mem_cons, hiff _ _ hfirst, ih]

/-- Where a table is written, every head section in it is written row by row, behind the parts of
the head that stand before it and in front of all others, each row as the line of its cells; and
each cell stands behind two bars if it says of itself that it is a header cell, and else behind one.
So all cells of the section stand behind two bars exactly if all of them say so. -/
theorem head_cells_are_marked_by_themselves (options : Options) {n head : Node}
    {front back : List Node} (hkind : n.is .table) (hchildren : n.children = front ++ head :: back)
    (hsection : IsHeadSection head) {text : String} {warnings : List FidelityWarning}
    (hrender : n.render (renderer options) = .ok ⟨text, warnings⟩) :
    ∃ rows before after others,
      text.toList = before ++ endLines (rows.map rowLine) ++ after ++ others ++ ['\n'] ∧
        AreWritten options (front.filter Rule.inTableHead) before ∧
        AreWritten options (back.filter Rule.inTableHead) after ∧
        AreWritten options ((front ++ back).filter (!Rule.inTableHead ·)) others ∧
        List.Forall₂ (fun row cells =>
          List.Forall₂ (IsMarkedByItself options) row.children cells) head.children rows ∧
        ((∀ cells ∈ rows, ∀ c ∈ cells, c.written = '|' :: '|' :: c.content) ↔
          ∀ row ∈ head.children, ∀ cell ∈ row.children, SaysHeader cell) := by
  obtain ⟨before, own, after, rfl, rfl, hwritten, hvalue⟩ :=
    exists_table_parts hkind hchildren hrender
  simp only at hvalue
  simp only [List.forall_mem_append, List.forall_mem_cons] at hwritten
  obtain ⟨hbefore, ⟨ownWarnings, hown⟩, hafter⟩ := hwritten
  obtain ⟨rows, hrows, hlines⟩ := hsection.exists_rows hown
  have hmarked : List.Forall₂ (fun row cells =>
      List.Forall₂ (IsMarkedByItself options) row.children cells) head.children rows :=
    hrows.imp fun _ _ hrow => hrow.cells.imp fun _ _ hcell => hcell.isMarkedByItself
  have hothers := areWritten_filter (List.forall_mem_append.mpr ⟨hbefore, hafter⟩)
    (!Rule.inTableHead ·)
  rw [List.map_append] at hothers
  have hhead : Rule.inTableHead head = true := by
    rw [Rule.inTableHead, hsection.kind, Bool.true_or]
  refine ⟨rows, _, _, _, ?_, areWritten_filter hbefore _, areWritten_filter hafter _, hothers,
    hmarked, ?_⟩
  · rw [hvalue, ← hlines]
    simp [Rule.tableText, renderer, List.filter_append, hhead, Rule.join_append,
      Rule.join_cons]
  · exact forall_mem_iff_of_forall₂ (fun _ _ hrow =>
      forall_mem_iff_of_forall₂ (fun _ _ hcell => hcell.doubled_iff) hrow) hmarked

/-- A head section behind a data row, with cells that are marked in its first row only. -/
theorem head_cells_are_marked_by_themselves_mixed :
    let a := Node.tableCell true [.text "a"]
    let b := Node.ofElement .tableHeader [.text "b"]
    let c := Node.ofElement .tableCell [.text "c"]
    let d := Node.tableCell false []
    let head := Node.ofElement .tableHead [.tableRow [a, b], .tableRow [c, d]]
    let table := Node.ofElement .table [.tableRow [c], head]
    table.is .table ∧ table.children = [.tableRow [c]] ++ head :: [] ∧ IsHeadSection head ∧
      table.render (renderer {}) = .ok ⟨"||a||b\n|c|\n|c\n\n", []⟩ ∧
        ∃ rows, List.Forall₂ (fun row cells =>
          List.Forall₂ (IsMarkedByItself {}) row.children cells) head.children rows ∧
            ¬ ∀ cells ∈ rows, ∀ c ∈ cells, c.written = '|' :: '|' :: c.content := by
  intro a b c d head table
  have hsection : IsHeadSection head := ⟨rfl, by decide, by decide⟩
  have hrender : table.render (renderer {}) = .ok ⟨"||a||b\n|c|\n|c\n\n", []⟩ := by rfl
  have hchildren : table.children = [.tableRow [c]] ++ head :: [] := rfl
  obtain ⟨rows, before, after, others, -, -, -, -, hrows, hdoubled⟩ :=
    head_cells_are_marked_by_themselves {} rfl hchildren hsection hrender
  refine ⟨rfl, hchildren, hsection, hrender, rows, hrows, ?_⟩
  rw [hdoubled]
  decide

/-- A cell that does not say that it is a header cell has one bar in a head section too. -/
theorem unmarked_head_cell_has_one_bar :
    let head := Node.ofElement .tableHead [.tableRow [.ofElement .tableCell [.text "a"]]]
    IsHeadSection head ∧
      render {} ⟨.document [.ofElement .table [head]]⟩ = .ok (.exact "|a\n\n") := by
  exact ⟨⟨rfl, by decide, by decide⟩, by rfl⟩

end WikiMarkup.Confluence
