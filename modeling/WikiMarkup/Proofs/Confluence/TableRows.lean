import WikiMarkup.Proofs.Confluence.Lines
import WikiMarkup.Proofs.Confluence.Rows
import WikiMarkup.Proofs.Rendering.Outcome

/-!
Tables as sequences of rows. A table holds sections, which hold rows, and rows that stand in no
section, in any order. Each row is written on a line of its own. Those that belong to the head come
first; apart from that the order is that of the document, so the text of a table is a stable
partition of its rows.
-/

namespace WikiMarkup

namespace Node

/-- The sections that rows of a table are put in. -/
def sectionElements : List Element := [.tableHead, .tableBody, .tableFoot]

/-- A row of a table, with whether it belongs to the head. -/
structure PlacedRow where
  row : Node
  inHead : Bool

/-- The rows of a part of a table. A row of a section belongs to the head if the section is one; a
row that is a part itself does if its first cell is a header cell. -/
def rowsOfPart (part : Node) : List PlacedRow :=
  if part.is .tableRow then [⟨part, part.children.head?.any Rule.isHeaderCell⟩]
  else part.children.map fun row => ⟨row, part.is .tableHead⟩

/-- The rows of a table in document order. -/
def tableRows (n : Node) : List PlacedRow := n.children.flatMap rowsOfPart

theorem rowsOfPart_row {part : Node} (h : part.is .tableRow) :
    rowsOfPart part = [⟨part, part.children.head?.any Rule.isHeaderCell⟩] := by
  rw [rowsOfPart, if_pos h]

theorem rowsOfPart_section {part : Node} (h : part.is .tableRow = false) :
    rowsOfPart part = part.children.map fun row => ⟨row, part.is .tableHead⟩ := by
  rw [rowsOfPart, h, if_neg Bool.false_ne_true]

/-- A table keeps the rows of one part together, in its head or behind it. -/
theorem inHead_of_mem_rowsOfPart {part : Node} {placed : PlacedRow}
    (h : placed ∈ rowsOfPart part) : placed.inHead = Rule.inTableHead part := by
  cases hrow : part.is .tableRow with
  | true =>
      have hhead : part.is .tableHead = false := is_eq_decide hrow .tableHead
      rw [rowsOfPart_row hrow, List.mem_singleton] at h
      rw [h, Rule.inTableHead, hrow, hhead]
      rfl
  | false =>
      rw [rowsOfPart_section hrow] at h
      obtain ⟨row, -, rfl⟩ := List.mem_map.mp h
      rw [Rule.inTableHead, hrow, Bool.false_and, Bool.or_false]

theorem filter_flatMap_rowsOfPart (keep : Bool → Bool) (parts : List Node) :
    (parts.flatMap rowsOfPart).filter (keep ·.inHead) =
      (parts.filter (keep <| Rule.inTableHead ·)).flatMap rowsOfPart := by
  induction parts with
  | nil => rfl
  | cons part rest ih =>
      have hpart : (rowsOfPart part).filter (keep ·.inHead) =
          if keep (Rule.inTableHead part) then rowsOfPart part else [] := by
        cases hkeep : keep (Rule.inTableHead part) with
        | true =>
            refine List.filter_eq_self.mpr fun placed hplaced => ?_
            rw [inHead_of_mem_rowsOfPart hplaced, hkeep]
        | false =>
            refine List.filter_eq_nil_iff.mpr fun placed hplaced => ?_
            rw [inHead_of_mem_rowsOfPart hplaced, hkeep]
            exact Bool.false_ne_true
      rw [List.flatMap_cons, List.filter_append, hpart, ih, List.filter_cons]
      split <;> simp

end Node

namespace Confluence

open Node

variable {options : Options}

/-- A row of cells that are each written without a line end, and the line of the row. -/
def IsLineRow (options : Options) (row : Node) (line : List Char) : Prop :=
  ∃ cells, IsTableRow options row cells ∧ (∀ c ∈ cells, '\n' ∉ c.content) ∧ line = rowLine cells

/-- A table of sections and rows in any order, each row on a line of its own. -/
structure IsTableOfRows (options : Options) (n : Node) : Prop where
  kind : n.is .table
  parts : ∀ part ∈ n.children, part.is .tableRow ∨ sectionElements.any part.is
  rows : ∀ placed ∈ n.tableRows, ∃ line, IsLineRow options placed.row line

theorem IsLineRow.newline_not_mem {row : Node} {line : List Char}
    (h : IsLineRow options row line) : '\n' ∉ line := by
  obtain ⟨cells, -, hcells, rfl⟩ := h
  intro hmem
  obtain ⟨c, hc, hmem⟩ := List.mem_flatMap.mp hmem
  exact c.newline_not_mem_written (hcells c hc) hmem

theorem IsLineRow.render {row : Node} {line : List Char} (h : IsLineRow options row line) :
    ∃ text warnings, row.render (renderer options) = .ok ⟨text, warnings⟩ ∧
      text.toList = line ++ ['\n'] := by
  obtain ⟨cells, hcells, -, rfl⟩ := h
  obtain ⟨warnings, hrender⟩ := hcells.render
  exact ⟨_, warnings, hrender, by simp⟩

theorem render_rows {rows : List Node} {lines : List (List Char)}
    (h : List.Forall₂ (IsLineRow options) rows lines) :
    ∃ parts, renderAll (renderer options) rows = .ok parts ∧
      (Rule.join parts.value).toList = endLines lines :=
  renderAll_of_forall₂ (fun _ _ hrow => hrow.render) h

/-- A part of a table is written as its rows are, each on a line. -/
def IsWrittenByRow (options : Options) (part : Node × String) : Prop :=
  (∃ warnings, part.1.render (renderer options) = .ok ⟨part.2, warnings⟩) ∧
    ∃ lines, List.Forall₂ (IsLineRow options) ((rowsOfPart part.1).map (·.row)) lines ∧
      part.2.toList = endLines lines

theorem render_part {part : Node} (hpart : part.is .tableRow ∨ sectionElements.any part.is)
    (h : ∀ placed ∈ rowsOfPart part, ∃ line, IsLineRow options placed.row line) :
    ∃ text, IsWrittenByRow options (part, text) := by
  cases hrow : part.is .tableRow with
  | true =>
      rw [rowsOfPart_row hrow] at h
      obtain ⟨line, hline⟩ := h _ (List.mem_singleton_self _)
      obtain ⟨text, warnings, hrender, htext⟩ := hline.render
      refine ⟨text, ⟨warnings, hrender⟩, [line], ?_, by rw [htext, endLines_singleton]⟩
      rw [rowsOfPart_row hrow]
      exact .cons hline .nil
  | false =>
      have hrule : Rule.ofNode (renderer options) part = .ok (.branch Rule.join) := by
        obtain ⟨e, he, hkind⟩ := List.any_eq_true.mp (hpart.resolve_left (by simp [hrow]))
        simp only [sectionElements, List.mem_cons, List.not_mem_nil, or_false] at he
        rw [ofNode_of_is hkind]
        rcases he with rfl | rfl | rfl <;> rfl
      have hrows : (rowsOfPart part).map (·.row) = part.children := by
        rw [rowsOfPart_section hrow, List.map_map]
        exact List.map_id _
      obtain ⟨lines, hlines⟩ := exists_forall₂ (List.forall_mem_map.mpr h)
      rw [hrows] at hlines
      obtain ⟨parts, hparts, hjoin⟩ := render_rows hlines
      refine ⟨Rule.join parts.value, ⟨part.losses ++ parts.warnings, ?_⟩, lines, ?_, hjoin⟩
      · rw [render_eq, hrule]
        simp only [hparts]
      · rw [hrows]
        exact hlines

/-- Parts one after the other are their rows one after the other. -/
theorem exists_lines_of_parts {parts : List (Node × String)}
    (h : ∀ part ∈ parts, IsWrittenByRow options part) :
    ∃ lines, List.Forall₂ (IsLineRow options)
        (((parts.map (·.1)).flatMap rowsOfPart).map (·.row)) lines ∧
      (Rule.join parts).toList = endLines lines := by
  induction parts with
  | nil => exact ⟨[], .nil, rfl⟩
  | cons part rest ih =>
      obtain ⟨⟨-, lines, hlines, htext⟩, hrest⟩ := List.forall_mem_cons.mp h
      obtain ⟨more, hmore, hjoin⟩ := ih hrest
      refine ⟨lines ++ more, ?_, ?_⟩
      · rw [List.map_cons, List.flatMap_cons, List.map_append]
        exact List.rel_append hlines hmore
      · rw [toList_join] at hjoin ⊢
        rw [List.flatMap_cons, htext, hjoin, endLines_append]

theorem exists_parts {n : Node} (h : IsTableOfRows options n) :
    ∃ parts : List (Node × String), parts.map (·.1) = n.children ∧
      ∀ part ∈ parts, IsWrittenByRow options part := by
  have hparts : ∀ part ∈ n.children, ∃ text, IsWrittenByRow options (part, text) := by
    intro part hpart
    refine render_part (h.parts part hpart) fun placed hplaced => ?_
    exact h.rows placed (List.mem_flatMap.mpr ⟨part, hpart, hplaced⟩)
  choose! text htext using hparts
  refine ⟨n.children.map fun part => (part, text part), ?_, List.forall_mem_map.mpr htext⟩
  rw [List.map_map]
  exact List.map_id _

/-- A table of rows is written row by row, each on a line of its own, and ends with an empty line.
Its lines are those of the rows that belong to the head and then those of all others, both in
document order; a line is the cells of its row in order, each behind the mark of its own kind. -/
theorem tables_partition_their_rows (options : Options) {n : Node}
    (h : IsTableOfRows options n) :
    ∃ head others lines warnings,
      n.tableRows.partition (·.inHead) = (head, others) ∧ (head ++ others).Perm n.tableRows ∧
        List.Forall₂ (IsLineRow options) ((head ++ others).map (·.row)) lines ∧
          (∀ line ∈ lines, '\n' ∉ line) ∧
            n.render (renderer options) =
              .ok ⟨String.ofList (endLines (lines ++ [[]])), warnings⟩ := by
  obtain ⟨parts, hchildren, hwritten⟩ := exists_parts h
  have hkept : ∀ keep : Bool → Bool, ∃ lines,
      List.Forall₂ (IsLineRow options)
          ((n.tableRows.filter (keep ·.inHead)).map (·.row)) lines ∧
        (Rule.join (parts.filter (keep <| Rule.inTableHead ·.1))).toList = endLines lines := by
    intro keep
    have hparts : ∀ part ∈ parts.filter (keep <| Rule.inTableHead ·.1),
        IsWrittenByRow options part :=
      fun part hpart => hwritten part (List.mem_filter.mp hpart).1
    obtain ⟨lines, hlines, htext⟩ := exists_lines_of_parts hparts
    refine ⟨lines, ?_, htext⟩
    rw [tableRows, filter_flatMap_rowsOfPart, ← hchildren, List.filter_map]
    exact hlines
  obtain ⟨first, hfirst, htext⟩ := hkept id
  obtain ⟨second, hsecond, htext'⟩ := hkept not
  obtain ⟨warnings, hall⟩ := exists_renderAll fun part hpart => (hwritten part hpart).1
  rw [hchildren] at hall
  have hrule : Rule.ofNode (renderer options) n =
      .ok (.branch (Rule.tableText (renderer options))) := ofNode_of_is h.kind _
  have hlines := List.rel_append hfirst hsecond
  refine ⟨_, _, first ++ second, n.losses ++ warnings, List.partition_eq_filter_filter ..,
    List.filter_append_perm .., ?_, ?_, ?_⟩
  · rw [List.map_append]
    exact hlines
  · have hplain : List.Forall₂ (fun line row => '\n' ∉ line ∧ IsLineRow options row line)
        (first ++ second) _ :=
      hlines.flip.imp fun line row hline => ⟨IsLineRow.newline_not_mem hline, hline⟩
    exact ((List.forall₂_and_left ..).mp hplain).1
  · have htable : (Rule.tableText (renderer options) parts).toList =
        endLines (first ++ second ++ [[]]) := by
      rw [endLines_append, endLines_append, ← htext, ← htext']
      simp [Rule.tableText, renderer, endLines]
    rw [render_eq, hrule]
    simp only [hall, ← htable, String.ofList_toList]

theorem isLineRow_rowOf (options : Options) {cells : List CellText}
    (h : ∀ c ∈ cells, '\n' ∉ c.content) : IsLineRow options (rowOf cells) (rowLine cells) :=
  ⟨cells, isTableRow_rowOf options cells, h, rfl⟩

/-- A table with a data row, a body whose rows are empty and begin with a header cell, a row of its
own that begins with a cell of the header kind, and last a head that begins with a data cell. -/
theorem tables_partition_their_rows_mixed :
    let a := rowOf [⟨false, ['a']⟩]
    let empty := rowOf []
    let b := rowOf [⟨true, ['b']⟩, ⟨false, []⟩]
    let c := Node.tableRow [.ofElement .tableHeader [.text "c"]]
    let d := rowOf [⟨false, ['d']⟩, ⟨true, []⟩]
    let table := Node.ofElement .table
      [a, .ofElement .tableBody [empty, b], c, .ofElement .tableHead [d]]
    IsTableOfRows {} table ∧
      (∃ lines warnings, List.Forall₂ (IsLineRow {}) [c, d, a, empty, b] lines ∧
        table.render (renderer {}) =
          .ok ⟨String.ofList (endLines (lines ++ [[]])), warnings⟩) ∧
        table.render (renderer {}) = .ok (.exact "||c\n|d||\n|a\n\n||b|\n\n") := by
  intro a empty b c d table
  have hrowOf : ∀ cells : List CellText, (∀ c ∈ cells, '\n' ∉ c.content) →
      ∃ line, IsLineRow {} (rowOf cells) line :=
    fun cells hcells => ⟨_, isLineRow_rowOf {} hcells⟩
  have hcell : IsTableCell {} (.ofElement .tableHeader [.text "c"]) ⟨true, ['c']⟩ :=
    ⟨.inr rfl, rfl, .exact [(.text "c", "c")], rfl, rfl⟩
  have hc : ∃ line, IsLineRow {} c line :=
    ⟨_, [⟨true, ['c']⟩], ⟨rfl, .cons hcell .nil⟩, by decide, rfl⟩
  have htable : IsTableOfRows {} table := by
    refine ⟨rfl, by decide, ?_⟩
    have hrows : table.tableRows =
        [⟨a, false⟩, ⟨empty, false⟩, ⟨b, false⟩, ⟨c, true⟩, ⟨d, true⟩] := rfl
    rw [hrows]
    simp only [List.forall_mem_cons, List.not_mem_nil, false_imp_iff, implies_true, and_true]
    exact ⟨hrowOf _ (by decide), hrowOf _ (by decide), hrowOf _ (by decide), hc,
      hrowOf _ (by decide)⟩
  obtain ⟨head, others, lines, warnings, hpartition, -, hlines, -, hrender⟩ :=
    tables_partition_their_rows {} htable
  cases hpartition
  exact ⟨htable, ⟨lines, warnings, hlines, hrender⟩, by decide +kernel⟩

end Confluence

end WikiMarkup
