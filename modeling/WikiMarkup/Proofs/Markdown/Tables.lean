import WikiMarkup.Proofs.Confluence.Shape
import WikiMarkup.Proofs.Markdown.Recut

/-!
Tables as they are read, and as they are written. Whatever stands between the events of a table, its
node has head sections and behind them at most one section for all else. A head section is one row,
and every row tells what it holds whether it is in a head. So each bar that is written in a table
goes back to the place of its cell in the source: two before a cell of a head, one before every
other, the heads first.
-/

namespace WikiMarkup

namespace Node

/-- A node stands in a tree: it is the root, or it stands in the tree of a child of the root. -/
inductive Within (n : Node) : Node → Prop where
  | here : Within n n
  | inside {root child : Node} (hchild : child ∈ root.children) (h : Within n child) :
      Within n root

/-- All that a row holds says whether it is a header cell. -/
def CellsSay (header : Bool) (row : Node) : Prop :=
  ∀ cell ∈ row.children, cell.properties.get? PropertyKey.header = some (.flag header)

/-- How a table looks, a head section, and any node that holds rows without being one. -/
structure IsTableShaped (n : Node) : Prop where
  table : n.is .table → ∃ heads body, n.children = heads ++ body ∧
    (∀ head ∈ heads, head.is .tableHead) ∧
      (body = [] ∨ ∃ rows, body = [rows] ∧ rows.is .tableBody ∧ rows.children ≠ [])
  head : n.is .tableHead → ∃ row, n.children = [row] ∧ row.is .tableRow ∧ row.CellsSay true
  rows : n.is .tableHead = false → ∀ row ∈ n.children, row.is .tableRow → row.CellsSay false

/-- Every node of a tree looks so, and the root, if it is a row, is one that stands in no head. -/
structure IsLaidOut (n : Node) : Prop where
  row : n.is .tableRow → n.CellsSay false
  within : ∀ m : Node, m.Within n → m.IsTableShaped

section Congr

variable {n other : Node}

theorem IsTableShaped.congr (h : n.IsTableShaped) (hkind : other.kind = n.kind)
    (hchildren : other.children = n.children) : other.IsTableShaped := by
  have his : other.is = n.is := by
    funext e
    rw [is, is, hkind]
  obtain ⟨htable, hhead, hrows⟩ := h
  rw [← his, ← hchildren] at htable hhead hrows
  exact ⟨htable, hhead, hrows⟩

/-- Properties of the root do not count, nor does its source. -/
theorem IsLaidOut.congr (h : n.IsLaidOut) (hkind : other.kind = n.kind)
    (hchildren : other.children = n.children) : other.IsLaidOut := by
  constructor
  · intro hrow cell hcell
    rw [is, hkind] at hrow
    rw [hchildren] at hcell
    exact h.row hrow cell hcell
  · intro m hm
    cases hm with
    | here => exact (h.within n .here).congr hkind hchildren
    | inside hchild hm => exact h.within m (.inside (hchildren ▸ hchild) hm)

theorem IsLaidOut.withProperty (h : n.IsLaidOut) (key : String) (value : PropertyValue) :
    (n.withProperty key value).IsLaidOut :=
  h.congr (kind_withProperty ..) (children_withProperty ..)

theorem IsLaidOut.withTitle (h : n.IsLaidOut) (title : String) : (n.withTitle title).IsLaidOut :=
  h.congr (kind_withTitle ..) (children_withTitle ..)

theorem IsLaidOut.located (h : n.IsLaidOut) (keepSpans : Bool) (span : Span) :
    (Markdown.located keepSpans span n).IsLaidOut :=
  h.congr (Markdown.kind_located ..) (Markdown.children_located ..)

end Congr

section Shapes

variable {children : List Node}

theorem within_of_children {n : Node} (hshape : n.IsTableShaped)
    (h : ∀ child ∈ n.children, ∀ m : Node, m.Within child → m.IsTableShaped) :
    ∀ m : Node, m.Within n → m.IsTableShaped := by
  intro m hm
  cases hm with
  | here => exact hshape
  | inside hchild hm => exact h _ hchild m hm

theorem isTableShaped_of_other {n : Node} (htable : n.is .table = false)
    (hhead : n.is .tableHead = false) (h : ∀ child ∈ n.children, child.IsLaidOut) :
    n.IsTableShaped where
  table hkind := by simp [htable] at hkind
  head hkind := by simp [hhead] at hkind
  rows _ row hrow hkind := (h row hrow).row hkind

theorem isLaidOut_ofElement {e : Element} (he : e ∉ [.table, .tableHead, .tableRow])
    (h : ∀ child ∈ children, child.IsLaidOut) : (ofElement e children).IsLaidOut := by
  simp only [List.mem_cons, List.not_mem_nil, or_false, not_or] at he
  have hkind : (ofElement e children).is e := by simp [is]
  have hkinds := is_eq_decide hkind
  have hshape : (ofElement e children).IsTableShaped :=
    isTableShaped_of_other (by simp [hkinds, he]) (by simp [hkinds, he]) h
  refine ⟨by simp [hkinds, he], within_of_children hshape ?_⟩
  exact fun child hchild => (h child hchild).within

theorem isLaidOut_ofContent {e : Element} (he : e ∉ [.table, .tableHead, .tableRow])
    (content : String) : (ofContent e content).IsLaidOut :=
  (isLaidOut_ofElement he (by simp)).withProperty _ _

theorem cellsSay_rowOfCells (header : Bool) (cells : List Node) :
    (rowOfCells header cells).CellsSay header := by
  intro cell hcell
  obtain ⟨original, -, rfl⟩ := List.mem_map.mp hcell
  rw [properties_withProperty, Properties.get?_set, if_pos rfl]

/-- A row looks as it should itself, whichever way it marks what it holds. -/
theorem within_rowOfCells (header : Bool) (h : ∀ cell ∈ children, cell.IsLaidOut) :
    ∀ m : Node, m.Within (rowOfCells header children) → m.IsTableShaped := by
  have hcells : ∀ cell ∈ (rowOfCells header children).children, cell.IsLaidOut := by
    intro cell hcell
    obtain ⟨original, horiginal, rfl⟩ := List.mem_map.mp hcell
    exact (h original horiginal).withProperty _ _
  apply within_of_children (isTableShaped_of_other rfl rfl hcells)
  exact fun cell hcell => (hcells cell hcell).within

theorem isLaidOut_row (h : ∀ cell ∈ children, cell.IsLaidOut) :
    (rowOfCells false children).IsLaidOut :=
  ⟨fun _ => cellsSay_rowOfCells false children, within_rowOfCells false h⟩

theorem isLaidOut_head (h : ∀ cell ∈ children, cell.IsLaidOut) :
    (ofElement .tableHead [rowOfCells true children]).IsLaidOut := by
  have hshape : (ofElement .tableHead [rowOfCells true children]).IsTableShaped := {
    table := fun hkind => by cases hkind
    head := fun _ => ⟨_, rfl, rfl, cellsSay_rowOfCells true children⟩
    rows := fun hkind => by cases hkind }
  refine ⟨(fun hkind => by cases hkind), within_of_children hshape ?_⟩
  rw [children_ofElement, List.forall_mem_singleton]
  exact within_rowOfCells true h

theorem bodySection_cases (rows : List Node) :
    bodySection rows = [] ∨ rows ≠ [] ∧ bodySection rows = [ofElement .tableBody rows] := by
  cases rows with
  | nil => exact .inl rfl
  | cons row rest => exact .inr ⟨by simp, rfl⟩

theorem isLaidOut_tableOfParts (h : ∀ part ∈ children, part.IsLaidOut) :
    (tableOfParts children).IsLaidOut := by
  have hsorted : ∀ keep, ∀ part ∈ sorted keep children, part.IsLaidOut :=
    fun keep part hpart => h part (List.mem_filter.mp hpart).1
  have hparts : ∀ part ∈ (tableOfParts children).children, part.IsLaidOut := by
    intro part hpart
    rw [children_tableOfParts, List.mem_append] at hpart
    rcases hpart with hhead | hbody
    · exact hsorted id part hhead
    · rcases bodySection_cases (sorted not children) with hnone | ⟨-, hsome⟩
      · simp [hnone] at hbody
      · rw [hsome, List.mem_singleton] at hbody
        rw [hbody]
        exact isLaidOut_ofElement (by decide) (hsorted not)
  have hshape : (tableOfParts children).IsTableShaped := by
    refine ⟨fun _ => ?_, (fun hkind => by cases hkind), fun _ row hrow => (hparts row hrow).row⟩
    refine ⟨_, _, children_tableOfParts children, ?_, ?_⟩
    · exact fun head hhead => (List.mem_filter.mp hhead).2
    · rcases bodySection_cases (sorted not children) with hnone | ⟨hrows, hsome⟩
      · exact .inl hnone
      · exact .inr ⟨_, hsome, rfl, hrows⟩
  refine ⟨(fun hkind => by cases hkind), within_of_children hshape ?_⟩
  exact fun part hpart => (hparts part hpart).within

end Shapes

section Written

variable {r : Renderer} {options : Confluence.Options} {n : Node} {children : List Node}

/-- The mark of a cell is read where a cell is written and nowhere else. -/
theorem written_markCell (hn : n.Faultless) (hcell : n.is .tableCell = false)
    (hheader : n.is .tableHeader = false) (header : Bool) :
    (n.markCell header).written r = n.written r := by
  have hget : ∀ key, key ≠ PropertyKey.header →
      (n.withProperty PropertyKey.header (.flag header)).properties.get? key =
        n.properties.get? key := by
    intro key hkey
    rw [properties_withProperty, Properties.get?_set, if_neg hkey]
  have hrule : Rule.ofNode r (n.markCell header) = Rule.ofNode r n := by
    rw [Rule.ofNode, Rule.ofNode, markCell, kind_withProperty]
    cases hname : Element.ofName? n.kind with
    | none => rfl
    | some e =>
        cases e with
        | tableCell => simp [is_iff_ofName?.mpr hname] at hcell
        | tableHeader => simp [is_iff_ofName?.mpr hname] at hheader
        -- Every other rule asks for keys that are not the key of the mark.
        | _ =>
            simp (disch := decide) only [Rule.ofElement, Rule.requireLevel, Rule.requireText,
              Properties.getText?, Properties.getNumber?, Properties.getFlag?, kind_withProperty,
              hget]
  obtain ⟨-, -, hbelow⟩ := hn
  have hchildren : (n.markCell header).children = n.children := children_withProperty ..
  apply written_congr hrule hbelow
  all_goals simp only [hchildren, implies_true]
  exact hbelow

/-- A cell is written with the mark that its row gives it. -/
theorem written_cell (h : ∀ child ∈ children, child.Faultless) (header : Bool) :
    ((ofElement .tableCell children).markCell header).written (Confluence.renderer options) =
      Confluence.cellMark header ++ readAll (Confluence.renderer options) .written children := by
  have hrule := Confluence.ofNode_tableCell options
    (n := (ofElement .tableCell children).markCell header) (.inl rfl)
  have hchildren : ((ofElement .tableCell children).markCell header).children = children := rfl
  have hheader : Rule.isHeaderCell ((ofElement .tableCell children).markCell header) = header := by
    cases header <;> rfl
  rw [written_branch hrule h, hchildren, hheader, join_partsOf]

theorem written_row (h : ∀ child ∈ children, child.Faultless) (header : Bool) :
    (rowOfCells header children).written (Confluence.renderer options) =
      readAll (Confluence.renderer options) (.marked header) children ++ "\n" := by
  obtain ⟨-, -, hcells⟩ := faultless_rowOfCells header h
  have hrule := Confluence.ofNode_tableRow options (n := rowOfCells header children) rfl
  have hchildren : (rowOfCells header children).children = children.map (markCell header) := rfl
  rw [written_branch hrule hcells, join_partsOf, hchildren, readAll_written_map_markCell]

theorem written_head (h : ∀ child ∈ children, child.Faultless) :
    (ofElement .tableHead [rowOfCells true children]).written r =
      (rowOfCells true children).written r := by
  have hrow : ∀ row ∈ [rowOfCells true children], row.Faultless := by
    simpa using faultless_rowOfCells true h
  have hhead : (ofElement .tableHead [rowOfCells true children]).written r =
      readAll r .written [rowOfCells true children] := written_join rfl hrow
  simpa [readAll, reading] using hhead

theorem written_table (h : ∀ child ∈ children, child.Faultless) :
    (tableOfParts children).written (Confluence.renderer options) =
      readAll (Confluence.renderer options) .written (sorted id children) ++
        readAll (Confluence.renderer options) .written (sorted not children) ++ "\n" := by
  obtain ⟨-, -, hparts⟩ := faultless_tableOfParts h
  have hrule : Rule.ofNode (Confluence.renderer options) (tableOfParts children) =
      .ok (.branch (Rule.tableText (Confluence.renderer options))) := rfl
  rw [written_branch hrule hparts, tableText_tableOfParts h]
  rfl

end Written

end Node

namespace Markdown

open Node

theorem isLaidOut_codeBlockNode (info : Option String) (content : String) :
    (codeBlockNode info content).IsLaidOut := by
  have hblock : (ofContent .codeBlock content).IsLaidOut := isLaidOut_ofContent (by decide) content
  unfold codeBlockNode
  split
  · exact hblock.withProperty _ _
  · exact hblock

/-- Only a tag of a table makes a table, a head section or a row, and each makes it as it should
look. -/
theorem Tag.isLaidOut_node {tag : Tag} {children : List Node} {n : Node}
    (hnode : tag.node? children = some n) (h : ∀ child ∈ children, child.IsLaidOut) :
    n.IsLaidOut := by
  cases tag <;> simp only [Tag.node?, Option.some.injEq, reduceCtorEq] at hnode <;> subst hnode
  case heading level => exact (isLaidOut_ofElement (by decide) h).withProperty _ _
  case codeBlock info => exact isLaidOut_codeBlockNode info _
  case htmlBlock => exact isLaidOut_ofContent (by decide) _
  case list first => exact (isLaidOut_ofElement (by decide) h).withProperty _ _
  case table => exact isLaidOut_tableOfParts h
  case tableHead => exact isLaidOut_head h
  case tableRow => exact isLaidOut_row h
  case link url title =>
    exact ((isLaidOut_ofElement (by decide) h).withProperty _ _).withTitle title
  case image url title =>
    have himage : (ofElement .image []).IsLaidOut := isLaidOut_ofElement (by decide) (by simp)
    exact ((himage.withProperty _ _).withProperty _ _).withTitle title
  all_goals exact isLaidOut_ofElement (by decide) h

theorem Event.isLaidOut_node {event : Event} {n : Node} (hnode : event.node? = some n) :
    n.IsLaidOut := by
  cases event <;> simp only [Event.node?, Option.some.injEq, reduceCtorEq] at hnode <;>
    subst hnode
  case softBreak => exact isLaidOut_ofElement (by decide) (by simp)
  case hardBreak => exact isLaidOut_ofElement (by decide) (by simp)
  case rule => exact isLaidOut_ofElement (by decide) (by simp)
  all_goals exact isLaidOut_ofContent (by decide) _

/-- Events in any order, balanced or not, describe trees in which tables look as they should. -/
theorem isLaidOut_nodesOfEvents (keepSpans : Bool) (events : List SourceEvent) :
    ∀ n ∈ nodesOfEvents keepSpans events, n.IsLaidOut := by
  have hlocated : ∀ (node? : Option Node) (span : Span), (∀ n, node? = some n → n.IsLaidOut) →
      ∀ n ∈ (node?.map (located keepSpans span)).toList, n.IsLaidOut := by
    intro node? span h n hn
    obtain ⟨node, hnode, rfl⟩ := Option.map_eq_some_iff.mp (Option.mem_toList.mp hn)
    exact (h node hnode).located keepSpans span
  induction events using eventInduction with
  | nil => simp
  | start tag span rest hinside hbehind =>
      rw [nodesOfEvents_start, List.forall_mem_append]
      exact ⟨hlocated _ _ fun n hnode => Tag.isLaidOut_node hnode hinside, hbehind⟩
  | single event span rest hsingle ih =>
      rw [nodesOfEvents_single _ _ _ hsingle, List.forall_mem_append]
      exact ⟨hlocated _ _ fun n hnode => Event.isLaidOut_node hnode, ih⟩

theorem isLaidOut_documentOfEvents (keepSpans : Bool) (events : List SourceEvent) :
    (documentOfEvents keepSpans events).root.IsLaidOut :=
  isLaidOut_ofElement (by decide) (isLaidOut_nodesOfEvents keepSpans events)

/-- Only the tag of a head makes a head section, only that of a cell makes a cell, and none makes a
cell that is a header by its kind. -/
theorem Tag.is_node {tag : Tag} {children : List Node} {n : Node}
    (hnode : tag.node? children = some n) :
    n.is .tableHead = decide (tag = .tableHead) ∧ n.is .tableCell = decide (tag = .tableCell) ∧
      n.is .tableHeader = false := by
  cases tag <;> simp only [Tag.node?, Option.some.injEq, reduceCtorEq] at hnode <;> subst hnode
  -- These nodes may be given a language or a title, which leaves their kind as it is.
  case codeBlock info =>
    rw [is, is, is, kind_codeBlockNode]
    exact ⟨rfl, rfl, rfl⟩
  case link url title | image url title =>
    rw [is, is, is, kind_withTitle]
    exact ⟨rfl, rfl, rfl⟩
  all_goals exact ⟨rfl, rfl, rfl⟩

theorem Event.is_node {event : Event} {n : Node} (hnode : event.node? = some n) :
    n.is .tableHead = false ∧ n.is .tableCell = false ∧ n.is .tableHeader = false := by
  cases event <;> simp only [Event.node?, Option.some.injEq, reduceCtorEq] at hnode <;>
    subst hnode <;> exact ⟨rfl, rfl, rfl⟩

namespace Construct

section Markup

variable (options : Confluence.Options) (keepSpans : Bool)

/-- What is written for constructs that make up a document. -/
def markup (cs : List Construct) : String :=
  (documentOfEvents keepSpans (eventsOf cs)).root.written (Confluence.renderer options)

/-- A construct that stands in a row: a mark and what the cell holds. Only a cell has a mark. -/
def cellMarkup (mark : String) : Construct → String
  | group .tableCell _ _ inside => mark ++ markup options keepSpans inside
  | c => markup options keepSpans [c]

def rowMarkup (mark : String) (cells : List Construct) : String :=
  String.join (cells.map (cellMarkup options keepSpans mark)) ++ "\n"

/-- A construct that stands in a table. -/
def partMarkup : Construct → String
  | group .tableHead _ _ cells => rowMarkup options keepSpans "||" cells
  | group .tableRow _ _ cells => rowMarkup options keepSpans "|" cells
  | c => markup options keepSpans [c]

def isHead : Construct → Bool
  | group .tableHead _ _ _ => true
  | _ => false

def isCell : Construct → Bool
  | group .tableCell _ _ _ => true
  | _ => false

/-- A table: its heads in order, and then all else in order. -/
def tableMarkup (parts : List Construct) : String :=
  String.join ((parts.filter (·.isHead)).map (partMarkup options keepSpans)) ++
    String.join ((parts.filter (!·.isHead)).map (partMarkup options keepSpans)) ++ "\n"

end Markup

section Readings

variable {r : Renderer} {keepSpans : Bool}

/-- A reading of nodes goes construct by construct. -/
theorem readAll_nodesOf (q : Node.Reading) (cs : List Construct) :
    readAll r q (nodesOf keepSpans cs) =
      String.join (cs.map fun c => readAll r q (node? keepSpans c).toList) := by
  induction cs with
  | nil => rfl
  | cons c rest ih => rw [nodesOf, readAll_append, ih, List.map_cons, String.join_cons]

theorem readAll_group {tag : Tag} {opening closing : Span} {inside : List Construct} {n : Node}
    (hnode : tag.node? (nodesOf keepSpans inside) = some n) (q : Node.Reading) :
    readAll r q (node? keepSpans (group tag opening closing inside)).toList = reading r q n := by
  have hn : n.Faultless := Tag.faultless_node hnode (faultless_nodesOf keepSpans inside)
  have htwin := twin_located (r := r) hn keepSpans ⟨opening.start, closing.stop⟩
  simp [node?, hnode, readAll, htwin.read q]

theorem is_node? {c : Construct} {n : Node} (hn : node? keepSpans c = some n) :
    n.is .tableHead = c.isHead ∧ n.is .tableCell = c.isCell ∧ n.is .tableHeader = false := by
  have his : ∀ (span : Span) (m : Node) (e : Element), (located keepSpans span m).is e = m.is e :=
    fun span m e => by rw [is, is, kind_located]
  cases c with
  | leaf event span =>
      obtain ⟨m, hm, rfl⟩ := Option.map_eq_some_iff.mp hn
      rw [his, his, his]
      exact Event.is_node hm
  | group tag opening closing inside =>
      obtain ⟨m, hm, rfl⟩ := Option.map_eq_some_iff.mp hn
      have htag : (group tag opening closing inside).isHead = decide (tag = .tableHead) ∧
          (group tag opening closing inside).isCell = decide (tag = .tableCell) := by
        cases tag <;> exact ⟨rfl, rfl⟩
      simpa only [his, htag] using Tag.is_node hm

theorem sorted_nodesOf (keep : Bool → Bool) (cs : List Construct) :
    sorted keep (nodesOf keepSpans cs) = nodesOf keepSpans (cs.filter fun c => keep c.isHead) := by
  induction cs with
  | nil => rfl
  | cons c rest ih =>
      have hfirst : sorted keep (node? keepSpans c).toList =
          if keep c.isHead then (node? keepSpans c).toList else [] := by
        cases hn : node? keepSpans c with
        | none => simp [sorted]
        | some n =>
            rw [Option.toList_some, sorted, List.filter_cons, (is_node? hn).1, List.filter_nil]
      rw [nodesOf, sorted_append, hfirst, ih, List.filter_cons]
      split <;> simp [nodesOf]

/-- A node of another kind than a cell is written the same however it is marked. -/
theorem readAll_marked_node? {c : Construct} (hc : c.isCell = false) (header : Bool) :
    readAll r (.marked header) (node? keepSpans c).toList =
      readAll r .written (node? keepSpans c).toList := by
  cases hn : node? keepSpans c with
  | none => rfl
  | some n =>
      obtain ⟨-, hcell, hheader⟩ := is_node? hn
      have hfaultless : n.Faultless := by
        apply faultless_nodesOf keepSpans [c]
        simp [nodesOf, hn]
      simp only [Option.toList_some, readAll, List.map_singleton, reading]
      rw [written_markCell hfaultless (hcell.trans hc) hheader]

end Readings

section Markup

variable {options : Confluence.Options} {keepSpans : Bool} {c : Construct} {cs : List Construct}

theorem markup_eq (h : areNested cs) : markup options keepSpans cs =
    readAll (Confluence.renderer options) .written (nodesOf keepSpans cs) := by
  rw [markup, documentOfEvents, nodesOfEvents_eventsOf keepSpans h]
  exact written_join rfl (faultless_nodesOf keepSpans cs)

theorem markup_singleton (h : c.isNested) : markup options keepSpans [c] =
    readAll (Confluence.renderer options) .written (node? keepSpans c).toList := by
  rw [markup_eq (by simpa [areNested] using h), nodesOf, nodesOf, List.append_nil]

theorem areNested_of_group {tag : Tag} {opening closing : Span}
    (h : (group tag opening closing cs).isNested) : areNested cs := by
  rw [isNested, Bool.and_eq_true] at h
  exact h.2

/-- A node that is marked as a cell is written with the mark if its construct is a cell. -/
theorem readAll_marked_eq (h : c.isNested) (header : Bool) :
    readAll (Confluence.renderer options) (.marked header) (node? keepSpans c).toList =
      cellMarkup options keepSpans (Confluence.cellMark header) c := by
  cases c with
  | leaf event span =>
      rw [readAll_marked_node? rfl, ← markup_singleton h]
      rfl
  | group tag opening closing inside =>
      cases tag with
      | tableCell =>
          rw [readAll_group rfl, cellMarkup, markup_eq (areNested_of_group h)]
          exact written_cell (faultless_nodesOf keepSpans inside) header
      | _ =>
          rw [readAll_marked_node? rfl, ← markup_singleton h]
          rfl

theorem written_rowOfCells (h : areNested cs) (header : Bool) :
    (rowOfCells header (nodesOf keepSpans cs)).written (Confluence.renderer options) =
      rowMarkup options keepSpans (Confluence.cellMark header) cs := by
  rw [written_row (faultless_nodesOf keepSpans cs), readAll_nodesOf, rowMarkup,
    List.map_congr_left fun c hc => readAll_marked_eq (areNested_iff.mp h c hc) header]

/-- A part of a table is written as the construct is. -/
theorem readAll_written_eq (h : c.isNested) :
    readAll (Confluence.renderer options) .written (node? keepSpans c).toList =
      partMarkup options keepSpans c := by
  cases c with
  | leaf event span =>
      rw [← markup_singleton h]
      rfl
  | group tag opening closing inside =>
      cases tag with
      | tableHead =>
          rw [readAll_group rfl, partMarkup, reading,
            written_head (faultless_nodesOf keepSpans inside)]
          exact written_rowOfCells (areNested_of_group h) true
      | tableRow =>
          rw [readAll_group rfl, partMarkup]
          exact written_rowOfCells (areNested_of_group h) false
      | _ =>
          rw [← markup_singleton h]
          rfl

theorem written_tableOfParts (h : areNested cs) :
    (tableOfParts (nodesOf keepSpans cs)).written (Confluence.renderer options) =
      tableMarkup options keepSpans cs := by
  -- Sorting the nodes is sorting the constructs, for the heads and for all else.
  have hparts : ∀ keep : Bool → Bool,
      readAll (Confluence.renderer options) .written (sorted keep (nodesOf keepSpans cs)) =
        String.join ((cs.filter fun c => keep c.isHead).map (partMarkup options keepSpans)) := by
    intro keep
    rw [sorted_nodesOf, readAll_nodesOf]
    congr 1
    apply List.map_congr_left
    intro c hc
    exact readAll_written_eq (areNested_iff.mp h c (List.mem_filter.mp hc).1)
  rw [written_table (faultless_nodesOf keepSpans cs), hparts, hparts]
  rfl

end Markup

end Construct

/-- In whatever is read from events, balanced or not, a table is its head sections and at most one
section for all else, a head section is one row, and every row says of all it holds whether it is
in a head. A well nested table is written with two bars before each cell of a head and one before
each cell of a row, the heads in order before all else in order; what stands behind the bars is what
the cell is written as on its own. -/
theorem tables_go_by_sections (options : Confluence.Options) (keepSpans : Bool) :
    (∀ events n, Node.Within n (documentOfEvents keepSpans events).root → n.IsTableShaped) ∧
      (∀ cs, Confluence.render options (documentOfEvents keepSpans (Construct.eventsOf cs)) =
        .ok (.exact (Construct.markup options keepSpans cs))) ∧
      ∀ opening closing parts, (Construct.group .table opening closing parts).isNested →
        ∃ n, nodesOfEvents keepSpans (Construct.group .table opening closing parts).events = [n] ∧
          n.is .table ∧ n.render (Confluence.renderer options) =
            .ok (.exact (Construct.tableMarkup options keepSpans parts)) := by
  refine ⟨?_, ?_, ?_⟩
  · intro events n hn
    exact (isLaidOut_documentOfEvents keepSpans events).within n hn
  · intro cs
    exact (faultless_documentOfEvents keepSpans (Construct.eventsOf cs)).render_eq_written
  · intro opening closing parts hnested
    have hparts : Construct.areNested parts := Construct.areNested_of_group hnested
    have htable : (tableOfParts (Construct.nodesOf keepSpans parts)).Faultless :=
      faultless_tableOfParts (faultless_nodesOf keepSpans parts)
    have hread := nodesOfEvents_eventsOf keepSpans
      (Construct.areNested_iff.mpr (List.forall_mem_singleton.mpr hnested))
    refine ⟨located keepSpans ⟨opening.start, closing.stop⟩
      (tableOfParts (Construct.nodesOf keepSpans parts)), ?_, ?_, ?_⟩
    · simpa [Construct.eventsOf, Construct.nodesOf, Construct.node?, Tag.node?] using hread
    · rw [is, kind_located]
      rfl
    · rw [(htable.located keepSpans _).render_eq_written, (twin_located htable keepSpans _).written,
        Construct.written_tableOfParts hparts]

/-- A table whose row comes before its head, and one whose head stands in a row, both never
closed. -/
theorem tables_go_by_sections_mixed :
    let cell (inside : List Construct) : Construct := .around .tableCell ⟨0, 1⟩ inside
    let say (content : String) : Construct := .leaf (.text content) ⟨0, 1⟩
    let parts : List Construct :=
      [.around .tableRow ⟨6, 9⟩ [cell [say "c"]],
        .around .tableHead ⟨1, 5⟩ [cell [say "a"], cell [.around .strong ⟨3, 5⟩ [say "b"]]]]
    let events : List SourceEvent :=
      [⟨.start .table, ⟨0, 9⟩⟩, ⟨.start .tableRow, ⟨1, 8⟩⟩, ⟨.start .tableHead, ⟨2, 6⟩⟩,
        ⟨.text "x", ⟨3, 4⟩⟩, ⟨.stop .table, ⟨0, 9⟩⟩]
    ((documentOfEvents true events).root.children.length = 1 ∧
      ∀ n ∈ (documentOfEvents true events).root.children, n.is .table ∧ n.IsTableShaped) ∧
      (Construct.around .table ⟨0, 9⟩ parts).isNested ∧
      Construct.tableMarkup {} true parts = "||a||*b*\n|c\n\n" ∧
      ∃ n, nodesOfEvents true (Construct.around .table ⟨0, 9⟩ parts).events = [n] ∧
        n.is .table ∧ n.render (Confluence.renderer {}) =
          .ok (.exact (Construct.tableMarkup {} true parts)) := by
  intro cell say parts events
  obtain ⟨hshape, -, hwritten⟩ := tables_go_by_sections {} true
  have hnested : (Construct.around .table ⟨0, 9⟩ parts).isNested := by decide
  refine ⟨⟨by decide +kernel, ?_⟩, hnested, by decide +kernel, hwritten _ _ parts hnested⟩
  intro n hn
  have htables : ∀ n ∈ (documentOfEvents true events).root.children, n.is .table := by
    decide +kernel
  exact ⟨htables n hn, hshape events n (.inside hn .here)⟩

end Markdown

end WikiMarkup
