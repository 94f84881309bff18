import WikiMarkup.Proofs.Markdown.Nesting
import WikiMarkup.Proofs.Markdown.Tables

/-!
Sources within sources. A node that is read with its source notes the bytes of its construct; only
the body of a table and the row of a head, which no construct stands for, note none. If the bytes of
events nest as the events do, then the bytes of nodes nest as well, also across the nodes that note
none.
-/

namespace WikiMarkup

/-- The range ends no earlier than it starts. -/
def Span.IsProper (s : Span) : Prop := s.start ≤ s.stop

/-- The inner range lies within the outer one. -/
def Span.Covers (outer inner : Span) : Prop :=
  outer.start ≤ inner.start ∧ inner.stop ≤ outer.stop

instance (s : Span) : Decidable s.IsProper := inferInstanceAs (Decidable (s.start ≤ s.stop))

instance (outer inner : Span) : Decidable (outer.Covers inner) :=
  inferInstanceAs (Decidable (_ ∧ _))

/-- The bytes of events nest as the events do. All ranges are proper, those from a start event to
its end event too, and these cover the ranges of the events between the two. -/
inductive Markdown.Construct.RangesNest : List Construct → Prop where
  | nil : RangesNest []
  | leaf {event : Event} {span : Span} {rest : List Construct} (hspan : span.IsProper)
      (hrest : RangesNest rest) : RangesNest (leaf event span :: rest)
  | group {tag : Tag} {opening closing : Span} {inside rest : List Construct}
      (hopening : opening.IsProper) (hclosing : closing.IsProper)
      (hwhole : (Span.mk opening.start closing.stop).IsProper)
      (hcovers : ∀ e ∈ eventsOf inside, (Span.mk opening.start closing.stop).Covers e.span)
      (hinside : RangesNest inside) (hrest : RangesNest rest) :
      RangesNest (group tag opening closing inside :: rest)

namespace Node

/-- A node comes up in a tree: every node above it, from the root on, notes no bytes. -/
inductive ComesUp (m : Node) : Node → Prop where
  | here : ComesUp m m
  | through {root child : Node} (hspan : root.span = none) (hchild : child ∈ root.children)
      (h : ComesUp m child) : ComesUp m root

/-- The children of a node note their bytes, all but the body of a table and the row of a head. -/
def ChildrenNoted (n : Node) : Prop :=
  ∀ child ∈ n.children,
    child.span = none ↔ child.is .tableBody ∨ (n.is .tableHead ∧ child.is .tableRow)

/-- The bytes of a node are a proper range; its children note theirs; and its bytes cover those of
every node below it for which it is the nearest one above that notes any. -/
structure SpansNest (n : Node) : Prop where
  proper : ∀ s, n.span = some s → s.IsProper
  noted : n.ChildrenNoted
  covers : ∀ s, n.span = some s → ∀ child ∈ n.children, ∀ (m : Node) (t : Span),
    m.ComesUp child → m.span = some t → s.Covers t

/-- A tree fits in a range: what is handed down is the range of the nearest node above that notes
one, so a node that notes none hands on what it was given. -/
inductive FitsIn : Span → Node → Prop where
  | noted {bounds s : Span} {n : Node} (hspan : n.span = some s) (hproper : s.IsProper)
      (hcovers : bounds.Covers s) (hnoted : n.ChildrenNoted)
      (hchildren : ∀ child ∈ n.children, FitsIn s child) : FitsIn bounds n
  | bare {bounds : Span} {n : Node} (hspan : n.span = none) (hnoted : n.ChildrenNoted)
      (hchildren : ∀ child ∈ n.children, FitsIn bounds child) : FitsIn bounds n

section Fitting

variable {bounds s : Span} {n other : Node}

theorem ChildrenNoted.congr (h : n.ChildrenNoted) (hkind : other.kind = n.kind)
    (hchildren : other.children = n.children) : other.ChildrenNoted := by
  intro child hchild
  rw [hchildren] at hchild
  rw [is, is, is, hkind]
  exact h child hchild

theorem FitsIn.covers {m : Node} {t : Span} (h : n.FitsIn bounds) (hm : m.ComesUp n)
    (ht : m.span = some t) : bounds.Covers t := by
  induction hm with
  | here =>
      cases h with
      | noted hspan _ hcovers =>
          obtain rfl : _ = t := Option.some.inj (hspan.symm.trans ht)
          exact hcovers
      | bare hspan => simp [hspan] at ht
  | through hbare hchild _ ih =>
      cases h with
      | noted hspan => simp [hspan] at hbare
      | bare _ _ hchildren => exact ih (hchildren _ hchild)

theorem FitsIn.spansNest {m : Node} (h : n.FitsIn bounds) (hm : m.Within n) : m.SpansNest := by
  induction hm generalizing bounds with
  | here =>
      cases h with
      | noted hspan hproper _ hnoted hchildren =>
          refine ⟨?_, hnoted, ?_⟩
          · intro s' hs'
            obtain rfl : _ = s' := Option.some.inj (hspan.symm.trans hs')
            exact hproper
          · intro s' hs' child hchild m t hm ht
            obtain rfl : _ = s' := Option.some.inj (hspan.symm.trans hs')
            exact (hchildren child hchild).covers hm ht
      | bare hspan hnoted hchildren =>
          exact ⟨by simp [hspan], hnoted, by simp [hspan]⟩
  | inside hchild _ ih =>
      cases h with
      | noted _ _ _ _ hchildren => exact ih (hchildren _ hchild)
      | bare _ _ hchildren => exact ih (hchildren _ hchild)

/-- A node as reading hands it on: it notes its bytes and is no body of a table. -/
structure IsSourced (bounds : Span) (n : Node) : Prop where
  span : n.span ≠ none
  body : n.is .tableBody = false
  fits : n.FitsIn bounds

theorem IsSourced.withProperty (h : n.IsSourced bounds) (key : String) (value : PropertyValue) :
    (n.withProperty key value).IsSourced bounds := by
  obtain ⟨hspan, hbody, hfits⟩ := h
  refine ⟨by simpa using hspan, by simpa [is] using hbody, ?_⟩
  cases hfits with
  | noted hspan hproper hcovers hnoted hchildren =>
      apply FitsIn.noted (by simpa using hspan) hproper hcovers
      · exact hnoted.congr (kind_withProperty ..) (children_withProperty ..)
      · simpa using hchildren
  | bare hbare => exact absurd hbare hspan

theorem childrenNoted_of_sourced (hhead : n.is .tableHead = false)
    (h : ∀ child ∈ n.children, child.IsSourced s) : n.ChildrenNoted := by
  intro child hchild
  obtain ⟨hspan, hbody, -⟩ := h child hchild
  simp [hspan, hbody, hhead]

theorem isSourced_located (hs : s.IsProper) (hbounds : bounds.Covers s)
    (hbody : n.is .tableBody = false) (hnoted : n.ChildrenNoted)
    (h : ∀ child ∈ n.children, child.FitsIn s) :
    (Markdown.located true s n).IsSourced bounds := by
  have hspan : (Markdown.located true s n).span = some s := span_withSpan ..
  refine ⟨by simp [hspan], by simpa [is] using hbody, FitsIn.noted hspan hs hbounds ?_ ?_⟩
  · exact hnoted.congr (Markdown.kind_located ..) (Markdown.children_located ..)
  · simpa using h

/-- Nodes that are neither a body nor a head. -/
theorem isSourced_located_of_other (hs : s.IsProper) (hbounds : bounds.Covers s)
    (hbody : n.is .tableBody = false) (hhead : n.is .tableHead = false)
    (h : ∀ child ∈ n.children, child.IsSourced s) :
    (Markdown.located true s n).IsSourced bounds := by
  apply isSourced_located hs hbounds hbody (childrenNoted_of_sourced hhead h)
  exact fun child hchild => (h child hchild).fits

end Fitting

section Tables

variable {bounds s : Span} {children : List Node}

theorem isSourced_cells (header : Bool) (h : ∀ cell ∈ children, cell.IsSourced s) :
    ∀ cell ∈ (rowOfCells header children).children, cell.IsSourced s := by
  intro cell hcell
  obtain ⟨original, horiginal, rfl⟩ := List.mem_map.mp hcell
  exact (h original horiginal).withProperty _ _

theorem isSourced_head (hs : s.IsProper) (hbounds : bounds.Covers s)
    (h : ∀ cell ∈ children, cell.IsSourced s) :
    (Markdown.located true s (ofElement .tableHead [rowOfCells true children])).IsSourced
      bounds := by
  have hcells := isSourced_cells true h
  have hrow : (rowOfCells true children).FitsIn s := by
    apply FitsIn.bare rfl (childrenNoted_of_sourced rfl hcells)
    exact fun cell hcell => (hcells cell hcell).fits
  have hnoted : (ofElement .tableHead [rowOfCells true children]).ChildrenNoted := by
    rw [ChildrenNoted, children_ofElement, List.forall_mem_singleton]
    exact iff_of_true rfl (.inr ⟨rfl, rfl⟩)
  apply isSourced_located hs hbounds rfl hnoted
  rw [children_ofElement, List.forall_mem_singleton]
  exact hrow

/-- The body takes parts over from the table, and hands the bytes of the table on to them. -/
theorem isSourced_table (hs : s.IsProper) (hbounds : bounds.Covers s)
    (h : ∀ part ∈ children, part.IsSourced s) :
    (Markdown.located true s (tableOfParts children)).IsSourced bounds := by
  have hsorted : ∀ keep, ∀ part ∈ sorted keep children, part.IsSourced s :=
    fun keep part hpart => h part (List.mem_filter.mp hpart).1
  have hbody : (ofElement .tableBody (sorted not children)).FitsIn s := by
    have hnoted : (ofElement .tableBody (sorted not children)).ChildrenNoted :=
      childrenNoted_of_sourced rfl (hsorted not)
    exact FitsIn.bare rfl hnoted fun part hpart => (hsorted not part hpart).fits
  have hparts : ∀ part ∈ (tableOfParts children).children,
      part.IsSourced s ∨ part = ofElement .tableBody (sorted not children) := by
    intro part hpart
    rw [children_tableOfParts, List.mem_append] at hpart
    rcases hpart with hhead | hrest
    · exact .inl (hsorted id part hhead)
    · rcases bodySection_cases (sorted not children) with hnone | ⟨-, hsome⟩
      · simp [hnone] at hrest
      · exact .inr (by simpa [hsome] using hrest)
  apply isSourced_located hs hbounds rfl
  · intro part hpart
    rcases hparts part hpart with hsourced | rfl
    · have htable : (tableOfParts children).is .tableHead = false := rfl
      simp [hsourced.span, hsourced.body, htable]
    · exact iff_of_true rfl (.inl rfl)
  · intro part hpart
    rcases hparts part hpart with hsourced | rfl
    · exact hsourced.fits
    · exact hbody

end Tables

end Node

namespace Markdown

open Node

section Reading

variable {bounds s : Span} {n : Node}

theorem Tag.not_tableBody {tag : Tag} {children : List Node}
    (hnode : tag.node? children = some n) : n.is .tableBody = false := by
  cases tag <;> simp only [Tag.node?, Option.some.injEq, reduceCtorEq] at hnode <;> subst hnode
  case codeBlock info =>
    rw [is, kind_codeBlockNode]
    rfl
  case link url title | image url title =>
    rw [is, kind_withTitle]
    rfl
  all_goals rfl

/-- Of all constructs, only tables and heads have children that are no nodes read inside them. -/
theorem Tag.isSourced_node {tag : Tag} {children : List Node}
    (hnode : tag.node? children = some n) (hs : s.IsProper) (hbounds : bounds.Covers s)
    (h : ∀ child ∈ children, child.IsSourced s) : (located true s n).IsSourced bounds := by
  have hbody := Tag.not_tableBody hnode
  obtain ⟨hhead, -, -⟩ := Tag.is_node hnode
  have hother (htag : tag ≠ .tableHead) (hchildren : ∀ child ∈ n.children, child.IsSourced s) :
      (located true s n).IsSourced bounds :=
    isSourced_located_of_other hs hbounds hbody (by simpa [htag] using hhead) hchildren
  cases tag <;> simp only [Tag.node?, Option.some.injEq, reduceCtorEq] at hnode <;> subst hnode
  case codeBlock info => exact hother (by simp) (by simp)
  case htmlBlock => exact hother (by simp) (by simp [ofContent])
  case table => exact isSourced_table hs hbounds h
  case tableHead => exact isSourced_head hs hbounds h
  case tableRow => exact hother (by simp) (isSourced_cells false h)
  case link url title => exact hother (by simp) (by simpa using h)
  case image url title => exact hother (by simp) (by simp)
  all_goals exact hother (by simp) h

theorem Event.isSourced_node {event : Event} (hnode : event.node? = some n) (hs : s.IsProper)
    (hbounds : bounds.Covers s) : (located true s n).IsSourced bounds := by
  obtain ⟨hbody, hhead, hnone⟩ :
      n.is .tableBody = false ∧ n.is .tableHead = false ∧ n.children = [] := by
    cases event <;> simp only [Event.node?, Option.some.injEq, reduceCtorEq] at hnode <;>
      subst hnode
    all_goals exact ⟨rfl, rfl, rfl⟩
  exact isSourced_located_of_other hs hbounds hbody hhead (by simp [hnone])

end Reading

/-- Constructs whose events lie within some bytes are read as nodes that fit in these bytes. -/
theorem isSourced_nodesOf {cs : List Construct} (hranges : Construct.RangesNest cs) {bounds : Span}
    (hbounds : ∀ e ∈ Construct.eventsOf cs, bounds.Covers e.span) :
    ∀ n ∈ Construct.nodesOf true cs, n.IsSourced bounds := by
  induction hranges generalizing bounds with
  | nil => simp [Construct.nodesOf]
  | leaf hspan _ ih =>
      simp only [Construct.eventsOf, Construct.events, List.cons_append, List.nil_append,
        List.forall_mem_cons] at hbounds
      simp only [Construct.nodesOf, Construct.node?, List.forall_mem_append]
      refine ⟨?_, ih hbounds.2⟩
      intro n hn
      obtain ⟨node, hnode, rfl⟩ := Option.map_eq_some_iff.mp (Option.mem_toList.mp hn)
      exact Event.isSourced_node hnode hspan hbounds.1
  | group hopening hclosing hwhole hcovers _ _ ihinside ihrest =>
      simp only [Construct.eventsOf, Construct.events, List.cons_append, List.append_assoc,
        List.forall_mem_cons, List.forall_mem_append, List.nil_append] at hbounds
      obtain ⟨hstart, -, hstop, hrest⟩ := hbounds
      simp only [Construct.nodesOf, Construct.node?, List.forall_mem_append]
      refine ⟨?_, ihrest hrest⟩
      intro n hn
      obtain ⟨node, hnode, rfl⟩ := Option.map_eq_some_iff.mp (Option.mem_toList.mp hn)
      exact Tag.isSourced_node hnode hwhole ⟨hstart.1, hstop.2⟩ (ihinside hcovers)

/-- If the bytes of well nested events nest as the events do, then every node that is read from
them notes its bytes, but for the body of a table and the row of a head; the bytes of a node are a
proper range; and they lie within the bytes of the nearest node above it that notes any. -/
theorem spans_nest {cs : List Construct} (hcs : Construct.areNested cs)
    (hranges : Construct.RangesNest cs) :
    ∀ root ∈ nodesOfEvents true (Construct.eventsOf cs),
      root.span ≠ none ∧ ∀ n : Node, n.Within root → n.SpansNest := by
  -- Nothing is asked of the bytes of the outermost events, so they are put within all bytes.
  have hall : ∀ e ∈ Construct.eventsOf cs, (Span.mk 0 (-1)).Covers e.span := by
    intro e _
    have hlast : e.span.stop ≤ -1 :=
      UInt64.le_iff_toNat_le.mpr (Nat.le_of_lt_succ e.span.stop.toNat_lt)
    exact ⟨UInt64.zero_le, hlast⟩
  intro root hroot
  rw [nodesOfEvents_eventsOf true hcs] at hroot
  obtain ⟨hspan, -, hfits⟩ := isSourced_nodesOf hranges hall root hroot
  exact ⟨hspan, fun n hn => hfits.spansNest hn⟩

/-- A table with a head and a row, and with a strong word in a link in a cell. -/
theorem spans_nest_table :
    let word : List Construct := [.group .strong ⟨21, 26⟩ ⟨21, 26⟩ [.leaf (.text "b") ⟨23, 24⟩]]
    let link : List Construct := [.group (.link "u" "") ⟨20, 31⟩ ⟨20, 31⟩ word]
    let table : List Construct :=
      [.group .table ⟨0, 34⟩ ⟨0, 34⟩
        [.group .tableHead ⟨0, 6⟩ ⟨0, 6⟩
            [.group .tableCell ⟨1, 5⟩ ⟨1, 5⟩ [.leaf (.text "a") ⟨2, 3⟩]],
          .group .tableRow ⟨18, 33⟩ ⟨18, 33⟩ [.group .tableCell ⟨19, 32⟩ ⟨19, 32⟩ link]]]
    Construct.RangesNest table ∧
      ∀ root ∈ nodesOfEvents true (Construct.eventsOf table),
        root.span ≠ none ∧ ∀ n : Node, n.Within root → n.SpansNest := by
  intro word link table
  have hranges : Construct.RangesNest table := by
    repeat' first
      | exact .nil
      | apply Construct.RangesNest.leaf
      | apply Construct.RangesNest.group
    all_goals decide
  exact ⟨hranges, spans_nest (by decide) hranges⟩

end Markdown

end WikiMarkup
