import Mathlib.Data.List.Basic
import WikiMarkup.Confluence.Notation
import WikiMarkup.Proofs.Rendering.Assembly
import WikiMarkup.Proofs.Rendering.Outcome

/-!
Groupings in a tree. A division or a group is written as the texts of its children one behind the
other, so its children could as well stand in its place. Whatever fails or is warned of does so
alike; but a parent sees a grouping as one child of no kind that counts. An item puts no newline
before the blocks in it, a table finds no head in it, and a row that begins with it does not begin
with what the grouping begins with.
-/

namespace WikiMarkup

namespace Node

/-- Whether the node only holds other nodes together. -/
def isGrouping (n : Node) : Bool := n.is .division || n.is .group

/-- A place below the root of a tree at which nodes can stand. -/
inductive Site where
  | here (kind : String) (properties : Properties) (span : Option Span)
      (before after : List Node)
  | inside (kind : String) (properties : Properties) (span : Option Span) (before : List Node)
      (site : Site) (after : List Node)

/-- The tree with the given nodes at the place. -/
def Site.fill (ns : List Node) : Site → Node
  | here kind properties span before after => mk kind properties (before ++ (ns ++ after)) span
  | inside kind properties span before site after =>
      mk kind properties (before ++ site.fill ns :: after) span

/-- The kind of the node that the nodes at the place are children of. -/
def Site.parentKind : Site → String
  | here kind _ _ _ _ => kind
  | inside _ _ _ _ site _ => site.parentKind

/-- A parent of the grouping, and of the row that it stands in, sees nothing in the children of the
grouping that it does not see in the grouping. In an item no line is broken by a block in the
grouping; in a table nothing in the grouping belongs to the head, and a row with the grouping in it
is of the head with and without it. -/
def Site.Blends (r : Renderer) (g : Node) : Site → Prop
  | here kind _ _ before _ =>
      (kind = Element.listItem.name → ∀ earlier own, renderAll r before = .ok earlier →
        renderAll r g.children = .ok own →
          Rule.breaksLine (Rule.itemBody earlier.value) own.value = false) ∧
      (kind = Element.table.name → ∀ child ∈ g.children, Rule.inTableHead child = false)
  | inside kind _ _ _ site _ =>
      site.Blends r g ∧
        (kind = Element.table.name →
          Rule.inTableHead (site.fill [g]) = Rule.inTableHead (site.fill g.children))

/-- Two walks end in the same error, or with the same warnings and in values that are related. -/
inductive Alongside {α : Type} (R : α → α → Prop) :
    Except RenderError (Converted α) → Except RenderError (Converted α) → Prop where
  | error (e : RenderError) : Alongside R (.error e) (.error e)
  | ok {value other : α} (warnings : List FidelityWarning) (h : R value other) :
      Alongside R (.ok ⟨value, warnings⟩) (.ok ⟨other, warnings⟩)

theorem Alongside.warnings_eq {α : Type} {R : α → α → Prop}
    {result other : Except RenderError (Converted α)} (h : Alongside R result other) :
    result.map (·.warnings) = other.map (·.warnings) := by
  cases h <;> rfl

theorem Alongside.eq {α : Type} {R : α → α → Prop} {result other : Except RenderError (Converted α)}
    (h : Alongside R result other) (hvalues : ∀ {value its}, R value its → value = its) :
    result = other := by
  cases h with
  | error e => rfl
  | ok warnings hvalue => rw [hvalues hvalue]

section Alongside

variable {r : Renderer}

/-- Walks that go side by side do so with the same nodes before and behind them. -/
theorem Alongside.between {R : List (Node × String) → List (Node × String) → Prop}
    {ns others : List Node} (h : Alongside R (renderAll r ns) (renderAll r others))
    (before after : List Node) :
    Alongside (fun parts more => ∃ earlier own other later,
        (∃ warnings, renderAll r before = .ok ⟨earlier, warnings⟩) ∧ R own other ∧
          parts = earlier ++ (own ++ later) ∧ more = earlier ++ (other ++ later))
      (renderAll r (before ++ (ns ++ after))) (renderAll r (before ++ (others ++ after))) := by
  simp only [renderAll_append]
  generalize renderAll r ns = first at h ⊢
  generalize renderAll r others = second at h ⊢
  cases hbefore : renderAll r before with
  | error e => exact .error e
  | ok earlier =>
      cases h with
      | error e => exact .error e
      | ok warnings hown =>
          cases renderAll r after with
          | error e => exact .error e
          | ok later => exact .ok _ ⟨_, _, _, _, ⟨_, rfl⟩, hown, rfl, rfl⟩

/-- Nodes of one kind and with the same properties are walked side by side if their children are. -/
theorem Alongside.node {R : List (Node × String) → List (Node × String) → Prop}
    {Q : String → String → Prop} {kind : String} {properties : Properties} {span : Option Span}
    {children others : List Node} (h : Alongside R (renderAll r children) (renderAll r others))
    (hleaf : ∀ text, Q text text)
    (hbranch : ∀ assemble parts more, R parts more →
      Rule.ofNode r (mk kind properties children span) = .ok (.branch assemble) →
        Q (assemble parts) (assemble more)) :
    Alongside Q ((mk kind properties children span).render r)
      ((mk kind properties others span).render r) := by
  have hrule : Rule.ofNode r (mk kind properties others span) =
      Rule.ofNode r (mk kind properties children span) := ofNode_congr r rfl rfl
  have hlosses : (mk kind properties others span).losses =
      (mk kind properties children span).losses := rfl
  rw [render_eq, render_eq r (mk kind properties others span), hrule, hlosses]
  cases hnode : Rule.ofNode r (mk kind properties children span) with
  | error e => exact .error e
  | ok rule =>
      cases rule with
      | leaf text => exact .ok [] (hleaf text)
      | branch assemble =>
          simp only [Node.children]
          generalize renderAll r children = first at h ⊢
          generalize renderAll r others = second at h ⊢
          cases h with
          | error e => exact .error e
          | ok warnings hparts => exact .ok _ (hbranch assemble _ _ hparts hnode)

/-- The rule of a grouping, and what a parent sees of it. -/
theorem isGrouping_rule {g : Node} (hg : g.isGrouping) :
    Rule.ofNode r g = .ok (.branch Rule.join) ∧ g.losses = [] ∧ Rule.startsLine g = false ∧
      Rule.inTableHead g = false := by
  rcases (Bool.or_eq_true _ _).mp hg with hkind | hkind <;>
    exact ⟨ofNode_of_is hkind r, losses_of_is hkind, any_is hkind _, by
      simp [Rule.inTableHead, is_eq_decide hkind]⟩

/-- A grouping alone and its children alone. -/
theorem alongside_grouping {g : Node} (hg : g.isGrouping) :
    Alongside (fun own other => own = [(g, Rule.join other)] ∧
        ∃ warnings, renderAll r g.children = .ok ⟨other, warnings⟩)
      (renderAll r [g]) (renderAll r g.children) := by
  obtain ⟨hrule, hlosses, -⟩ := isGrouping_rule (r := r) hg
  rw [renderAll, render_eq, hrule]
  cases hchildren : renderAll r g.children with
  | error e => exact .error e
  | ok parts =>
      simp only [renderAll, hlosses, Converted.exact, List.nil_append, List.append_nil]
      exact .ok _ ⟨rfl, _, rfl⟩

/-- Two nodes that are walked side by side are so as lists of one node. -/
theorem Alongside.single {Q : String → String → Prop} {n other : Node}
    (h : Alongside Q (n.render r) (other.render r)) :
    Alongside (fun parts more => ∃ text its, Q text its ∧ parts = [(n, text)] ∧
      more = [(other, its)]) (renderAll r [n]) (renderAll r [other]) := by
  simp only [renderAll]
  generalize n.render r = first at h ⊢
  generalize other.render r = second at h ⊢
  cases h with
  | error e => exact .error e
  | ok warnings htext => exact .ok _ ⟨_, _, htext, rfl, rfl⟩

/-- What is put together from parts with a grouping among them, and from the same parts with those
of the grouping in its place. -/
theorem assemble_grouping {g n : Node} (hg : g.isGrouping)
    {assemble : List (Node × String) → String} (hrule : Rule.ofNode r n = .ok (.branch assemble))
    {earlier own later : List (Node × String)}
    (hitem : n.is .listItem → Rule.breaksLine (Rule.itemBody earlier) own = false)
    (htable : n.is .table → ∀ part ∈ own, Rule.inTableHead part.1 = false) :
    assemble (earlier ++ ([(g, Rule.join own)] ++ later)) =
      assemble (earlier ++ (own ++ later)) := by
  obtain ⟨-, -, hstarts, hhead⟩ := isGrouping_rule (r := r) hg
  have hsingle : Rule.join [(g, Rule.join own)] = Rule.join own := by
    rw [Rule.join_cons]
    exact String.append_empty
  refine branch_congr hrule ?_ ?_ ?_
  · simp only [Rule.join_append, hsingle]
  · intro hn
    have hown := Rule.foldl_addPart_of_not_breaksLine (hitem hn)
    rw [Rule.itemBody_eq_foldl] at hown
    rw [Rule.itemBody_eq_foldl, Rule.itemBody_eq_foldl]
    simp only [List.foldl_append, List.foldl_cons, List.foldl_nil]
    rw [Rule.addPart_of_startsLine_eq_false hstarts, hown]
  · intro hn
    have hnone : own.filter (Rule.inTableHead ·.1) = [] :=
      List.filter_eq_nil_iff.mpr fun part hpart => by simp [htable hn part hpart]
    have hall : own.filter (!Rule.inTableHead ·.1) = own :=
      List.filter_eq_self.mpr fun part hpart => by simp [htable hn part hpart]
    simp only [Rule.tableText, List.filter_append, hnone, hall, List.filter_cons, hhead,
      List.filter_nil, Rule.join_append, Bool.not_false, if_true, Bool.false_eq_true, if_false,
      hsingle]

/-- What is put together from parts of which one is exchanged for another of the same kind. -/
theorem assemble_exchange {n child other : Node} {assemble : List (Node × String) → String}
    (hrule : Rule.ofNode r n = .ok (.branch assemble)) (hkind : other.kind = child.kind)
    (htable : n.is .table → Rule.inTableHead child = Rule.inTableHead other)
    (earlier later : List (Node × String)) (text : String) :
    assemble (earlier ++ ([(child, text)] ++ later)) =
      assemble (earlier ++ ([(other, text)] ++ later)) := by
  have his : other.is = child.is := funext fun e => by rw [is, is, hkind]
  have hstarts : Rule.startsLine child = Rule.startsLine other := by
    rw [Rule.startsLine, Rule.startsLine, his]
  refine branch_congr hrule ?_ ?_ ?_
  · simp only [Rule.join_append, Rule.join_cons]
  · intro _
    rw [Rule.itemBody_eq_foldl, Rule.itemBody_eq_foldl]
    simp only [List.foldl_append, List.foldl_cons, Rule.addPart, hstarts]
  · intro hn
    refine tableText_of_seen r ?_
    simp only [List.map_append, List.map_cons, seen, hstarts, htable hn]

theorem Site.kind_fill (ns others : List Node) (site : Site) :
    (site.fill ns).kind = (site.fill others).kind := by
  cases site <;> rfl

/-- A grouping at a place and its children there. -/
theorem Site.alongside {g : Node} (hg : g.isGrouping) (site : Site) :
    Alongside (fun text its => site.Blends r g → text = its)
      ((site.fill [g]).render r) ((site.fill g.children).render r) := by
  induction site with
  | here kind properties span before after =>
      refine ((alongside_grouping hg).between before after).node (fun _ _ => rfl) ?_
      rintro assemble _ _ ⟨earlier, _, own, later, ⟨_, hbefore⟩, ⟨rfl, _, hown⟩, rfl, rfl⟩ hrule
        ⟨hitem, htable⟩
      refine assemble_grouping hg hrule ?_ ?_
      · intro hn
        exact hitem (of_decide_eq_true hn) _ _ hbefore hown
      · intro hn part hpart
        have hnode : part.1 ∈ g.children := by
          rw [← (renderAll_parts hown).1]
          exact List.mem_map_of_mem hpart
        exact htable (of_decide_eq_true hn) part.1 hnode
  | inside kind properties span before site after ih =>
      refine (ih.single.between before after).node (fun _ _ => rfl) ?_
      rintro assemble _ _ ⟨earlier, _, _, later, -, ⟨text, its, htext, rfl, rfl⟩, rfl, rfl⟩ hrule
        ⟨hsite, htable⟩
      rw [htext hsite]
      exact assemble_exchange hrule (site.kind_fill ..)
        (fun hn => htable (of_decide_eq_true hn)) earlier later its

end Alongside

theorem Site.isHeaderCell_fill (ns others : List Node) (site : Site) :
    Rule.isHeaderCell (site.fill ns) = Rule.isHeaderCell (site.fill others) := by
  cases site <;> rfl

/-- A table asks whether a row begins with a header cell, and for nothing else below its children.
-/
theorem Site.inTableHead_fill {site : Site} (h : site.parentKind ≠ Element.tableRow.name)
    (ns others : List Node) :
    Rule.inTableHead (site.fill ns) = Rule.inTableHead (site.fill others) := by
  cases site with
  | here kind properties span before after =>
      have hrow : ∀ children, (mk kind properties children span).is .tableRow = false :=
        fun children => decide_eq_false h
      simp only [Rule.inTableHead, fill, hrow, Bool.false_and, Bool.or_false]
      rfl
  | inside kind properties span before site after =>
      have hfirst : (before ++ site.fill ns :: after).head?.any Rule.isHeaderCell =
          (before ++ site.fill others :: after).head?.any Rule.isHeaderCell := by
        cases before with
        | nil => exact site.isHeaderCell_fill ns others
        | cons first rest => rfl
      simp only [Rule.inTableHead, fill, children, hfirst]
      rfl

/-- Items, tables and rows apart, a grouping is not told from its children. -/
theorem Site.blends_of_parentKind {site : Site} (r : Renderer) (g : Node)
    (hitem : site.parentKind ≠ Element.listItem.name)
    (htable : site.parentKind ≠ Element.table.name)
    (hrow : site.parentKind ≠ Element.tableRow.name) : site.Blends r g := by
  induction site with
  | here kind properties span before after =>
      exact ⟨fun hkind => absurd hkind hitem, fun hkind => absurd hkind htable⟩
  | inside kind properties span before site after ih =>
      have hbelow : site.parentKind ≠ Element.tableRow.name := hrow
      exact ⟨ih hitem htable hrow, fun _ => inTableHead_fill hbelow _ _⟩

end Node

namespace Confluence

open Node

/-- A grouping anywhere below the root gives way to its children without a change in what rendering
fails with or warns of. The text is the same too, unless the parent of the grouping is an item, a
table or a row; and there it is the same if the grouping hides nothing that is looked for among the
children of the parent. -/
theorem groupings_give_way_to_children (options : Options) {g : Node} (hg : g.isGrouping)
    (site : Site) :
    (emit options ⟨site.fill [g]⟩).map (·.warnings) =
        (emit options ⟨site.fill g.children⟩).map (·.warnings) ∧
      (site.parentKind ∉ [Element.listItem, .table, .tableRow].map Element.name →
        emit options ⟨site.fill [g]⟩ = emit options ⟨site.fill g.children⟩) ∧
      (site.Blends (renderer options) g →
        emit options ⟨site.fill [g]⟩ = emit options ⟨site.fill g.children⟩) := by
  have hboth := site.alongside (r := renderer options) hg
  have hencoded : ∀ result : Except RenderError (Converted String),
      (result.map (·.map Utf8.encode)).map (·.warnings) = result.map (·.warnings) := by
    rintro (_ | _) <;> rfl
  have hblends : site.Blends (renderer options) g →
      emit options ⟨site.fill [g]⟩ = emit options ⟨site.fill g.children⟩ := by
    intro h
    rw [emit, emit, render, render, Document.render, Document.render, hboth.eq fun htext => htext h]
  refine ⟨?_, ?_, hblends⟩
  · rw [emit, emit, hencoded, hencoded]
    exact hboth.warnings_eq
  · intro hparent
    simp only [List.map_cons, List.map_nil, List.mem_cons, List.not_mem_nil, or_false,
      not_or] at hparent
    exact hblends (Site.blends_of_parentKind _ g hparent.1 hparent.2.1 hparent.2.2)

/-- A group of inlines in an item, before a list in it, and in a quote. -/
theorem groupings_give_way_to_children_inlines :
    let inlines : List Node := [.text "x", .ofElement .strong [.text "y"]]
    let g : Node := .ofElement .group inlines
    let inItem : Site := .inside "list" .empty none []
      (.here "list_item" .empty none [.text "a"] [.list false [.listItem [.text "z"]]]) []
    let inQuote : Site :=
      .inside "document" .empty none [] (.here "blockquote" .empty none [] []) []
    g.isGrouping ∧ inItem.Blends (renderer {}) g ∧
      emit {} ⟨inItem.fill [g]⟩ = emit {} ⟨inItem.fill inlines⟩ ∧
      emit {} ⟨inItem.fill inlines⟩ = .ok (.exact (Utf8.encode "* ax*y*\n** z\n\n")) ∧
      inQuote.parentKind ∉ [Element.listItem, .table, .tableRow].map Element.name ∧
      emit {} ⟨inQuote.fill [g]⟩ = emit {} ⟨inQuote.fill inlines⟩ := by
  intro inlines g inItem inQuote
  have hg : g.isGrouping := by decide
  have hparent : inQuote.parentKind ∉ [Element.listItem, .table, .tableRow].map Element.name := by
    decide
  have hblends : inItem.Blends (renderer {}) g := by
    refine ⟨⟨fun _ earlier own hearlier hown => ?_, fun h => absurd h (by decide)⟩,
      fun h => absurd h (by decide)⟩
    cases hearlier
    cases hown
    decide +kernel
  exact ⟨hg, hblends, (groupings_give_way_to_children {} hg inItem).2.2 hblends, by decide +kernel,
    hparent, (groupings_give_way_to_children {} hg inQuote).2.1 hparent⟩

/-- Three groupings that are seen: one that hides a list from an item, one that hides a head from a
table, and one that hides a header cell from a row. -/
theorem groupings_hide_what_they_hold :
    let x : Node := .text "x"
    let y : Node := .text "y"
    let cell : Node := .tableCell false [x]
    let inner : Node := .list false [.listItem [y]]
    let head : Node := .ofElement .tableHead [.tableRow [.ofElement .tableHeader [y]]]
    let header : Node := .ofElement .tableHeader [y]
    let group := fun n : Node => Node.ofElement .division [n]
    let inItem := fun n : Node => Node.list false [.listItem [x, n]]
    let inTable := fun n : Node => Node.ofElement .table [.tableRow [cell], n]
    let inRow := fun n : Node => Node.ofElement .table [.tableRow [cell], .tableRow [n]]
    let written := fun n : Node => emit {} ⟨n⟩
    let exactly := fun text : String =>
      (Except.ok (.exact (Utf8.encode text)) : Except RenderError (Converted (List UInt8)))
    (written (inItem (group inner)) = exactly "* x* y\n\n" ∧
        written (inItem inner) = exactly "* x\n** y\n\n") ∧
      (written (inTable (group head)) = exactly "|x\n||y\n\n" ∧
        written (inTable head) = exactly "||y\n|x\n\n") ∧
      (written (inRow (group header)) = exactly "|x\n||y\n\n" ∧
        written (inRow header) = exactly "||y\n|x\n\n") := by
  intro x y cell inner head header group inItem inTable inRow written exactly
  exact ⟨⟨by decide +kernel, by decide +kernel⟩, ⟨by decide +kernel, by decide +kernel⟩,
    by decide +kernel, by decide +kernel⟩

end Confluence

end WikiMarkup
