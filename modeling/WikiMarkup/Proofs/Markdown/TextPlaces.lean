import Mathlib.Data.List.Forall2
import WikiMarkup.Proofs.Markdown.Tables

/-!
Where texts show. Most constructs keep the nodes inside them. Code and images take only the literal
content of these nodes and of all below them, copied markup only the content that the nodes have
themselves; what is not taken up leaves no trace in the document. So whether a text shows depends on
the tags around it, and on nothing else.
-/

namespace WikiMarkup

/-- A node holds a text, as part of its literal content or of the text in place of an image. -/
def Node.Holds (content : String) (n : Node) : Prop :=
  ∃ key ∈ [PropertyKey.content, PropertyKey.alt], ∃ value,
    n.properties.getText? key = some value ∧ content.toList <:+: value.toList

namespace Markdown

open Node

/-- A place at which a single event can stand in constructs. -/
inductive Place where
  | here (before after : List Construct)
  | inside (before : List Construct) (tag : Tag) (opening closing : Span) (place : Place)
      (after : List Construct)

namespace Place

/-- The constructs with an event at the place. -/
def fill (e : SourceEvent) : Place → List Construct
  | here before after => before ++ .leaf e.event e.span :: after
  | inside before tag opening closing place after =>
      before ++ .group tag opening closing (place.fill e) :: after

/-- The tags around the place, the outermost one first. -/
def tags : Place → List Tag
  | here _ _ => []
  | inside _ tag _ _ place _ => tag :: place.tags

/-- The same place behind one more construct. -/
def behind (c : Construct) : Place → Place
  | here before after => here (c :: before) after
  | inside before tag opening closing place after =>
      inside (c :: before) tag opening closing place after

theorem fill_behind (c : Construct) (place : Place) (e : SourceEvent) :
    (place.behind c).fill e = c :: place.fill e := by
  cases place <;> rfl

/-- Every single event of constructs stands at a place in them. -/
theorem exists_fill {e : SourceEvent} (he : e.event.isSingle) (cs : List Construct)
    (hmem : e ∈ Construct.eventsOf cs) : ∃ place : Place, place.fill e = cs := by
  induction cs using Construct.nestInduction with
  | nil => simp [Construct.eventsOf] at hmem
  | leaf event span rest ih =>
      simp only [Construct.eventsOf, Construct.events, List.cons_append, List.nil_append,
        List.mem_cons] at hmem
      rcases hmem with rfl | hrest
      · exact ⟨here [] rest, rfl⟩
      · obtain ⟨place, hplace⟩ := ih hrest
        exact ⟨place.behind _, by rw [fill_behind, hplace]⟩
  | group tag opening closing inside rest ihinside ihrest =>
      simp only [Construct.eventsOf, Construct.events, List.cons_append, List.append_assoc,
        List.nil_append, List.mem_cons, List.mem_append] at hmem
      rcases hmem with rfl | hinside | rfl | hrest
      · simp [Event.isSingle] at he
      · obtain ⟨place, hplace⟩ := ihinside hinside
        exact ⟨.inside [] tag opening closing place rest, by rw [fill, hplace, List.nil_append]⟩
      · simp [Event.isSingle] at he
      · obtain ⟨place, hplace⟩ := ihrest hrest
        exact ⟨place.behind _, by rw [fill_behind, hplace]⟩

end Place

/-- What is kept of nodes. -/
inductive Uptake where
  /-- The nodes themselves. -/
  | nodes
  /-- Only their literal content and that of all nodes below them. -/
  | plain
  /-- Only the content that they have themselves. -/
  | content
  deriving DecidableEq

namespace Uptake

/-- What is kept of the nodes inside a construct where that much is kept of its own node; none where
nothing of them is. The text in place of an image is no content of it. -/
def through? (u : Uptake) : Tag → Option Uptake
  | .codeBlock _ => some plain
  | .htmlBlock => some content
  | .image _ _ => if u = nodes then some plain else none
  | _ => if u = content then none else some u

/-- Whether a text comes through all tags around it. -/
def passes : Uptake → List Tag → Bool
  | _, [] => true
  | u, tag :: tags => (u.through? tag).any (passes · tags)

theorem passes_cons {u : Uptake} {tag : Tag} {tags : List Tag} :
    u.passes (tag :: tags) = true ↔ ∃ v, u.through? tag = some v ∧ v.passes tags := by
  rw [passes, Option.any_eq_true]

/-- What is taken up of a node shows a text. -/
def Shows (text : String) (n : Node) : Uptake → Prop
  | nodes => ∃ m : Node, m.Within n ∧ m.Holds text
  | plain => text.toList <:+: n.plainText.toList
  | content => ∃ value, n.properties.getText? PropertyKey.content = some value ∧
      text.toList <:+: value.toList

/-- The same is taken up of two nodes. -/
def Same (n other : Node) : Uptake → Prop
  | nodes => n = other
  | plain => n.kind = other.kind ∧ n.plainText = other.plainText
  | content => n.properties.getText? PropertyKey.content =
      other.properties.getText? PropertyKey.content

section Shows

variable {u v : Uptake} {text : String} {n other : Node} {children : List Node}

theorem Shows.of_content {value : String}
    (hvalue : n.properties.getText? PropertyKey.content = some value)
    (htext : text.toList <:+: value.toList) : u.Shows text n := by
  cases u with
  | nodes => exact ⟨n, .here, PropertyKey.content, by simp, value, hvalue, htext⟩
  | plain =>
      rw [Shows, plainText_eq, hvalue, String.toList_append]
      exact htext.trans (List.prefix_append _ _).isInfix
  | content => exact ⟨value, hvalue, htext⟩

theorem infix_plainTextAll (hn : n ∈ children) (h : text.toList <:+: n.plainText.toList) :
    text.toList <:+: (plainTextAll children).toList := by
  rw [plainTextAll_eq_join]
  exact infix_stringJoin (List.mem_map_of_mem hn) h

/-- What shows in a child of a node shows in the node, as long as children count. -/
theorem Shows.of_child {child : Node} (hu : u ≠ content) (hchild : child ∈ n.children)
    (h : u.Shows text child) : u.Shows text n := by
  cases u with
  | nodes =>
      obtain ⟨m, hm, hholds⟩ := h
      exact ⟨m, .inside hchild hm, hholds⟩
  | plain =>
      rw [Shows, plainText_eq, String.toList_append]
      exact (infix_plainTextAll hchild h).trans (List.suffix_append _ _).isInfix
  | content => exact absurd rfl hu

theorem Shows.congr (hchildren : other.children = n.children)
    (hget : ∀ key ∈ [PropertyKey.content, PropertyKey.alt],
      other.properties.getText? key = n.properties.getText? key)
    (h : u.Shows text n) : u.Shows text other := by
  have hcontent := hget PropertyKey.content (by simp)
  cases u with
  | nodes =>
      obtain ⟨m, hm, hholds⟩ := h
      cases hm with
      | here =>
          obtain ⟨key, hkey, value, hvalue, htext⟩ := hholds
          exact ⟨other, .here, key, hkey, value, by rw [hget key hkey, hvalue], htext⟩
      | inside hchild hm => exact ⟨m, .inside (hchildren ▸ hchild) hm, hholds⟩
  | plain =>
      rw [Shows, plainText_eq, hcontent, hchildren, ← plainText_eq]
      exact h
  | content =>
      rw [Shows, hcontent]
      exact h

theorem Shows.located (h : u.Shows text n) (keepSpans : Bool) (span : Span) :
    u.Shows text (located keepSpans span n) := by
  apply h.congr (children_located ..)
  intro key _
  rw [properties_located]

theorem Shows.markCell (h : u.Shows text n) (header : Bool) : u.Shows text (n.markCell header) := by
  apply h.congr (children_withProperty ..)
  intro key hkey
  have hother : key ≠ PropertyKey.header := by
    rintro rfl
    revert hkey
    decide
  exact n.getText?_withProperty_of_ne hother _

theorem shows_row (hu : u ≠ content) {cell : Node} (hcell : cell ∈ children)
    (h : u.Shows text cell) (header : Bool) : u.Shows text (rowOfCells header children) := by
  have hmarked : cell.markCell header ∈ (rowOfCells header children).children :=
    List.mem_map_of_mem hcell
  exact (h.markCell header).of_child hu hmarked

theorem shows_table (hu : u ≠ content) {part : Node} (hpart : part ∈ children)
    (h : u.Shows text part) : u.Shows text (tableOfParts children) := by
  cases hhead : part.is .tableHead with
  | true =>
      have hsorted : part ∈ (tableOfParts children).children := by
        rw [children_tableOfParts, List.mem_append]
        exact .inl (List.mem_filter.mpr ⟨hpart, hhead⟩)
      exact h.of_child hu hsorted
  | false =>
      have hsorted : part ∈ sorted not children := List.mem_filter.mpr ⟨hpart, by simp [hhead]⟩
      have hshows : u.Shows text (ofElement .tableBody (sorted not children)) :=
        h.of_child hu hsorted
      have hbody : bodySection (sorted not children) =
          [ofElement .tableBody (sorted not children)] :=
        if_neg (by simpa using List.ne_nil_of_mem hsorted)
      apply hshows.of_child hu
      rw [children_tableOfParts, hbody]
      exact List.mem_append_right _ (List.mem_singleton_self _)

/-- What a construct takes up of the nodes inside it shows in its node. -/
theorem Shows.of_inside {tag : Tag} {inner : Node} (hthrough : u.through? tag = some v)
    (hnode : tag.node? children = some n) (hinner : inner ∈ children) (h : v.Shows text inner) :
    u.Shows text n := by
  cases tag <;> simp only [Tag.node?, Option.some.injEq, reduceCtorEq] at hnode <;> subst hnode
  case codeBlock info =>
    obtain rfl : plain = v := Option.some.inj hthrough
    exact .of_content (getText?_content_codeBlockNode ..) (infix_plainTextAll hinner h)
  case htmlBlock =>
    obtain rfl : content = v := Option.some.inj hthrough
    obtain ⟨value, hvalue, htext⟩ := h
    have hmem : value ∈ children.filterMap (·.properties.getText? PropertyKey.content) :=
      List.mem_filterMap.mpr ⟨inner, hinner, hvalue⟩
    exact .of_content (getText?_content_ofContent ..) (infix_stringJoin hmem htext)
  case image url title =>
    obtain ⟨rfl, rfl⟩ : u = nodes ∧ plain = v := by simpa [through?] using hthrough
    refine ⟨_, .here, PropertyKey.alt, by simp, plainTextAll children, ?_, ?_⟩
    · rw [getText?_withTitle_of_ne _ (by decide), getText?_withProperty]
    · exact infix_plainTextAll hinner h
  all_goals
    obtain ⟨hu, rfl⟩ : u ≠ content ∧ u = v := by simpa [through?] using hthrough
  case table => exact shows_table hu hinner h
  case tableHead => exact (shows_row hu hinner h true).of_child hu (by simp)
  case tableRow => exact shows_row hu hinner h false
  case link url title => exact h.of_child hu (by simpa using hinner)
  all_goals exact h.of_child hu hinner

end Shows

section Same

variable {u v : Uptake} {n other : Node} {children others : List Node}

theorem Same.refl (u : Uptake) (n : Node) : u.Same n n := by
  cases u with
  | nodes => rfl
  | plain => exact ⟨rfl, rfl⟩
  | content => rfl

theorem Same.located (h : u.Same n other) (keepSpans : Bool) (span : Span) :
    u.Same (located keepSpans span n) (located keepSpans span other) := by
  cases u with
  | nodes => exact congrArg _ h
  | plain =>
      obtain ⟨hkind, hplain⟩ := h
      rw [plainText_eq, plainText_eq other] at hplain
      refine ⟨by simpa using hkind, ?_⟩
      rw [plainText_eq, plainText_eq (Markdown.located ..)]
      simpa using hplain
  | content => simpa [Same] using h

theorem eq_of_same (h : children.Forall₂ nodes.Same others) : children = others := by
  rw [← List.forall₂_eq_eq_eq]
  exact h

theorem plainTextAll_of_same (h : children.Forall₂ plain.Same others) :
    plainTextAll children = plainTextAll others := by
  induction h with
  | nil => rfl
  | cons hn _ ih => rw [plainTextAll, plainTextAll, hn.2, ih]

theorem contents_of_same (h : children.Forall₂ content.Same others) :
    children.filterMap (·.properties.getText? PropertyKey.content) =
      others.filterMap (·.properties.getText? PropertyKey.content) := by
  induction h with
  | nil => rfl
  | cons hn _ ih => rw [List.filterMap_cons, List.filterMap_cons, ih, hn]

theorem same_sorted (h : children.Forall₂ plain.Same others) (keep : Bool → Bool) :
    (sorted keep children).Forall₂ plain.Same (sorted keep others) := by
  induction h with
  | nil => exact .nil
  | @cons n other _ _ hn _ ih =>
      have his : n.is .tableHead = other.is .tableHead := by rw [is, is, hn.1]
      simp only [sorted, List.filter_cons, his]
      split
      · exact .cons hn ih
      · exact ih

theorem same_plain_of_children (hkind : n.kind = other.kind)
    (hproperties : n.properties = other.properties)
    (hchildren : n.children.Forall₂ plain.Same other.children) : plain.Same n other := by
  refine ⟨hkind, ?_⟩
  rw [plainText_eq, plainText_eq other, hproperties, plainTextAll_of_same hchildren]

theorem same_plain_row (h : children.Forall₂ plain.Same others) (header : Bool) :
    plain.Same (rowOfCells header children) (rowOfCells header others) := by
  have hmarked : ∀ (n other : Node), plain.Same n other →
      plain.Same (n.markCell header) (other.markCell header) := by
    rintro n other ⟨hkind, hplain⟩
    refine ⟨by simpa [markCell] using hkind, ?_⟩
    rw [plainText_markCell, plainText_markCell, hplain]
  refine same_plain_of_children rfl rfl ?_
  exact List.forall₂_map_left_iff.mpr (List.forall₂_map_right_iff.mpr (h.imp hmarked))

theorem same_plain_bodySection (h : children.Forall₂ plain.Same others) :
    (bodySection children).Forall₂ plain.Same (bodySection others) := by
  cases h with
  | nil => exact .nil
  | cons hrow hrest => exact .cons (same_plain_of_children rfl rfl (.cons hrow hrest)) .nil

theorem same_plain_table (h : children.Forall₂ plain.Same others) :
    plain.Same (tableOfParts children) (tableOfParts others) := by
  refine same_plain_of_children rfl rfl ?_
  rw [children_tableOfParts, children_tableOfParts]
  exact List.rel_append (same_sorted h id) (same_plain_bodySection (same_sorted h not))

/-- Constructs take up the same of nodes in which the same is taken up. -/
theorem Same.of_inside {tag : Tag} (hthrough : u.through? tag = some v)
    (h : children.Forall₂ v.Same others) (hn : tag.node? children = some n)
    (hother : tag.node? others = some other) : u.Same n other := by
  cases tag <;> simp only [Tag.node?, Option.some.injEq, reduceCtorEq] at hn hother <;>
    subst hn <;> subst hother
  case codeBlock info =>
    obtain rfl : plain = v := Option.some.inj hthrough
    rw [plainTextAll_of_same h]
    exact .refl _ _
  case htmlBlock =>
    obtain rfl : content = v := Option.some.inj hthrough
    rw [contents_of_same h]
    exact .refl _ _
  case image url title =>
    obtain ⟨rfl, rfl⟩ : u = nodes ∧ plain = v := by simpa [through?] using hthrough
    rw [plainTextAll_of_same h]
    exact .refl _ _
  all_goals
    obtain ⟨hu, rfl⟩ : u ≠ content ∧ u = v := by simpa [through?] using hthrough
    cases u with
    | content => exact absurd rfl hu
    | nodes =>
        rw [eq_of_same h]
        exact .refl _ _
    | plain => ?_
  case table.plain => exact same_plain_table h
  case tableHead.plain =>
    exact same_plain_of_children rfl rfl (.cons (same_plain_row h true) .nil)
  case tableRow.plain => exact same_plain_row h false
  case link.plain url title =>
    unfold withTitle
    split <;> exact same_plain_of_children rfl rfl h
  all_goals exact same_plain_of_children rfl rfl h

/-- Constructs that nothing comes through look the same from outside, whatever is in them. -/
theorem Same.of_blocked {tag : Tag} (hthrough : u.through? tag = none)
    (hn : tag.node? children = some n) (hother : tag.node? others = some other) :
    u.Same n other := by
  cases tag <;> simp only [Tag.node?, Option.some.injEq, reduceCtorEq] at hn hother <;>
    subst hn <;> subst hother
  case codeBlock info => simp [through?] at hthrough
  case htmlBlock => simp [through?] at hthrough
  case image url title =>
    have hnone : ∀ alt, ((((ofElement .image []).withProperty PropertyKey.url
        (.text url)).withProperty PropertyKey.alt (.text alt)).withTitle
          title).properties.getText? PropertyKey.content = none := by
      intro alt
      rw [getText?_withTitle_of_ne _ (by decide), getText?_withProperty_of_ne _ (by decide),
        getText?_withProperty_of_ne _ (by decide)]
      rfl
    cases u with
    | nodes => simp [through?] at hthrough
    | plain => exact ⟨by simp, by simp [plainText_eq, hnone]⟩
    | content => rw [Same, hnone, hnone]
  all_goals
    obtain rfl : u = content := by simpa [through?] using hthrough
  case link url title =>
    rw [Same, getText?_withTitle_of_ne _ (by decide), getText?_withTitle_of_ne _ (by decide)]
    rfl
  all_goals rfl

/-- Nothing more is taken up of a construct than what comes through its tag. -/
theorem same_toList_node? {tag : Tag}
    (h : ∀ v, u.through? tag = some v → children.Forall₂ v.Same others) (keepSpans : Bool)
    (span : Span) :
    ((tag.node? children).map (Markdown.located keepSpans span)).toList.Forall₂ u.Same
      ((tag.node? others).map (Markdown.located keepSpans span)).toList := by
  have hsome : (tag.node? children).isSome = (tag.node? others).isSome := by
    cases tag <;> rfl
  cases hn : tag.node? children with
  | none =>
      have hother : tag.node? others = none := by simpa [hn] using hsome
      rw [hother]
      exact .nil
  | some n =>
      obtain ⟨other, hother⟩ : ∃ other, tag.node? others = some other :=
        Option.isSome_iff_exists.mp (by simp [← hsome, hn])
      have hsame : u.Same n other := by
        cases hthrough : u.through? tag with
        | none => exact .of_blocked hthrough hn hother
        | some v => exact .of_inside hthrough (h v hthrough) hn hother
      rw [hother]
      exact .cons (hsame.located keepSpans span) .nil

end Same

end Uptake

/-- What is taken up of constructs shows a text that comes through all tags around it. -/
theorem Place.exists_shows {place : Place} {u : Uptake} (hpasses : u.passes place.tags)
    (keepSpans : Bool) (content : String) (span : Span)
    (hnested : Construct.areNested (place.fill ⟨.text content, span⟩)) :
    ∃ n ∈ Construct.nodesOf keepSpans (place.fill ⟨.text content, span⟩),
      u.Shows content n := by
  induction place generalizing u with
  | here before after =>
      refine ⟨located keepSpans span (.text content), ?_, ?_⟩
      · simp [fill, nodesOf_append, Construct.nodesOf, Construct.node?, Event.node?]
      · have htext : u.Shows content (Node.text content) :=
          .of_content (getText?_content_ofContent .text content) List.infix_rfl
        exact htext.located keepSpans span
  | inside before tag opening closing place after ih =>
      obtain ⟨v, hthrough, hinside⟩ := Uptake.passes_cons.mp hpasses
      have hgroup := Construct.areNested_iff.mp hnested _
        (List.mem_append_right before List.mem_cons_self)
      rw [Construct.isNested, Bool.and_eq_true] at hgroup
      obtain ⟨inner, hinner, hshows⟩ := ih hinside hgroup.2
      obtain ⟨n, hn⟩ := Tag.node?_isSome hgroup.1
        (Construct.nodesOf keepSpans (place.fill ⟨.text content, span⟩))
      refine ⟨located keepSpans ⟨opening.start, closing.stop⟩ n, ?_,
        (hshows.of_inside hthrough hn hinner).located keepSpans _⟩
      simp [fill, nodesOf_append, Construct.nodesOf, Construct.node?, hn]

/-- Nothing that is taken up of constructs tells of a text that does not come through. -/
theorem Place.same_of_blocked {place : Place} {u : Uptake}
    (hpasses : u.passes place.tags = false) (keepSpans : Bool) (content other : String)
    (span : Span) :
    (Construct.nodesOf keepSpans (place.fill ⟨.text content, span⟩)).Forall₂ u.Same
      (Construct.nodesOf keepSpans (place.fill ⟨.text other, span⟩)) := by
  induction place generalizing u with
  | here before after => simp [tags, Uptake.passes] at hpasses
  | inside before tag opening closing place after ih =>
      have hrefl : ∀ ns : List Node, ns.Forall₂ u.Same ns :=
        fun ns => List.forall₂_same.mpr fun n _ => .refl u n
      simp only [fill, nodesOf_append, Construct.nodesOf, Construct.node?]
      refine List.rel_append (hrefl _) (List.rel_append ?_ (hrefl _))
      apply Uptake.same_toList_node?
      intro v hthrough
      rw [tags, Uptake.passes, hthrough] at hpasses
      exact ih hpasses

end Markdown

end WikiMarkup
