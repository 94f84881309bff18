import WikiMarkup.Document.Draft
import WikiMarkup.Proofs.Markdown.Vocabulary

/-!
What can be wrong with a document that is drafted by hand. The types of a draft see to the shape of
its nodes and to the properties that these need, but a heading takes any number for its level. So
the levels, in the order in which the headings are drafted, decide whether the document is written,
and which level is at fault if it is not. Tables are written in another order than they are drafted;
headings do not stand in them.
-/

namespace WikiMarkup

namespace Draft

mutual

/-- Whether a block is drafted throughout, without a node that was made elsewhere. -/
def Block.isOwn : Block → Bool
  | .quote blocks => Block.areOwn blocks
  | .list _ items => Item.areOwn items
  | .node _ => false
  | .heading _ _ | .paragraph _ | .code _ _ | .rule | .table _ | .raw _ => true

def Block.areOwn : List Block → Bool
  | [] => true
  | b :: rest => Block.isOwn b && Block.areOwn rest

def Item.isOwn : Item → Bool
  | .ofInlines _ => true
  | .ofBlocks blocks => Block.areOwn blocks

def Item.areOwn : List Item → Bool
  | [] => true
  | i :: rest => Item.isOwn i && Item.areOwn rest

end

mutual

/-- The levels of the headings in a block, in the order in which they are drafted. -/
def Block.levels : Block → List Int64
  | .heading level _ => [level]
  | .quote blocks => Block.levelsOf blocks
  | .list _ items => Item.levelsOf items
  | .paragraph _ | .code _ _ | .rule | .table _ | .raw _ | .node _ => []

def Block.levelsOf : List Block → List Int64
  | [] => []
  | b :: rest => Block.levels b ++ Block.levelsOf rest

def Item.levels : Item → List Int64
  | .ofInlines _ => []
  | .ofBlocks blocks => Block.levelsOf blocks

def Item.levelsOf : List Item → List Int64
  | [] => []
  | i :: rest => Item.levels i ++ Item.levelsOf rest

end

/-- Whether writers accept a level. -/
def isLevel (level : Int64) : Bool := 1 ≤ level.toInt ∧ level.toInt ≤ 6

/-- The error for a heading of a level that writers do not accept. -/
def levelError (level : Int64) : RenderError :=
  .invalidProperty Element.heading.name PropertyKey.level s!"{level.toInt} is outside 1..=6"

end Draft

namespace Node

open Draft

/-- Nodes with nothing in doubt but the levels of some headings among them, in order. -/
inductive Levelled : List Node → List Int64 → Prop where
  | nil : Levelled [] []
  | sound {n : Node} {ns : List Node} {levels : List Int64} (hsound : n.IsSound)
      (hknown : n.losses = []) (hrest : Levelled ns levels) : Levelled (n :: ns) levels
  | heading {n : Node} {ns : List Node} {level : Int64} {levels : List Int64}
      (hkind : n.is .heading)
      (hlevel : n.properties.get? PropertyKey.level = some (.number level))
      (hrest : Levelled ns levels) : Levelled (n :: ns) (level :: levels)

namespace Levelled

variable {ns others : List Node} {levels more : List Int64}

theorem append (h : Levelled ns levels) (hothers : Levelled others more) :
    Levelled (ns ++ others) (levels ++ more) := by
  induction h with
  | nil => exact hothers
  | sound hsound hknown _ ih => exact .sound hsound hknown ih
  | heading hkind hlevel _ ih => exact .heading hkind hlevel ih

/-- If all levels are accepted, no node is at fault and nothing is lost. -/
theorem sound_of_levels (h : Levelled ns levels) (hlevels : levels.all isLevel) :
    ∀ n ∈ ns, n.IsSound ∧ n.losses = [] := by
  induction h with
  | nil => simp
  | sound hsound hknown _ ih => exact List.forall_mem_cons.mpr ⟨⟨hsound, hknown⟩, ih hlevels⟩
  | heading hkind hlevel _ ih =>
      rw [List.all_cons, Bool.and_eq_true, isLevel, decide_eq_true_eq] at hlevels
      have hsound := isSound_heading hkind hlevel hlevels.1
      exact List.forall_mem_cons.mpr ⟨⟨hsound, losses_of_is hkind⟩, ih hlevels.2⟩

/-- The first level that is not accepted is what the first node at fault is reported for. -/
theorem firstBreak (h : Levelled ns levels) {level : Int64}
    (hfirst : levels.find? (!isLevel ·) = some level) : FirstBreak ns (levelError level) := by
  induction h with
  | nil => simp at hfirst
  | sound hsound _ _ ih => exact .cons hsound (ih hfirst)
  | @heading n ns own levels hkind hlevel _ ih =>
      rw [List.find?_cons] at hfirst
      cases hown : isLevel own with
      | true =>
          rw [hown] at hfirst
          rw [isLevel, decide_eq_true_eq] at hown
          exact .cons (isSound_heading hkind hlevel hown) (ih hfirst)
      | false =>
          rw [hown] at hfirst
          obtain rfl : own = level := Option.some.inj hfirst
          rw [isLevel, decide_eq_false_iff_not] at hown
          have hbreaks := Breaks.badLevel hkind own hlevel (by omega)
          have hname : n.kind = Element.heading.name := by simpa [is] using hkind
          rw [hname] at hbreaks
          exact .head hbreaks

end Levelled

theorem levelled_of_sound {ns : List Node} (h : ∀ n ∈ ns, n.IsSound ∧ n.losses = []) :
    Levelled ns [] := by
  induction ns with
  | nil => exact .nil
  | cons n rest ih =>
      obtain ⟨⟨hsound, hknown⟩, hrest⟩ := List.forall_mem_cons.mp h
      exact .sound hsound hknown (ih hrest)

theorem Faultless.levelled {n : Node} (h : n.Faultless) : Levelled n.visited [] :=
  levelled_of_sound h.visited

/-- A node of an open kind that needs nothing leaves the levels below it as they are. -/
theorem levelled_of_children {n : Node} (e : Element)
    (he : e ∉ demandingElements ++ closedElements) (hkind : n.is e) {levels : List Int64}
    (h : Levelled (n.children.flatMap visited) levels) : Levelled n.visited levels := by
  rw [List.mem_append, not_or] at he
  have hopen : n.isClosed = false := (any_is hkind closedElements).trans (decide_eq_false he.2)
  rw [visited_of_open hopen]
  exact .sound (isSound_undemanding he.1 hkind) (losses_of_is hkind) h

theorem levelled_heading {level : Int64} {children : List Node}
    (h : ∀ child ∈ children, child.Faultless) :
    Levelled (heading level children).visited [level] := by
  have hbelow : Levelled (children.flatMap visited) [] := by
    apply levelled_of_sound
    intro n hn
    obtain ⟨child, hchild, hn⟩ := List.mem_flatMap.mp hn
    exact (h child hchild).visited n hn
  have hkind : (heading level children).is .heading := rfl
  have hopen : (heading level children).isClosed = false := any_is hkind closedElements
  have hlevel : (heading level children).properties.get? PropertyKey.level =
      some (.number level) := by
    simp [heading, Properties.get?_set]
  rw [visited_of_open hopen]
  exact .heading hkind hlevel hbelow

end Node

namespace Draft

open Node

theorem faultless_withOptional {n : Node} (h : n.Faultless) {key : String}
    (hkey : key ∉ [PropertyKey.level, PropertyKey.url, PropertyKey.content])
    (value : Option String) : (withOptional key value n).Faultless := by
  cases value with
  | none => exact h
  | some value => exact h.withProperty hkey _

mutual

theorem Inline.faultless_toNode : ∀ i : Inline, i.toNode.Faultless
  | .text content | .code content => faultless_ofContent (by decide) content
  | .emphasis content | .strong content | .strikeout content =>
      faultless_ofElement (by decide) (Inline.faultless_toNodes content)
  | .link url title shown =>
      faultless_withOptional
        (faultless_withUrl (.inl rfl) url (Inline.faultless_toNodes shown)) (by decide) title
  | .image url alt title =>
      faultless_withOptional
        ((faultless_withUrl (.inr rfl) url (by simp)).withProperty (by decide) _) (by decide) title
  | .lineBreak | .softBreak => faultless_ofElement (by decide) (by simp)

theorem Inline.faultless_toNodes :
    ∀ content : List Inline, ∀ n ∈ Inline.toNodes content, n.Faultless
  | [] => by simp [Inline.toNodes]
  | i :: rest =>
      List.forall_mem_cons.mpr ⟨Inline.faultless_toNode i, Inline.faultless_toNodes rest⟩

end

theorem Row.faultless_toNode (row : Row) : row.toNode.Faultless := by
  apply faultless_ofElement (by decide)
  intro cell hcell
  obtain ⟨content, -, rfl⟩ := List.mem_map.mp hcell
  exact (faultless_ofElement (by decide) (Inline.faultless_toNodes content)).withProperty
    (by decide) _

theorem faultless_tableSection {e : Element} (he : e ∉ demandingElements) (rows : List Row) :
    ∀ n ∈ tableSection e rows, n.Faultless := by
  intro n hn
  rw [tableSection] at hn
  split at hn
  · simp at hn
  · rw [List.mem_singleton.mp hn]
    apply faultless_ofElement he
    intro child hchild
    obtain ⟨row, -, rfl⟩ := List.mem_map.mp hchild
    exact row.faultless_toNode

theorem faultless_tableNode (rows : List Row) : (tableNode rows).Faultless := by
  apply faultless_ofElement (by decide)
  intro n hn
  rcases List.mem_append.mp hn with hn | hn
  · exact faultless_tableSection (by decide) _ n hn
  · exact faultless_tableSection (by decide) _ n hn

mutual

theorem Block.levelled_toNode : ∀ b : Block, b.isOwn → Levelled b.toNode.visited b.levels
  | .heading level content, _ => levelled_heading (Inline.faultless_toNodes content)
  | .paragraph content, _ =>
      (faultless_ofElement (by decide) (Inline.faultless_toNodes content)).levelled
  | .code content language, _ =>
      (faultless_withOptional (faultless_ofContent (by decide) content) (by decide)
        language).levelled
  | .quote blocks, h => by
      rw [Block.isOwn] at h
      exact levelled_of_children .quote (by decide) rfl (Block.levelled_toNodes blocks h)
  | .list _ items, h => by
      rw [Block.isOwn] at h
      exact levelled_of_children .list (by decide) rfl (Item.levelled_toNodes items h)
  | .rule, _ => (faultless_ofElement (by decide) (by simp)).levelled
  | .table rows, _ => (faultless_tableNode rows).levelled
  | .raw content, _ => (faultless_ofContent (by decide) content).levelled
  | .node _, h => by simp [Block.isOwn] at h

theorem Block.levelled_toNodes :
    ∀ blocks : List Block, Block.areOwn blocks →
      Levelled ((Block.toNodes blocks).flatMap visited) (Block.levelsOf blocks)
  | [], _ => .nil
  | b :: rest, h => by
      rw [Block.areOwn, Bool.and_eq_true] at h
      exact (Block.levelled_toNode b h.1).append (Block.levelled_toNodes rest h.2)

theorem Item.levelled_toNode : ∀ i : Item, i.isOwn → Levelled i.toNode.visited i.levels
  | .ofInlines content, _ =>
      (faultless_ofElement (by decide) (Inline.faultless_toNodes content)).levelled
  | .ofBlocks blocks, h => by
      rw [Item.isOwn] at h
      exact levelled_of_children .listItem (by decide) rfl (Block.levelled_toNodes blocks h)

theorem Item.levelled_toNodes :
    ∀ items : List Item, Item.areOwn items →
      Levelled ((Item.toNodes items).flatMap visited) (Item.levelsOf items)
  | [], _ => .nil
  | i :: rest, h => by
      rw [Item.areOwn, Bool.and_eq_true] at h
      exact (Item.levelled_toNode i h.1).append (Item.levelled_toNodes rest h.2)

end

theorem levelled_document {blocks : List Block} (h : Block.areOwn blocks) :
    Levelled (document blocks).root.visited (Block.levelsOf blocks) :=
  levelled_of_children .document (by decide) rfl (Block.levelled_toNodes blocks h)

/-- A drafted document is written by every renderer if all levels are accepted, and by none if one
is not. -/
theorem render_document_of_levels {blocks : List Block} (h : Block.areOwn blocks) (r : Renderer) :
    match (Block.levelsOf blocks).find? (!isLevel ·) with
    | none => ∃ text, (document blocks).render r = .ok (.exact text)
    | some level => (document blocks).render r = .error (levelError level) := by
  cases hfirst : (Block.levelsOf blocks).find? (!isLevel ·) with
  | none =>
      have hlevels : (Block.levelsOf blocks).all isLevel := by
        rw [List.all_eq_true]
        simpa using List.find?_eq_none.mp hfirst
      exact exists_render_of_sound ((levelled_document h).sound_of_levels hlevels) r
  | some level => exact render_eq_error_iff.mpr ((levelled_document h).firstBreak hfirst)

/-- A document that is drafted without nodes from elsewhere can fail by the levels of its headings
and by nothing else. It is emitted, and without a warning, if and only if all of them are accepted;
otherwise the first heading, in the order in which they are drafted, whose level is not accepted is
reported. -/
theorem drafts_fail_by_levels (options : Confluence.Options) {blocks : List Block}
    (hown : Block.areOwn blocks) :
    ((∃ bytes, Confluence.emit options (document blocks) = .ok (.exact bytes)) ↔
        ∀ level ∈ Block.levelsOf blocks, isLevel level) ∧
      ∀ level, (Block.levelsOf blocks).find? (!isLevel ·) = some level →
        Confluence.emit options (document blocks) = .error (levelError level) := by
  have hrender := render_document_of_levels hown (Confluence.renderer options)
  have hnone : (Block.levelsOf blocks).find? (!isLevel ·) = none ↔
      ∀ level ∈ Block.levelsOf blocks, isLevel level := by
    simp
  cases hfirst : (Block.levelsOf blocks).find? (!isLevel ·) with
  | none =>
      rw [hfirst] at hrender
      obtain ⟨text, htext⟩ := hrender
      have hemit : Confluence.emit options (document blocks) = .ok (.exact (Utf8.encode text)) := by
        rw [Confluence.emit, Confluence.render, htext]
        rfl
      exact ⟨iff_of_true ⟨_, hemit⟩ (hnone.mp hfirst), by simp⟩
  | some level =>
      rw [hfirst] at hrender
      have hemit : Confluence.emit options (document blocks) = .error (levelError level) := by
        rw [Confluence.emit, Confluence.render, hrender]
        rfl
      refine ⟨iff_of_false (by simp [hemit]) ?_, by simpa using hemit⟩
      rw [← hnone, hfirst]
      simp

/-- Headings in a quote and in a list item, the second of which has no level that is accepted,
before one at the top that has none either. -/
theorem drafts_fail_by_levels_nested :
    let blocks : List Block :=
      [.table [⟨false, [[.text "x"]]⟩, ⟨true, [[.link "u" none []]]⟩],
        .quote [.heading 6 [.text "a"]],
        .list true [.ofInlines [.image "i" "" none],
          .ofBlocks [.code "c" none, .quote [.heading 7 [.emphasis [.text "b"]]]]],
        .heading (-1) []]
    Block.areOwn blocks ∧ Block.levelsOf blocks = [6, 7, -1] ∧
      Confluence.emit {} (document blocks) =
        .error (.invalidProperty "heading" "level" "7 is outside 1..=6") := by
  intro blocks
  have hown : Block.areOwn blocks := by decide
  refine ⟨hown, rfl, ?_⟩
  exact (drafts_fail_by_levels {} hown).2 7 (by decide)

end Draft

end WikiMarkup
