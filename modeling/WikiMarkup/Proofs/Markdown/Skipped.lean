import WikiMarkup.Proofs.Markdown.Nesting

/-!
Constructs that have no place in a document. Footnotes, definitions and metadata are skipped when
events are read, but no end event is known to close them. So from the start of one on nothing is
read of all that stands around it: its own end is passed over, and the construct around it, which is
of a kind that is read, ends where it should.
-/

namespace WikiMarkup.Markdown

theorem closingIndex?_of_not_read {kind : TagKind} (hread : kind.isRead = false) (depth : Nat)
    (events : List SourceEvent) : closingIndex? kind depth events = none := by
  induction events generalizing depth with
  | nil => rfl
  | cons e rest ih =>
      have hcloses : e.closes kind = false := by
        obtain ⟨event, span⟩ := e
        cases event <;> simp [SourceEvent.closes, hread]
      simp [closingIndex?, hcloses, ih]

theorem Tag.node?_of_not_read {tag : Tag} (hread : tag.kind.isRead = false)
    (children : List Node) : tag.node? children = none := by
  cases tag
  case footnoteDefinition | definitionList | definitionTitle | definitionText | metadata => rfl
  all_goals simp [Tag.kind, TagKind.isRead] at hread

/-- Behind the start of a construct that is not read nothing is read, whatever the events are. -/
theorem nodesOfEvents_of_not_read (keepSpans : Bool) {tag : Tag}
    (hread : tag.kind.isRead = false) (span : Span) (rest : List SourceEvent) :
    nodesOfEvents keepSpans (⟨.start tag, span⟩ :: rest) = [] := by
  have hclose : closingIndex tag.kind rest = rest.length - 1 := by
    rw [closingIndex, closingIndex?_of_not_read hread, Option.getD_none]
  have hbehind : rest.drop (closingIndex tag.kind rest + 1) = [] :=
    List.drop_eq_nil_of_le (by omega)
  rw [nodesOfEvents_start, Tag.node?_of_not_read hread, hbehind, nodesOfEvents_nil]
  rfl

namespace Construct

/-- Whether a construct is of a kind that is not read. -/
def isSkipped : Construct → Bool
  | leaf _ _ => false
  | group tag _ _ _ => !tag.kind.isRead

mutual

/-- A construct with all cut off from the first skipped construct in it on, and each construct that
is left cut off in the same way. -/
def cut : Construct → Construct
  | leaf event span => leaf event span
  | group tag opening closing inside => group tag opening closing (cutAll inside)

def cutAll : List Construct → List Construct
  | [] => []
  | c :: rest => if c.isSkipped then [] else cut c :: cutAll rest

end

/-- Without the skipped constructs all tags that are left are read. -/
theorem areNested_withoutAll {cs : List Construct} (h : arePaired cs) :
    areNested (withoutAll (!·.isRead) cs) := by
  induction cs using nestInduction with
  | nil => rfl
  | leaf event span rest ih =>
      simp only [arePaired, isPaired, Bool.and_eq_true] at h
      simp only [withoutAll, without, List.singleton_append, areNested, isNested, h.1, ih h.2,
        Bool.and_self]
  | group tag opening closing inside rest ihinside ihrest =>
      simp only [arePaired, isPaired, Bool.and_eq_true] at h
      by_cases hread : tag.kind.isRead
      · simp [withoutAll, without, areNested, isNested, hread, ihinside h.1, ihrest h.2]
      · simpa [withoutAll, without, hread] using ihrest h.2

end Construct

/-- Events are read up to the first start of a skipped construct, and not beyond it. -/
theorem nodesOfEvents_cutAll (keepSpans : Bool) {cs : List Construct}
    (hcs : Construct.arePaired cs) (rest : List SourceEvent) :
    nodesOfEvents keepSpans (Construct.eventsOf cs ++ rest) =
      Construct.nodesOf keepSpans (Construct.cutAll cs) ++
        if cs.any Construct.isSkipped then [] else nodesOfEvents keepSpans rest := by
  induction cs using Construct.nestInduction generalizing rest with
  | nil => simp [Construct.eventsOf, Construct.cutAll, Construct.nodesOf]
  | leaf event span more ih =>
      simp only [Construct.arePaired, Construct.isPaired, Bool.and_eq_true] at hcs
      simp only [Construct.eventsOf, Construct.events, List.cons_append, List.nil_append]
      rw [nodesOfEvents_leaf _ hcs.1, ih hcs.2]
      simp [Construct.cutAll, Construct.cut, Construct.isSkipped, Construct.nodesOf,
        Construct.node?]
  | group tag opening closing inside more ihinside ihmore =>
      simp only [Construct.arePaired, Construct.isPaired, Bool.and_eq_true] at hcs
      rw [Construct.eventsOf, List.append_assoc]
      cases hread : tag.kind.isRead with
      | false =>
          rw [Construct.events, List.cons_append, nodesOfEvents_of_not_read keepSpans hread]
          simp [Construct.cutAll, Construct.isSkipped, hread, Construct.nodesOf]
      | true =>
          -- Behind what stands inside there is nothing to be cut off.
          have hnodes : nodesOfEvents keepSpans (Construct.eventsOf inside) =
              Construct.nodesOf keepSpans (Construct.cutAll inside) := by
            simpa using ihinside hcs.1 []
          rw [nodesOfEvents_group keepSpans hread hcs.1, hnodes, ihmore hcs.2]
          simp [Construct.cutAll, Construct.cut, Construct.isSkipped, hread, Construct.nodesOf,
            Construct.node?]

/-- A skipped construct takes with it all that stands behind it inside the construct around it, and
at the top all events behind it. It drops only itself where nothing that is read stands there: then
the same is read as without it. -/
theorem skipped_constructs_take_what_follows (keepSpans : Bool) {cs : List Construct}
    (hcs : Construct.arePaired cs) :
    (∀ rest, nodesOfEvents keepSpans (Construct.eventsOf cs ++ rest) =
      Construct.nodesOf keepSpans (Construct.cutAll cs) ++
        if cs.any Construct.isSkipped then [] else nodesOfEvents keepSpans rest) ∧
      (Construct.cutAll cs = Construct.withoutAll (!·.isRead) cs →
        nodesOfEvents keepSpans (Construct.eventsOf cs) =
          nodesOfEvents keepSpans (Construct.eventsOf (Construct.withoutAll (!·.isRead) cs))) := by
  refine ⟨nodesOfEvents_cutAll keepSpans hcs, ?_⟩
  intro hlast
  have hnodes : nodesOfEvents keepSpans (Construct.eventsOf cs) =
      Construct.nodesOf keepSpans (Construct.cutAll cs) := by
    simpa using nodesOfEvents_cutAll keepSpans hcs []
  rw [hnodes, hlast, nodesOfEvents_eventsOf keepSpans (Construct.areNested_withoutAll hcs)]

/-- A footnote in a quote, with a text on either side of it, and metadata behind the quote; and the
same footnote where it is the last of its quote. -/
theorem skipped_constructs_take_what_follows_quote :
    let footnote : Construct :=
      .group .footnoteDefinition ⟨2, 3⟩ ⟨4, 5⟩ [.leaf (.text "b") ⟨3, 4⟩]
    let quote : Construct := .group (.blockQuote false) ⟨0, 1⟩ ⟨8, 9⟩
      [.leaf (.text "a") ⟨1, 2⟩, footnote, .leaf (.text "c") ⟨5, 6⟩]
    let cs : List Construct := [quote, .group .metadata ⟨9, 10⟩ ⟨10, 11⟩ []]
    let rest : List SourceEvent := [⟨.text "d", ⟨11, 12⟩⟩]
    let closed : List Construct :=
      [.group (.blockQuote false) ⟨0, 1⟩ ⟨5, 6⟩ [.leaf (.text "a") ⟨1, 2⟩, footnote],
        .leaf (.text "d") ⟨6, 7⟩]
    let spared : List Construct :=
      [.group (.blockQuote false) ⟨0, 1⟩ ⟨5, 6⟩ [.leaf (.text "a") ⟨1, 2⟩],
        .leaf (.text "d") ⟨6, 7⟩]
    Construct.arePaired cs ∧
      nodesOfEvents false (Construct.eventsOf cs ++ rest) = [.ofElement .quote [.text "a"]] ∧
      Construct.arePaired closed ∧
      Construct.cutAll closed = Construct.withoutAll (!·.isRead) closed ∧
      nodesOfEvents false (Construct.eventsOf closed) =
        nodesOfEvents false (Construct.eventsOf spared) := by
  intro footnote quote cs rest closed spared
  have hcs : Construct.arePaired cs := by decide
  have hclosed : Construct.arePaired closed := by decide
  have hlast : Construct.cutAll closed = Construct.withoutAll (!·.isRead) closed := rfl
  exact ⟨hcs, (skipped_constructs_take_what_follows false hcs).1 rest, hclosed, hlast,
    (skipped_constructs_take_what_follows false hclosed).2 hlast⟩

/-- A text behind a footnote is read only without the footnote. -/
theorem footnote_takes_text :
    let cs : List Construct :=
      [.group .footnoteDefinition ⟨0, 0⟩ ⟨0, 0⟩ [], .leaf (.text "a") ⟨0, 0⟩]
    Construct.arePaired cs ∧
      nodesOfEvents false (Construct.eventsOf cs) = [] ∧
      nodesOfEvents false (Construct.eventsOf (Construct.withoutAll (!·.isRead) cs)) =
        [.text "a"] := by
  have hfootnote : TagKind.isRead Tag.footnoteDefinition.kind = false := rfl
  refine ⟨by decide, nodesOfEvents_of_not_read false hfootnote _ _, ?_⟩
  change nodesOfEvents false [⟨.text "a", ⟨0, 0⟩⟩] = [.text "a"]
  rw [nodesOfEvents_leaf _ rfl, nodesOfEvents_nil]
  rfl

end WikiMarkup.Markdown
