import WikiMarkup.Markdown.Construct
import WikiMarkup.Markdown.EventTree

/-!
Reading undoes the writing out of constructs as events. The reader knows no tree: it looks for the
end of a construct by counting starts and ends of one kind, and cuts the events there. Over events
that constructs were written out to, the count passes each construct as a whole, so the cut falls
where the construct ends, whatever comes behind it.
-/

namespace WikiMarkup.Markdown

namespace Construct

/-- Facts about lists of constructs by induction on their first construct. -/
theorem nestInduction {motive : List Construct → Prop} (nil : motive [])
    (leaf : ∀ event span rest, motive rest → motive (leaf event span :: rest))
    (group : ∀ tag opening closing inside rest, motive inside → motive rest →
      motive (group tag opening closing inside :: rest)) (cs : List Construct) : motive cs := by
  -- A construct counts as a step from the list behind it to the list that it heads.
  refine @Construct.rec_1 (fun c => ∀ rest, motive rest → motive (c :: rest)) motive
    ?_ ?_ ?_ ?_ cs
  · exact leaf
  · intro tag opening closing inside hinside rest hrest
    exact group tag opening closing inside rest hinside hrest
  · exact nil
  · intro c rest hc hrest
    exact hc rest hrest

theorem eventsOf_append (cs others : List Construct) :
    eventsOf (cs ++ others) = eventsOf cs ++ eventsOf others := by
  induction cs with
  | nil => rfl
  | cons c rest ih => rw [List.cons_append, eventsOf, eventsOf, ih, List.append_assoc]

mutual

/-- Whether a construct is nested well: every leaf is a single event, and every tag is of a kind
that an end event closes. -/
def isNested : Construct → Bool
  | leaf event _ => event.isSingle
  | group tag _ _ inside => tag.kind.isRead && areNested inside

def areNested : List Construct → Bool
  | [] => true
  | c :: rest => isNested c && areNested rest

end

theorem areNested_iff {cs : List Construct} : areNested cs ↔ ∀ c ∈ cs, c.isNested := by
  induction cs with
  | nil => simp [areNested]
  | cons c rest ih => rw [areNested, Bool.and_eq_true, ih, List.forall_mem_cons]

mutual

/-- Whether a construct is made of single events and of tags that each have an end event; the tags
may be of kinds that are not read. -/
def isPaired : Construct → Bool
  | leaf event _ => event.isSingle
  | group _ _ _ inside => arePaired inside

def arePaired : List Construct → Bool
  | [] => true
  | c :: rest => isPaired c && arePaired rest

end

theorem arePaired_of_areNested {cs : List Construct} (h : areNested cs) : arePaired cs := by
  induction cs using nestInduction with
  | nil => rfl
  | leaf event span rest ih =>
      simp only [areNested, isNested, Bool.and_eq_true] at h
      simp only [arePaired, isPaired, h.1, ih h.2, Bool.and_self]
  | group tag opening closing inside rest ihinside ihrest =>
      simp only [areNested, isNested, Bool.and_eq_true] at h
      simp only [arePaired, isPaired, ihinside h.1.2, ihrest h.2, Bool.and_self]

mutual

/-- What is left of a construct when all constructs of some kinds are taken out. -/
def without (drop : TagKind → Bool) : Construct → List Construct
  | leaf event span => [leaf event span]
  | group tag opening closing inside =>
      if drop tag.kind then [] else [group tag opening closing (withoutAll drop inside)]

def withoutAll (drop : TagKind → Bool) : List Construct → List Construct
  | [] => []
  | c :: rest => without drop c ++ withoutAll drop rest

end

mutual

/-- The node of a construct: that of its event, or one node around the nodes of what stands inside,
from the start of its first to the stop of its last event. -/
def node? (keepSpans : Bool) : Construct → Option Node
  | leaf event span => event.node?.map (located keepSpans span)
  | group tag opening closing inside =>
      (tag.node? (nodesOf keepSpans inside)).map
        (located keepSpans ⟨opening.start, closing.stop⟩)

def nodesOf (keepSpans : Bool) : List Construct → List Node
  | [] => []
  | c :: rest => (node? keepSpans c).toList ++ nodesOf keepSpans rest

end

end Construct

theorem closingIndex?_pass {kind : TagKind} {e : SourceEvent} (hopens : e.opens kind = false)
    (hcloses : e.closes kind = false) (depth : Nat) (rest : List SourceEvent) :
    closingIndex? kind depth (e :: rest) = (closingIndex? kind depth rest).map (· + 1) := by
  simp [closingIndex?, hopens, hcloses]

theorem closingIndex?_open {kind : TagKind} {e : SourceEvent} (hopens : e.opens kind = true)
    (depth : Nat) (rest : List SourceEvent) :
    closingIndex? kind depth (e :: rest) = (closingIndex? kind (depth + 1) rest).map (· + 1) := by
  simp [closingIndex?, hopens]

theorem closingIndex?_close {kind : TagKind} {e : SourceEvent} (hopens : e.opens kind = false)
    (hcloses : e.closes kind = true) (depth : Nat) (rest : List SourceEvent) :
    closingIndex? kind (depth + 1) (e :: rest) = (closingIndex? kind depth rest).map (· + 1) := by
  simp [closingIndex?, hopens, hcloses]

theorem closingIndex?_end {kind : TagKind} {e : SourceEvent} (hopens : e.opens kind = false)
    (hcloses : e.closes kind = true) (rest : List SourceEvent) :
    closingIndex? kind 0 (e :: rest) = some 0 := by
  simp [closingIndex?, hopens, hcloses]

/-- The count for a kind that is read comes out of constructs at the depth at which it went in. The
depth is arbitrary, since inside a construct of the counted kind it is one more than around it. -/
theorem closingIndex?_eventsOf {kind : TagKind} (hread : kind.isRead) (cs : List Construct)
    (hcs : Construct.arePaired cs) (depth : Nat) (rest : List SourceEvent) :
    closingIndex? kind depth (Construct.eventsOf cs ++ rest) =
      (closingIndex? kind depth rest).map (· + (Construct.eventsOf cs).length) := by
  induction cs using Construct.nestInduction generalizing depth rest with
  | nil => simp [Construct.eventsOf]
  | leaf event span more ih =>
      simp only [Construct.arePaired, Construct.isPaired, Bool.and_eq_true] at hcs
      obtain ⟨hevent, hmore⟩ := hcs
      have hopens : SourceEvent.opens kind ⟨event, span⟩ = false := by
        cases event <;> simp_all [SourceEvent.opens, Event.isSingle]
      have hcloses : SourceEvent.closes kind ⟨event, span⟩ = false := by
        cases event <;> simp_all [SourceEvent.closes, Event.isSingle]
      simp only [Construct.eventsOf, Construct.events, List.cons_append, List.nil_append]
      rw [closingIndex?_pass hopens hcloses, ih hmore, Option.map_map]
      rfl
  | group tag opening closing inside more ihinside ihmore =>
      simp only [Construct.arePaired, Construct.isPaired, Bool.and_eq_true] at hcs
      obtain ⟨hinside, hmore⟩ := hcs
      have hlength : ∀ n, n + (Construct.eventsOf more).length + 1 +
          (Construct.eventsOf inside).length + 1 =
            n + (Construct.eventsOf (.group tag opening closing inside :: more)).length := by
        intro n
        simp only [Construct.eventsOf, Construct.events, List.length_append, List.length_cons,
          List.length_nil]
        omega
      have hstop : SourceEvent.opens kind ⟨.stop tag.kind, closing⟩ = false := rfl
      simp only [Construct.eventsOf, Construct.events, List.cons_append, List.nil_append,
        List.append_assoc] at hlength ⊢
      -- A tag of the counted kind raises the depth by one and lowers it again; one of another kind
      -- is passed over at both ends.
      by_cases hkind : tag.kind = kind
      · have hopens : SourceEvent.opens kind ⟨.start tag, opening⟩ = true := by
          simpa [SourceEvent.opens] using hkind
        have hcloses : SourceEvent.closes kind ⟨.stop tag.kind, closing⟩ = true := by
          simpa [SourceEvent.closes, hkind] using hread
        rw [closingIndex?_open hopens, ihinside hinside, closingIndex?_close hstop hcloses,
          ihmore hmore]
        simp only [Option.map_map, Function.comp_def, hlength]
      · have hopens : SourceEvent.opens kind ⟨.start tag, opening⟩ = false := by
          simpa [SourceEvent.opens] using hkind
        have hcloses : SourceEvent.closes kind ⟨.stop tag.kind, closing⟩ = false := by
          simp [SourceEvent.closes, hkind]
        rw [closingIndex?_pass hopens rfl, ihinside hinside, closingIndex?_pass hstop hcloses,
          ihmore hmore]
        simp only [Option.map_map, Function.comp_def, hlength]

/-- The end of a construct is found right behind what stands inside it. -/
theorem closingIndex_eventsOf {kind : TagKind} (hread : kind.isRead) {cs : List Construct}
    (hcs : Construct.arePaired cs) (closing : Span) (rest : List SourceEvent) :
    closingIndex kind (Construct.eventsOf cs ++ ⟨.stop kind, closing⟩ :: rest) =
      (Construct.eventsOf cs).length := by
  have hcloses : SourceEvent.closes kind ⟨.stop kind, closing⟩ = true := by
    simpa [SourceEvent.closes] using hread
  simp only [closingIndex, closingIndex?_eventsOf hread cs hcs, closingIndex?_end rfl hcloses,
    Option.map_some, Option.getD_some, Nat.zero_add]

/-- A construct of a kind that is read is read whole, and nothing behind it with it. -/
theorem nodesOfEvents_group (keepSpans : Bool) {tag : Tag} (hread : tag.kind.isRead)
    {inside : List Construct} (hinside : Construct.arePaired inside) (opening closing : Span)
    (rest : List SourceEvent) :
    nodesOfEvents keepSpans
        (Construct.events (.group tag opening closing inside) ++ rest) =
      ((tag.node? (nodesOfEvents keepSpans (Construct.eventsOf inside))).map
        (located keepSpans ⟨opening.start, closing.stop⟩)).toList ++
          nodesOfEvents keepSpans rest := by
  simp only [Construct.events, List.cons_append, List.append_assoc, List.nil_append]
  rw [nodesOfEvents_start, closingIndex_eventsOf hread hinside]
  simp

theorem nodesOfEvents_append (keepSpans : Bool) (cs : List Construct)
    (hcs : Construct.areNested cs) (rest : List SourceEvent) :
    nodesOfEvents keepSpans (Construct.eventsOf cs ++ rest) =
      Construct.nodesOf keepSpans cs ++ nodesOfEvents keepSpans rest := by
  induction cs using Construct.nestInduction generalizing rest with
  | nil => simp [Construct.eventsOf, Construct.nodesOf]
  | leaf event span more ih =>
      simp only [Construct.areNested, Construct.isNested, Bool.and_eq_true] at hcs
      simp only [Construct.eventsOf, Construct.events, Construct.nodesOf, Construct.node?,
        List.cons_append, List.nil_append, List.append_assoc]
      rw [nodesOfEvents_leaf _ hcs.1, ih hcs.2]
  | group tag opening closing inside more ihinside ihmore =>
      simp only [Construct.areNested, Construct.isNested, Bool.and_eq_true] at hcs
      obtain ⟨⟨hread, hinside⟩, hmore⟩ := hcs
      have hnodes : nodesOfEvents keepSpans (Construct.eventsOf inside) =
          Construct.nodesOf keepSpans inside := by
        simpa using ihinside hinside []
      rw [Construct.eventsOf, List.append_assoc,
        nodesOfEvents_group keepSpans hread (Construct.arePaired_of_areNested hinside),
        hnodes, ihmore hmore, Construct.nodesOf, Construct.node?, List.append_assoc]

/-- Events that constructs were written out to describe the nodes of the constructs. -/
theorem nodesOfEvents_eventsOf (keepSpans : Bool) {cs : List Construct}
    (hcs : Construct.areNested cs) :
    nodesOfEvents keepSpans (Construct.eventsOf cs) = Construct.nodesOf keepSpans cs := by
  simpa using nodesOfEvents_append keepSpans cs hcs []

theorem Tag.node?_isSome {tag : Tag} (hread : tag.kind.isRead) (children : List Node) :
    ∃ n, tag.node? children = some n := by
  cases tag
  case footnoteDefinition | definitionList | definitionTitle | definitionText | metadata =>
    simp [Tag.kind, TagKind.isRead] at hread
  all_goals exact ⟨_, rfl⟩

/-- Reading constructs written out as events gives the nodes of the constructs, in front of what any
further events give; a well nested tag is read as one node, with the bytes from the start of its
start event to the stop of its end event. -/
theorem reading_is_compositional (keepSpans : Bool) (cs : List Construct)
    (hcs : Construct.areNested cs) :
    (∀ rest, nodesOfEvents keepSpans (Construct.eventsOf cs ++ rest) =
      Construct.nodesOf keepSpans cs ++ nodesOfEvents keepSpans rest) ∧
      ∀ tag opening closing inside, (Construct.group tag opening closing inside).isNested →
        ∃ n, Construct.node? keepSpans (.group tag opening closing inside) = some n ∧
          (keepSpans = true → n.span = some ⟨opening.start, closing.stop⟩) := by
  refine ⟨nodesOfEvents_append keepSpans cs hcs, ?_⟩
  intro tag opening closing inside hnested
  simp only [Construct.isNested, Bool.and_eq_true] at hnested
  obtain ⟨n, hn⟩ := Tag.node?_isSome hnested.1 (Construct.nodesOf keepSpans inside)
  refine ⟨located keepSpans ⟨opening.start, closing.stop⟩ n, by simp [Construct.node?, hn], ?_⟩
  intro hkeep
  simp [located, hkeep]

/-- Quotes in a quote, one of them a note, before an end event that closes nothing. -/
theorem reading_is_compositional_quotes :
    let text : Construct := .leaf (.text "a") ⟨2, 3⟩
    let quotes : List Construct :=
      [.group (.blockQuote false) ⟨0, 9⟩ ⟨5, 9⟩
        [.group (.blockQuote true) ⟨1, 4⟩ ⟨3, 4⟩ [text],
          .group (.blockQuote false) ⟨4, 5⟩ ⟨4, 5⟩ []]]
    let rest : List SourceEvent := [⟨.stop .blockQuote, ⟨9, 9⟩⟩, ⟨.text "b", ⟨9, 10⟩⟩]
    Construct.areNested quotes ∧
      nodesOfEvents true (Construct.eventsOf quotes ++ rest) =
        Construct.nodesOf true quotes ++ nodesOfEvents true rest := by
  intro text quotes rest
  have hquotes : Construct.areNested quotes := by decide
  exact ⟨hquotes, (reading_is_compositional true quotes hquotes).1 rest⟩

end WikiMarkup.Markdown
