import WikiMarkup.Proofs.Markdown.Nesting
import WikiMarkup.Proofs.Rendering.TextRuns

/-!
Where a text is cut into events does not show in the output. Nothing fixes how many events a text is
delivered in, and some of them may hold nothing; so the output may not depend on it. In a well
nested sequence the events of a run of texts stand side by side in one construct. Cutting the run
otherwise changes the nodes in that construct only, and there the run is read as a whole, whatever
the construct makes of it.
-/

namespace WikiMarkup

namespace Markdown

/-- Sequences of events that differ in where their texts are cut. -/
inductive Recut : List SourceEvent → List SourceEvent → Prop where
  | refl (events : List SourceEvent) : Recut events events
  /-- A text is cut in two, or two texts are put together; the bytes they are said to come from are
  left open. -/
  | split (before after : List SourceEvent) (first second : String) (whole left right : Span) :
      Recut (before ++ ⟨.text (first ++ second), whole⟩ :: after)
        (before ++ ⟨.text first, left⟩ :: ⟨.text second, right⟩ :: after)
  /-- A text that holds nothing comes between two events. -/
  | insert (before after : List SourceEvent) (place : Span) :
      Recut (before ++ after) (before ++ ⟨.text "", place⟩ :: after)
  | symm {events others : List SourceEvent} (h : Recut events others) : Recut others events
  | trans {events others third : List SourceEvent} (h : Recut events others)
      (hothers : Recut others third) : Recut events third

/-- One of the texts that a run is cut into, with the bytes that it comes from. -/
structure Cut where
  content : String
  span : Span

def Cut.event (p : Cut) : SourceEvent := ⟨.text p.content, p.span⟩

def Cut.construct (p : Cut) : Construct := .leaf (.text p.content) p.span

/-- The text that a run is cut from. -/
def uncut (run : List Cut) : String := String.join (run.map (·.content))

namespace Construct

/-- Constructs in which some runs of texts are cut otherwise. -/
inductive Regrouped : List Construct → List Construct → Prop where
  | here {run other : List Cut} (h : uncut other = uncut run) (rest : List Construct) :
      Regrouped (run.map Cut.construct ++ rest) (other.map Cut.construct ++ rest)
  | inside {inside inside' : List Construct} (h : Regrouped inside inside') (tag : Tag)
      (opening closing : Span) (rest : List Construct) :
      Regrouped (group tag opening closing inside :: rest)
        (group tag opening closing inside' :: rest)
  | behind {rest rest' : List Construct} (h : Regrouped rest rest') (c : Construct) :
      Regrouped (c :: rest) (c :: rest')
  | trans {cs others third : List Construct} (h : Regrouped cs others)
      (hothers : Regrouped others third) : Regrouped cs third

theorem Regrouped.refl (cs : List Construct) : Regrouped cs cs :=
  @Regrouped.here [] [] rfl cs

theorem eventsOf_run (run : List Cut) :
    eventsOf (run.map Cut.construct) = run.map Cut.event := by
  induction run with
  | nil => rfl
  | cons p rest ih =>
      rw [List.map_cons, List.map_cons, eventsOf, ih]
      rfl

theorem areNested_run_append (run : List Cut) {rest : List Construct} (h : areNested rest) :
    areNested (run.map Cut.construct ++ rest) := by
  induction run with
  | nil => exact h
  | cons p more ih =>
      rw [List.map_cons, List.cons_append, areNested, ih]
      rfl

/-- Constructs whose events begin with a run of texts begin with the run themselves. -/
theorem exists_run_of_eventsOf {cs : List Construct} (hcs : areNested cs) {run : List Cut}
    {after : List SourceEvent} (h : eventsOf cs = run.map Cut.event ++ after) :
    ∃ rest, cs = run.map Cut.construct ++ rest ∧ eventsOf rest = after ∧ areNested rest := by
  induction run generalizing cs with
  | nil => exact ⟨cs, rfl, h, hcs⟩
  | cons p more ih =>
      cases cs with
      | nil => simp [eventsOf] at h
      | cons c others =>
          rw [areNested, Bool.and_eq_true] at hcs
          cases c with
          | group tag opening closing inside => simp [eventsOf, events, Cut.event] at h
          | leaf event span =>
              simp only [eventsOf, events, Cut.event, List.map_cons, List.cons_append,
                List.nil_append, List.cons.injEq, SourceEvent.mk.injEq] at h
              obtain ⟨⟨rfl, rfl⟩, hothers⟩ := h
              obtain ⟨rest, rfl, hrest, hnested⟩ := ih hcs.2 hothers
              exact ⟨rest, rfl, hrest, hnested⟩

theorem stop_not_mem_run (kind : TagKind) (span : Span) (run : List Cut) :
    (⟨.stop kind, span⟩ : SourceEvent) ∉ run.map Cut.event := by
  simp [Cut.event]

/-- A run that does not hold an element stands as a whole before it or behind it. -/
theorem append_eq_append_run {α : Type} {xs ys before run after : List α} {e : α}
    (h : xs ++ e :: ys = before ++ (run ++ after)) (he : e ∉ run) :
    (∃ last, xs = before ++ (run ++ last) ∧ after = last ++ e :: ys) ∨
      ∃ between, before = xs ++ e :: between ∧ ys = between ++ (run ++ after) := by
  rcases List.append_eq_append_iff.mp h with ⟨between, rfl, hbehind⟩ | ⟨rest, rfl, hrest⟩
  · cases between with
    | nil =>
        cases run with
        | nil => exact .inl ⟨[], by simp, by simpa using hbehind.symm⟩
        | cons first more =>
            simp only [List.nil_append, List.cons_append, List.cons.injEq] at hbehind
            exact absurd (by simp [hbehind.1]) he
    | cons first between =>
        simp only [List.cons_append, List.cons.injEq] at hbehind
        obtain ⟨rfl, hbehind⟩ := hbehind
        exact .inr ⟨between, rfl, hbehind⟩
  · rcases List.append_eq_append_iff.mp hrest with ⟨last, rfl, hafter⟩ | ⟨more, rfl, hmore⟩
    · exact .inl ⟨last, rfl, hafter⟩
    · cases more with
      | nil => exact .inl ⟨[], by simp, by simpa using hmore.symm⟩
      | cons first more =>
          simp only [List.cons_append, List.cons.injEq] at hmore
          exact absurd (by simp [hmore.1]) he

/-- A run of texts among the events of constructs is a run in one of these constructs, and can be
replaced there. -/
theorem exists_regrouped (cs : List Construct) (hcs : areNested cs) {run other : List Cut}
    (huncut : uncut other = uncut run) {before after : List SourceEvent}
    (h : eventsOf cs = before ++ (run.map Cut.event ++ after)) :
    ∃ others, areNested others ∧ eventsOf others = before ++ (other.map Cut.event ++ after) ∧
      Regrouped cs others := by
  -- A run at the very front is a run of the list itself.
  have hfront : ∀ (cs : List Construct) (after : List SourceEvent), areNested cs →
      eventsOf cs = run.map Cut.event ++ after →
      ∃ others, areNested others ∧ eventsOf others = other.map Cut.event ++ after ∧
        Regrouped cs others := by
    intro cs after hcs h
    obtain ⟨rest, rfl, rfl, hrest⟩ := exists_run_of_eventsOf hcs h
    refine ⟨other.map Cut.construct ++ rest, areNested_run_append other hrest, ?_,
      .here huncut rest⟩
    rw [eventsOf_append, eventsOf_run]
  induction cs using nestInduction generalizing before after with
  | nil =>
      have hbefore : before = [] := by
        have hempty : before ++ (run.map Cut.event ++ after) = [] := h.symm
        exact (List.append_eq_nil_iff.mp hempty).1
      subst hbefore
      exact hfront [] after hcs h
  | leaf event span more ih =>
      cases before with
      | nil => exact hfront _ after hcs h
      | cons first before =>
          rw [areNested, Bool.and_eq_true] at hcs
          simp only [eventsOf, events, List.cons_append, List.nil_append, List.cons.injEq] at h
          obtain ⟨rfl, hmore⟩ := h
          obtain ⟨others, hnested, hevents, hregrouped⟩ := ih hcs.2 hmore
          refine ⟨leaf event span :: others, ?_, ?_, .behind hregrouped _⟩
          · rw [areNested, hcs.1, hnested]
            rfl
          · simp [eventsOf, events, hevents]
  | group tag opening closing inside more ihinside ihmore =>
      cases before with
      | nil => exact hfront _ after hcs h
      | cons first before =>
          simp only [areNested, isNested, Bool.and_eq_true] at hcs
          obtain ⟨⟨hread, hinside⟩, hmore⟩ := hcs
          simp only [eventsOf, events, List.cons_append, List.append_assoc, List.nil_append,
            List.cons.injEq] at h
          obtain ⟨rfl, h⟩ := h
          rcases append_eq_append_run h (stop_not_mem_run tag.kind closing run) with
            ⟨last, hlast, rfl⟩ | ⟨between, rfl, hbehind⟩
          · obtain ⟨others, hnested, hevents, hregrouped⟩ := ihinside hinside hlast
            refine ⟨group tag opening closing others :: more, ?_, ?_, .inside hregrouped _ _ _ _⟩
            · simp [areNested, isNested, hread, hnested, hmore]
            · simp [eventsOf, events, hevents]
          · obtain ⟨others, hnested, hevents, hregrouped⟩ := ihmore hmore hbehind
            refine ⟨group tag opening closing inside :: others, ?_, ?_, .behind hregrouped _⟩
            · simp [areNested, isNested, hread, hinside, hnested]
            · simp [eventsOf, events, hevents]

end Construct

/-- Whatever constructs have the first events, regrouping them leads to constructs that have the
others. -/
def Reaches (events others : List SourceEvent) : Prop :=
  ∀ cs, Construct.areNested cs → Construct.eventsOf cs = events →
    ∃ cs', Construct.areNested cs' ∧ Construct.eventsOf cs' = others ∧
      Construct.Regrouped cs cs'

theorem Reaches.refl (events : List SourceEvent) : Reaches events events :=
  fun cs hcs hevents => ⟨cs, hcs, hevents, .refl cs⟩

theorem Reaches.trans {events others third : List SourceEvent} (h : Reaches events others)
    (hothers : Reaches others third) : Reaches events third := by
  intro cs hcs hevents
  obtain ⟨between, hbetween, hmiddle, hfirst⟩ := h cs hcs hevents
  obtain ⟨last, hlast, hthird, hsecond⟩ := hothers between hbetween hmiddle
  exact ⟨last, hlast, hthird, hfirst.trans hsecond⟩

theorem reaches_of_uncut {run other : List Cut} (huncut : uncut other = uncut run)
    (before after : List SourceEvent) :
    Reaches (before ++ (run.map Cut.event ++ after))
      (before ++ (other.map Cut.event ++ after)) :=
  fun cs hcs hevents => Construct.exists_regrouped cs hcs huncut hevents

theorem Recut.reaches {events others : List SourceEvent} (h : Recut events others) :
    Reaches events others ∧ Reaches others events := by
  induction h with
  | refl events => exact ⟨.refl events, .refl events⟩
  | split before after first second whole left right =>
      have huncut : uncut [⟨first, left⟩, ⟨second, right⟩] = uncut [⟨first ++ second, whole⟩] := by
        simp [uncut]
      exact ⟨reaches_of_uncut huncut before after, reaches_of_uncut huncut.symm before after⟩
  | insert before after place =>
      have huncut : uncut [⟨"", place⟩] = uncut [] := by
        simp [uncut]
      exact ⟨reaches_of_uncut huncut before after, reaches_of_uncut huncut.symm before after⟩
  | symm _ ih => exact ih.symm
  | trans _ _ ih ihothers => exact ⟨ih.1.trans ihothers.1, ihothers.2.trans ih.2⟩

section Alike

open Node

variable {r : Renderer}

theorem twin_located {n : Node} (hn : n.Faultless) (keepSpans : Bool) (span : Span) :
    Twin r n (located keepSpans span n) := by
  apply Twin.of_children hn (hn.located keepSpans span) <;> simp

/-- Whatever a tag makes of the nodes inside it, it makes twins of lists that are alike. -/
theorem Tag.twin_node? {ns others : List Node} (h : Alike r ns others)
    (hns : ∀ n ∈ ns, n.Faultless) (hothers : ∀ n ∈ others, n.Faultless) {tag : Tag}
    {n other : Node} (hn : tag.node? ns = some n) (hother : tag.node? others = some other) :
    Twin r n other := by
  have hfaultless : n.Faultless := Tag.faultless_node hn hns
  have hfaultless' : other.Faultless := Tag.faultless_node hother hothers
  cases tag <;> simp only [Tag.node?, Option.some.injEq, reduceCtorEq] at hn hother <;>
    subst hn <;> subst hother
  case codeBlock info =>
    rw [h.plain]
    exact .refl _ _
  case htmlBlock =>
    rw [join_contents (r := r), join_contents (r := r), h.read_all]
    exact .refl _ _
  case image url title =>
    rw [h.plain]
    exact .refl _ _
  case table => exact h.twin_tableOfParts hns hothers
  case tableHead =>
    have hrow : Twin r (rowOfCells true ns) (rowOfCells true others) :=
      h.twin_rowOfCells hns hothers true
    exact hrow.alike.twin hfaultless hfaultless' rfl rfl rfl
  case tableRow => exact h.twin_rowOfCells hns hothers false
  case link url title =>
    cases htitle : title.isEmpty <;>
      simp only [Node.withTitle, htitle, if_true, Bool.false_eq_true, if_false]
        at hfaultless hfaultless' ⊢
    · exact Alike.twin h hfaultless hfaultless' rfl rfl rfl
    · exact Alike.twin h hfaultless hfaultless' rfl rfl rfl
  all_goals exact Alike.twin h hfaultless hfaultless' rfl rfl rfl

/-- What a tag makes of lists that are alike is alike, wherever its source is noted. -/
theorem Tag.alike_located {ns others : List Node} (h : Alike r ns others)
    (hns : ∀ n ∈ ns, n.Faultless) (hothers : ∀ n ∈ others, n.Faultless) (tag : Tag)
    (keepSpans keepSpans' : Bool) (span span' : Span) :
    Alike r ((tag.node? ns).map (located keepSpans span)).toList
      ((tag.node? others).map (located keepSpans' span')).toList := by
  have hsome : (tag.node? ns).isSome = (tag.node? others).isSome := by
    cases tag <;> rfl
  cases hn : tag.node? ns <;> cases hn' : tag.node? others <;>
    simp only [hn, hn', Option.isSome_none, Option.isSome_some, reduceCtorEq] at hsome
  · exact .refl _ _
  · have htwin := Tag.twin_node? h hns hothers hn hn'
    have hlocated := twin_located (r := r) (Tag.faultless_node hn hns) keepSpans span
    have hlocated' := twin_located (r := r) (Tag.faultless_node hn' hothers) keepSpans' span'
    exact ((hlocated.symm.trans htwin).trans hlocated').alike

theorem faultless_nodesOf (keepSpans : Bool) (cs : List Construct) :
    ∀ n ∈ Construct.nodesOf keepSpans cs, n.Faultless := by
  induction cs using Construct.nestInduction with
  | nil => simp [Construct.nodesOf]
  | leaf event span rest ih =>
      intro n hn
      rw [Construct.nodesOf, List.mem_append] at hn
      rcases hn with hn | hn
      · exact Event.faultless_located event _ _ n hn
      · exact ih n hn
  | group tag opening closing inside rest ihinside ihrest =>
      intro n hn
      rw [Construct.nodesOf, List.mem_append] at hn
      rcases hn with hn | hn
      · exact Tag.faultless_located ihinside _ _ n hn
      · exact ihrest n hn

/-- The nodes of a run are texts, and hold the text that the run is cut from. -/
theorem isText_nodesOf (htext : ∀ content, r.text content = content) (keepSpans : Bool)
    (run : List Cut) :
    (∀ n ∈ Construct.nodesOf keepSpans (run.map Cut.construct), IsText r n) ∧
      readAll r .content (Construct.nodesOf keepSpans (run.map Cut.construct)) = uncut run := by
  induction run with
  | nil => exact ⟨by simp [Construct.nodesOf], rfl⟩
  | cons p rest ih =>
      have hcontent : (located keepSpans p.span (.text p.content)).properties.getText?
          PropertyKey.content = some p.content := by
        rw [properties_located]
        exact getText?_content_ofContent .text p.content
      have hnode : IsText r (located keepSpans p.span (.text p.content)) := by
        apply isText_of_text htext _ hcontent
        · rw [children_located]
          rfl
        · rw [is, kind_located]
          rfl
      have hnodes : Construct.nodesOf keepSpans ((p :: rest).map Cut.construct) =
          located keepSpans p.span (.text p.content) ::
            Construct.nodesOf keepSpans (rest.map Cut.construct) := rfl
      rw [hnodes]
      refine ⟨by simpa using ⟨hnode, ih.1⟩, ?_⟩
      have hread := ih.2
      simp only [readAll, List.map_cons, String.join_cons, reading, hcontent, Option.getD_some,
        uncut] at hread ⊢
      rw [hread]

theorem nodesOf_append (keepSpans : Bool) (cs others : List Construct) :
    Construct.nodesOf keepSpans (cs ++ others) =
      Construct.nodesOf keepSpans cs ++ Construct.nodesOf keepSpans others := by
  induction cs with
  | nil => rfl
  | cons c rest ih =>
      rw [List.cons_append, Construct.nodesOf, ih, Construct.nodesOf, List.append_assoc]

/-- Regrouped constructs are read as nodes that are alike. -/
theorem Construct.Regrouped.alike (htext : ∀ content, r.text content = content)
    (keepSpans : Bool) {cs others : List Construct} (h : Construct.Regrouped cs others) :
    Alike r (Construct.nodesOf keepSpans cs) (Construct.nodesOf keepSpans others) := by
  induction h with
  | @here run other huncut rest =>
      obtain ⟨hrun, hread⟩ := isText_nodesOf htext keepSpans run
      obtain ⟨hother, hread'⟩ := isText_nodesOf htext keepSpans other
      rw [nodesOf_append, nodesOf_append]
      exact (Alike.of_isText hrun hother (by rw [hread', hread, huncut])).append (.refl _ _)
  | inside _ tag opening closing rest ih =>
      rw [Construct.nodesOf, Construct.nodesOf]
      apply Alike.append _ (.refl _ _)
      exact Tag.alike_located ih (faultless_nodesOf keepSpans _) (faultless_nodesOf keepSpans _)
        tag keepSpans keepSpans ⟨opening.start, closing.stop⟩ ⟨opening.start, closing.stop⟩
  | behind _ c ih =>
      rw [Construct.nodesOf, Construct.nodesOf]
      exact (Alike.refl r _).append ih
  | trans _ _ ih ihothers => exact ih.trans ihothers

end Alike

/-- Output does not depend on where texts are cut. Of two sequences of events that differ in this
only, one of them well nested, both are read and written without error, and the texts written for
them are the same. -/
theorem cuts_do_not_show (options : Confluence.Options) (keepSpans : Bool) (cs : List Construct)
    (hcs : Construct.areNested cs) (events : List SourceEvent)
    (h : Recut (Construct.eventsOf cs) events) :
    ∃ text,
      Confluence.render options (documentOfEvents keepSpans (Construct.eventsOf cs)) =
        .ok (.exact text) ∧
      Confluence.render options (documentOfEvents keepSpans events) = .ok (.exact text) := by
  obtain ⟨others, hothers, rfl, hregrouped⟩ := h.reaches.1 cs hcs rfl
  have halike := hregrouped.alike (r := Confluence.renderer options) (fun _ => rfl) keepSpans
  have hdocument := faultless_documentOfEvents keepSpans (Construct.eventsOf cs)
  have hdocument' := faultless_documentOfEvents keepSpans (Construct.eventsOf others)
  rw [← nodesOfEvents_eventsOf keepSpans hcs, ← nodesOfEvents_eventsOf keepSpans hothers] at halike
  have htwin := Node.Alike.twin halike hdocument hdocument' rfl rfl rfl
  refine ⟨_, hdocument.render_eq_written, ?_⟩
  rw [← htwin.written]
  exact hdocument'.render_eq_written

/-- A text in a header cell cut in two, and an empty text in the table around it, which then has a
body. -/
theorem cuts_do_not_show_table :
    let cs : List Construct :=
      [.around .table ⟨0, 9⟩ [.around .tableHead ⟨1, 8⟩ [.around .tableCell ⟨2, 6⟩
        [.leaf (.text "ab") ⟨3, 5⟩]]]]
    let events : List SourceEvent :=
      [⟨.start .table, ⟨0, 9⟩⟩, ⟨.text "", ⟨1, 1⟩⟩, ⟨.start .tableHead, ⟨1, 8⟩⟩,
        ⟨.start .tableCell, ⟨2, 6⟩⟩, ⟨.text "a", ⟨3, 4⟩⟩, ⟨.text "b", ⟨4, 5⟩⟩,
        ⟨.stop .tableCell, ⟨2, 6⟩⟩, ⟨.stop .tableHead, ⟨1, 8⟩⟩, ⟨.stop .table, ⟨0, 9⟩⟩]
    Construct.areNested cs ∧ Recut (Construct.eventsOf cs) events ∧
      ∃ text,
        Confluence.render {} (documentOfEvents true (Construct.eventsOf cs)) =
          .ok (.exact text) ∧
        Confluence.render {} (documentOfEvents true events) = .ok (.exact text) := by
  intro cs events
  have hcs : Construct.areNested cs := by decide
  have hcut : Recut (Construct.eventsOf cs) events := by
    apply Recut.trans
    · exact .insert [⟨.start .table, ⟨0, 9⟩⟩]
        [⟨.start .tableHead, ⟨1, 8⟩⟩, ⟨.start .tableCell, ⟨2, 6⟩⟩, ⟨.text "ab", ⟨3, 5⟩⟩,
          ⟨.stop .tableCell, ⟨2, 6⟩⟩, ⟨.stop .tableHead, ⟨1, 8⟩⟩, ⟨.stop .table, ⟨0, 9⟩⟩] ⟨1, 1⟩
    · exact .split [⟨.start .table, ⟨0, 9⟩⟩, ⟨.text "", ⟨1, 1⟩⟩, ⟨.start .tableHead, ⟨1, 8⟩⟩,
          ⟨.start .tableCell, ⟨2, 6⟩⟩]
        [⟨.stop .tableCell, ⟨2, 6⟩⟩, ⟨.stop .tableHead, ⟨1, 8⟩⟩, ⟨.stop .table, ⟨0, 9⟩⟩]
        "a" "b" ⟨3, 5⟩ ⟨3, 4⟩ ⟨4, 5⟩
  exact ⟨hcs, hcut, cuts_do_not_show {} true cs hcs events hcut⟩

end Markdown

end WikiMarkup
