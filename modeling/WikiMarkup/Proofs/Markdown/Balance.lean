import Mathlib.Order.Nat
import WikiMarkup.Proofs.Markdown.Nesting

/-!
Where a construct ends, told without the walk that looks for it. Of the events behind a start only
those of its own kind count: the end is the first end event of this kind in front of which as many
constructs of the kind were ended as were started. The walk carries how many are open, and each
event of the kind moves this number by one, so it meets the end exactly where the two counts agree.
-/

namespace WikiMarkup.Markdown

/-- How many constructs of a kind the events start. -/
def startCount (kind : TagKind) (events : List SourceEvent) : Nat := events.countP (·.opens kind)

/-- How many end events of a kind there are. -/
def stopCount (kind : TagKind) (events : List SourceEvent) : Nat :=
  events.countP (·.event = .stop kind)

/-- At an index stands an end event of the kind, and the events before it end as many constructs of
the kind as they start and as were open before them. -/
structure EndsAt (kind : TagKind) (depth : Nat) (events : List SourceEvent) (i : Nat) : Prop where
  stops : ∃ span, events[i]? = some ⟨.stop kind, span⟩
  balanced : depth + startCount kind (events.take i) = stopCount kind (events.take i)

theorem closes_iff {kind : TagKind} (hread : kind.isRead) {e : SourceEvent} :
    e.closes kind ↔ e.event = .stop kind := by
  obtain ⟨event, span⟩ := e
  cases event <;> simp [SourceEvent.closes, hread]

theorem opens_eq_false_of_stop {kind : TagKind} {e : SourceEvent} (h : e.event = .stop kind) :
    e.opens kind = false := by
  rw [SourceEvent.opens, h]

section Cons

variable {kind : TagKind} {depth : Nat} {e : SourceEvent} {rest : List SourceEvent}

theorem endsAt_zero_iff : EndsAt kind depth (e :: rest) 0 ↔ e.event = .stop kind ∧ depth = 0 := by
  obtain ⟨event, span⟩ := e
  constructor
  · rintro ⟨⟨span', hstop⟩, hbalanced⟩
    exact ⟨by simpa using congrArg (Option.map (·.event)) hstop, hbalanced⟩
  · rintro ⟨rfl, rfl⟩
    exact ⟨⟨span, rfl⟩, rfl⟩

/-- One event further in, the balance is struck from the depth behind the first event. -/
theorem endsAt_succ_iff {depth' : Nat}
    (h : depth + (if e.opens kind then 1 else 0) =
      depth' + if e.event = .stop kind then 1 else 0) (i : Nat) :
    EndsAt kind depth (e :: rest) (i + 1) ↔ EndsAt kind depth' rest i := by
  have hstarts : startCount kind ((e :: rest).take (i + 1)) =
      startCount kind (rest.take i) + if e.opens kind then 1 else 0 := by
    rw [List.take_succ_cons, startCount, List.countP_cons]
    rfl
  have hstops : stopCount kind ((e :: rest).take (i + 1)) =
      stopCount kind (rest.take i) + if e.event = .stop kind then 1 else 0 := by
    rw [List.take_succ_cons, stopCount, List.countP_cons]
    simp only [decide_eq_true_eq]
    rfl
  constructor
  · rintro ⟨hstop, hbalanced⟩
    rw [hstarts, hstops] at hbalanced
    exact ⟨hstop, by omega⟩
  · rintro ⟨hstop, hbalanced⟩
    refine ⟨hstop, ?_⟩
    rw [hstarts, hstops]
    omega

end Cons

/-- The least of some indices that do not begin with the first is one further than it is counted
from the second. -/
theorem isLeast_succ_iff {s t : Set Nat} (hzero : 0 ∉ s) (hsucc : ∀ i, i + 1 ∈ s ↔ i ∈ t)
    (i : Nat) : IsLeast s (i + 1) ↔ IsLeast t i := by
  constructor
  · rintro ⟨hmem, hleast⟩
    exact ⟨(hsucc i).mp hmem, fun j hj => Nat.le_of_succ_le_succ (hleast ((hsucc j).mpr hj))⟩
  · rintro ⟨hmem, hleast⟩
    refine ⟨(hsucc i).mpr hmem, ?_⟩
    intro j hj
    cases j with
    | zero => exact absurd hj hzero
    | succ j => exact Nat.succ_le_succ (hleast ((hsucc j).mp hj))

/-- The walk finds the first end at which the counts agree. The depth is arbitrary, since it is what
an event of the kind changes. -/
theorem closingIndex?_eq_some_iff {kind : TagKind} (hread : kind.isRead) {depth : Nat}
    {events : List SourceEvent} {i : Nat} :
    closingIndex? kind depth events = some i ↔ IsLeast {j | EndsAt kind depth events j} i := by
  induction events generalizing depth i with
  | nil =>
      have hnone : ¬ EndsAt kind depth [] i := by
        rintro ⟨⟨span, hstop⟩, -⟩
        simp at hstop
      exact iff_of_false (by simp [closingIndex?]) fun h => hnone h.1
  | cons e rest ih =>
      -- Wherever the count goes on, no end stands at the event itself.
      have hfurther : ∀ depth', ¬ EndsAt kind depth (e :: rest) 0 →
          (∀ j, EndsAt kind depth (e :: rest) (j + 1) ↔ EndsAt kind depth' rest j) →
            ((closingIndex? kind depth' rest).map (· + 1) = some i ↔
              IsLeast {j | EndsAt kind depth (e :: rest) j} i) := by
        intro depth' hzero hsucc
        cases i with
        | zero =>
            refine iff_of_false ?_ fun h => hzero h.1
            simp
        | succ i =>
            rw [isLeast_succ_iff (s := {j | EndsAt kind depth (e :: rest) j})
              (t := {j | EndsAt kind depth' rest j}) hzero hsucc, ← ih]
            simp
      by_cases hstop : e.event = .stop kind
      · have hopens := opens_eq_false_of_stop hstop
        have hcloses := (closes_iff hread).mpr hstop
        cases depth with
        | zero =>
            have hend : EndsAt kind 0 (e :: rest) 0 := endsAt_zero_iff.mpr ⟨hstop, rfl⟩
            rw [closingIndex?_end hopens hcloses, Option.some.injEq]
            constructor
            · rintro rfl
              exact ⟨hend, fun j _ => Nat.zero_le j⟩
            · rintro ⟨-, hleast⟩
              exact (Nat.le_zero.mp (hleast hend)).symm
        | succ depth =>
            rw [closingIndex?_close hopens hcloses]
            refine hfurther depth ?_ (endsAt_succ_iff ?_)
            · simp [endsAt_zero_iff]
            · rw [hopens, if_neg Bool.false_ne_true, if_pos hstop]
      · have hzero : ¬ EndsAt kind depth (e :: rest) 0 := fun h => hstop (endsAt_zero_iff.mp h).1
        cases hopens : e.opens kind with
        | true =>
            rw [closingIndex?_open hopens]
            refine hfurther (depth + 1) hzero (endsAt_succ_iff ?_)
            rw [hopens, if_pos rfl, if_neg hstop]
        | false =>
            have hcloses : e.closes kind = false :=
              Bool.eq_false_iff.mpr fun h => hstop ((closes_iff hread).mp h)
            rw [closingIndex?_pass hopens hcloses]
            refine hfurther depth hzero (endsAt_succ_iff ?_)
            rw [hopens, if_neg Bool.false_ne_true, if_neg hstop]

theorem closingIndex?_eq_none_iff {kind : TagKind} (hread : kind.isRead) {depth : Nat}
    {events : List SourceEvent} :
    closingIndex? kind depth events = none ↔ ∀ i, ¬ EndsAt kind depth events i := by
  classical
  constructor
  · intro hnone i hend
    have hleast := Nat.isLeast_find ⟨i, hend⟩
    rw [(closingIndex?_eq_some_iff hread).mpr hleast] at hnone
    simp at hnone
  · intro hends
    rw [Option.eq_none_iff_forall_ne_some]
    intro i hsome
    exact hends i ((closingIndex?_eq_some_iff hread).mp hsome).1

/-- The end of a construct of a kind that is read is the first end event of its kind in front of
which the starts and the ends of the kind balance, however other tags cross it. Where there is none
it is the last event, or the index zero if nothing follows. So it stands right behind what is well
nested inside, whatever comes after it. -/
theorem constructs_end_in_balance (tag : Tag) (hread : tag.kind.isRead)
    (events : List SourceEvent) :
    (∀ i, EndsAt tag.kind 0 events i →
      IsLeast {j | EndsAt tag.kind 0 events j} (closingIndex tag.kind events)) ∧
    ((∀ i, ¬ EndsAt tag.kind 0 events i) →
      events = [] ∧ closingIndex tag.kind events = 0 ∨
        closingIndex tag.kind events + 1 = events.length) ∧
    ∀ inside closing rest, Construct.arePaired inside →
      events = Construct.eventsOf inside ++ ⟨.stop tag.kind, closing⟩ :: rest →
        closingIndex tag.kind events = (Construct.eventsOf inside).length := by
  refine ⟨?_, ?_, ?_⟩
  · intro i hend
    cases hclose : closingIndex? tag.kind 0 events with
    | none => exact absurd hend ((closingIndex?_eq_none_iff hread).mp hclose i)
    | some j =>
        rw [closingIndex, hclose, Option.getD_some]
        exact (closingIndex?_eq_some_iff hread).mp hclose
  · intro hends
    have hclose := (closingIndex?_eq_none_iff hread).mpr hends
    rw [closingIndex, hclose, Option.getD_none]
    cases events with
    | nil => exact .inl ⟨rfl, rfl⟩
    | cons e rest => exact .inr rfl
  · rintro inside closing rest hinside rfl
    exact closingIndex_eventsOf hread hinside closing rest

/-- Emphasis in emphasis, with a strong tag that is not closed inside it and one end too many. -/
theorem constructs_end_in_balance_crossed :
    let e (event : Event) : SourceEvent := ⟨event, ⟨0, 0⟩⟩
    let events := [e (.stop .strong), e (.start .strong), e (.start .emphasis), e (.stop .strong),
      e (.stop .emphasis), e (.stop .emphasis), e (.stop .emphasis)]
    Tag.kind .emphasis = .emphasis ∧ TagKind.isRead .emphasis ∧ EndsAt .emphasis 0 events 5 ∧
      IsLeast {j | EndsAt .emphasis 0 events j} (closingIndex .emphasis events) ∧
        closingIndex .emphasis events = 5 := by
  intro e events
  have hend : EndsAt .emphasis 0 events 5 := ⟨⟨⟨0, 0⟩, rfl⟩, by decide⟩
  exact ⟨rfl, rfl, hend, (constructs_end_in_balance .emphasis rfl events).1 5 hend, by decide⟩

end WikiMarkup.Markdown
