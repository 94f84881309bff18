import WikiMarkup.Proofs.Markdown.Unclosed

/-!
Reading by indices. Events are also read with an index that moves over one list, with slices cut out
of it, and with a call for the slice inside each construct. Here every index and every slice is
checked against the list that it is taken from, and every such call against the length of the list
it is made from. No check ever fails, the nodes are those that the events describe, and the index
moves on at each round and ends at the end of the list, or one past it behind a start that nothing
follows.
-/

namespace WikiMarkup.Markdown

inductive Fault where
  /-- An index or a slice outside the events it is taken from. -/
  | outOfRange
  /-- Events inside a construct that are no fewer than those the construct was found in. -/
  | notShorter
  deriving DecidableEq

def eventAt (events : List SourceEvent) (i : Nat) : Except Fault SourceEvent :=
  match events[i]? with
  | some e => .ok e
  | none => .error .outOfRange

/-- The events from one index up to another. -/
def slice (events : List SourceEvent) (first stop : Nat) : Except Fault (List SourceEvent) :=
  if first ≤ stop ∧ stop ≤ events.length then .ok (events.extract first stop)
  else .error .outOfRange

/-- What is read at the front of a slice, and how many events are used up for it. -/
structure Step where
  node? : Option Node
  count : Nat

/-- Reads the construct at the front of a slice; what is inside it is read by another reader. -/
def readConstruct (keepSpans : Bool) (readInside : List SourceEvent → Except Fault (List Node))
    (tag : Tag) (events : List SourceEvent) : Except Fault Step := do
  let behind ← slice events 1 events.length
  let close := closingIndex tag.kind behind
  let inside ← slice events 1 (min (close + 1) events.length)
  let children ← readInside inside
  let first ← eventAt events 0
  let stop := (events[close + 1]?.getD first).span.stop
  return ⟨(tag.node? children).map (located keepSpans ⟨first.span.start, stop⟩), close + 2⟩

/-- Reads the construct or the single event at the front of a slice. -/
def readStep (keepSpans : Bool) (readInside : List SourceEvent → Except Fault (List Node))
    (events : List SourceEvent) : Except Fault Step := do
  let first ← eventAt events 0
  match first.event with
  | .start tag => readConstruct keepSpans readInside tag events
  | event => return ⟨event.node?.map (located keepSpans first.span), 1⟩

/-- What the rounds over a list come to: the nodes, how many rounds it took, and the index at which
no round follows. -/
structure Pass where
  nodes : List Node
  rounds : Nat
  stop : Nat

/-- The rounds over a list from an index on. A step that uses up nothing still moves it by one. -/
def readFrom (step : List SourceEvent → Except Fault Step) (events : List SourceEvent) (i : Nat) :
    Except Fault Pass :=
  if i < events.length then do
    let front ← slice events i events.length
    let first ← step front
    let rest ← readFrom step events (i + max first.count 1)
    return ⟨first.node?.toList ++ rest.nodes, rest.rounds + 1, rest.stop⟩
  else return ⟨[], 0, i⟩
  termination_by events.length - i

/-- The rounds over a whole list; inside a construct only a shorter list is read. -/
def readSlices (keepSpans : Bool) (events : List SourceEvent) : Except Fault Pass :=
  readFrom
    (readStep keepSpans fun inside =>
      if inside.length < events.length then (readSlices keepSpans inside).map (·.nodes)
      else .error .notShorter)
    events 0
  termination_by events.length

/-- How a list of events reads what is inside the constructs in it. -/
def readShorter (keepSpans : Bool) (events inside : List SourceEvent) : Except Fault (List Node) :=
  if inside.length < events.length then (readSlices keepSpans inside).map (·.nodes)
  else .error .notShorter

theorem readSlices_eq (keepSpans : Bool) (events : List SourceEvent) :
    readSlices keepSpans events =
      readFrom (readStep keepSpans (readShorter keepSpans events)) events 0 := by
  rw [readSlices]
  rfl

theorem slice_eq_ok {events : List SourceEvent} {first stop : Nat} (hfirst : first ≤ stop)
    (hstop : stop ≤ events.length) :
    slice events first stop = .ok ((events.drop first).take (stop - first)) := by
  rw [slice, if_pos ⟨hfirst, hstop⟩, List.extract_eq_take_drop]

theorem slice_to_end {events : List SourceEvent} {i : Nat} (h : i ≤ events.length) :
    slice events i events.length = .ok (events.drop i) := by
  rw [slice_eq_ok h (Nat.le_refl _), ← List.length_drop, List.take_length]

theorem closingIndex_le (kind : TagKind) (events : List SourceEvent) :
    closingIndex kind events ≤ events.length - 1 := by
  cases hclose : closingIndex? kind 0 events with
  | none => simp only [closingIndex, hclose, Option.getD_none, Nat.le_refl]
  | some i =>
      obtain ⟨inside, closing, behind, rfl, rfl⟩ := exists_of_closingIndex? hclose
      rw [closingIndex_of_some hclose]
      simp

/-- A start that nothing follows. -/
def IsLoneStart (events : List SourceEvent) : Prop := ∃ tag span, events = [⟨.start tag, span⟩]

theorem extent_cases (e : SourceEvent) (rest : List SourceEvent) :
    (IsLoneStart (e :: rest) ∧ extent e rest = 2) ∨
      (¬ IsLoneStart (e :: rest) ∧ 1 ≤ extent e rest ∧ extent e rest ≤ (e :: rest).length) := by
  obtain ⟨event, span⟩ := e
  cases event with
  | start tag =>
      cases rest with
      | nil => exact .inl ⟨⟨tag, span, rfl⟩, rfl⟩
      | cons next more =>
          have hclose := closingIndex_le tag.kind (next :: more)
          simp only [List.length_cons] at hclose
          refine .inr ⟨?_, ?_⟩
          · rintro ⟨_, _, heq⟩
            simp at heq
          · simp only [extent, List.length_cons]
            omega
  | _ =>
      refine .inr ⟨?_, Nat.le_refl 1, by simp [extent]⟩
      rintro ⟨_, _, heq⟩
      simp at heq

theorem extent_pos (e : SourceEvent) (rest : List SourceEvent) : 1 ≤ extent e rest := by
  rcases extent_cases e rest with ⟨-, hcount⟩ | ⟨-, hcount, -⟩ <;> omega

theorem extent_le (e : SourceEvent) (rest : List SourceEvent) :
    extent e rest ≤ (e :: rest).length + 1 := by
  rcases extent_cases e rest with ⟨⟨tag, span, heq⟩, hcount⟩ | ⟨-, -, hcount⟩
  · rw [heq, hcount]
    exact Nat.le_refl 2
  · omega

/-- The node that is read at the front of some events. -/
def firstNode? (keepSpans : Bool) (e : SourceEvent) (rest : List SourceEvent) : Option Node :=
  match e.event with
  | .start tag =>
      let close := closingIndex tag.kind rest
      (tag.node? (nodesOfEvents keepSpans (rest.take close))).map
        (located keepSpans ⟨e.span.start, (rest[close]?.getD e).span.stop⟩)
  | event => event.node?.map (located keepSpans e.span)

theorem nodesOfEvents_cons (keepSpans : Bool) (e : SourceEvent) (rest : List SourceEvent) :
    nodesOfEvents keepSpans (e :: rest) =
      (firstNode? keepSpans e rest).toList ++
        nodesOfEvents keepSpans ((e :: rest).drop (extent e rest)) := by
  obtain ⟨event, span⟩ := e
  rw [nodesOfEvents]
  cases event <;> rfl

/-- A step is in range whatever the events are, and reads inside a construct fewer than those. -/
theorem readStep_eq_ok (keepSpans : Bool)
    {readInside : List SourceEvent → Except Fault (List Node)} {e : SourceEvent}
    {rest : List SourceEvent}
    (h : ∀ inside, inside.length ≤ rest.length →
      readInside inside = .ok (nodesOfEvents keepSpans inside)) :
    readStep keepSpans readInside (e :: rest) =
      .ok ⟨firstNode? keepSpans e rest, extent e rest⟩ := by
  obtain ⟨event, span⟩ := e
  cases event with
  | start tag =>
      have hbehind : slice (⟨.start tag, span⟩ :: rest) 1 (rest.length + 1) = .ok rest :=
        slice_to_end (Nat.le_add_left 1 rest.length)
      have hinside : slice (⟨.start tag, span⟩ :: rest) 1
          (min (closingIndex tag.kind rest + 1) (rest.length + 1)) =
            .ok (rest.take (closingIndex tag.kind rest)) := by
        rw [Nat.add_min_add_right, slice_eq_ok (Nat.le_add_left 1 _)
          (Nat.succ_le_succ (Nat.min_le_right _ _)), List.drop_one, List.tail_cons,
          Nat.add_sub_cancel, ← List.take_eq_take_min]
      have hread := h (rest.take (closingIndex tag.kind rest)) (List.length_take_le' _ _)
      have hfirst : eventAt (⟨.start tag, span⟩ :: rest) 0 = .ok ⟨.start tag, span⟩ := rfl
      simp only [readStep, readConstruct, hfirst, hbehind, hinside, hread, List.length_cons, bind,
        Except.bind]
      rfl
  | _ => rfl

/-- The rounds over a list from an index on give the nodes of the events from there on. -/
theorem readFrom_eq_ok (keepSpans : Bool) {step : List SourceEvent → Except Fault Step}
    {events : List SourceEvent}
    (hstep : ∀ before e rest, events = before ++ e :: rest →
      step (e :: rest) = .ok ⟨firstNode? keepSpans e rest, extent e rest⟩) (i : Nat) :
    ∃ pass, readFrom step events i = .ok pass ∧
      pass.nodes = nodesOfEvents keepSpans (events.drop i) ∧ pass.rounds ≤ events.length - i ∧
        events.length ≤ pass.stop ∧ pass.stop ≤ max i (events.length + 1) := by
  induction hleft : events.length - i using Nat.strongRecOn generalizing i with
  | ind left ih =>
      rw [readFrom]
      by_cases hi : i < events.length
      · obtain ⟨e, rest, hdrop⟩ := List.exists_cons_of_length_pos
          (Nat.lt_of_lt_of_eq (Nat.sub_pos_of_lt hi) List.length_drop.symm)
        have hevents : events = events.take i ++ e :: rest := by
          rw [← hdrop, List.take_append_drop]
        have hlength := congrArg List.length hdrop
        rw [List.length_drop] at hlength
        have hpos := extent_pos e rest
        have hle := extent_le e rest
        have hmove : max (extent e rest) 1 = extent e rest := Nat.max_eq_left hpos
        obtain ⟨pass, hpass, hnodes, hrounds, hlow, hhigh⟩ :=
          ih (events.length - (i + extent e rest)) (by omega) (i + extent e rest) rfl
        rw [if_pos hi]
        simp only [slice_to_end (Nat.le_of_lt hi), hdrop, hstep _ e rest hevents, hmove, hpass,
          bind, Except.bind]
        refine ⟨⟨_, _, _⟩, rfl, ?_, ?_, hlow, ?_⟩
        · rw [nodesOfEvents_cons, hnodes, ← hdrop, List.drop_drop]
        · exact Nat.add_le_of_le_sub (by omega) (Nat.le_trans hrounds (by omega))
        · exact Nat.le_trans hhigh (by omega)
      · rw [if_neg hi]
        refine ⟨_, rfl, ?_, Nat.zero_le _, Nat.le_of_not_lt hi, Nat.le_max_left _ _⟩
        rw [List.drop_eq_nil_of_le (Nat.le_of_not_lt hi), nodesOfEvents_nil]

theorem readShorter_eq_ok {keepSpans : Bool} {events inside : List SourceEvent}
    (hlength : inside.length < events.length) {pass : Pass}
    (hpass : readSlices keepSpans inside = .ok pass)
    (hnodes : pass.nodes = nodesOfEvents keepSpans inside) :
    readShorter keepSpans events inside = .ok (nodesOfEvents keepSpans inside) := by
  rw [readShorter, if_pos hlength, hpass, ← hnodes]
  rfl

/-- A step from any event of a list, if the reader for what is inside is right on shorter lists. -/
theorem readStep_within (keepSpans : Bool) {events before rest : List SourceEvent} {e : SourceEvent}
    (hshorter : ∀ inside : List SourceEvent, inside.length < events.length →
      readShorter keepSpans events inside = .ok (nodesOfEvents keepSpans inside))
    (hevents : events = before ++ e :: rest) :
    readStep keepSpans (readShorter keepSpans events) (e :: rest) =
      .ok ⟨firstNode? keepSpans e rest, extent e rest⟩ := by
  apply readStep_eq_ok
  intro inside hinside
  apply hshorter
  rw [hevents, List.length_append, List.length_cons]
  omega

theorem readSlices_eq_ok (keepSpans : Bool) (events : List SourceEvent) :
    ∃ pass, readSlices keepSpans events = .ok pass ∧
      pass.nodes = nodesOfEvents keepSpans events ∧ pass.rounds ≤ events.length ∧
        events.length ≤ pass.stop ∧ pass.stop ≤ events.length + 1 := by
  induction hlength : events.length using Nat.strongRecOn generalizing events with
  | ind length ih =>
      have hshorter : ∀ inside : List SourceEvent, inside.length < events.length →
          readShorter keepSpans events inside = .ok (nodesOfEvents keepSpans inside) := by
        intro inside hinside
        obtain ⟨pass, hpass, hnodes, -⟩ := ih inside.length (hlength ▸ hinside) inside rfl
        exact readShorter_eq_ok hinside hpass hnodes
      obtain ⟨pass, hpass, hnodes, hrounds, hlow, hhigh⟩ :=
        readFrom_eq_ok keepSpans (fun _ _ _ => readStep_within keepSpans hshorter) 0
      rw [readSlices_eq, ← hlength]
      exact ⟨pass, hpass, hnodes, hrounds, hlow, by omega⟩

/-- Reading by indices never leaves its range. For events in any order, balanced or not, no index
and no slice lies outside the list it is taken from, and what is read inside a construct is shorter
than the list it stands in. The rounds over the list are at most as many as its events, give the
nodes that the events describe, and end at the end of the list or one past it. And each step, from
whatever event of the list, uses up at least one event and none that is not there, but for a start
that nothing follows, which counts for two. -/
theorem reading_stays_in_range (keepSpans : Bool) (events : List SourceEvent) :
    (∃ pass, readSlices keepSpans events = .ok pass ∧
      pass.nodes = nodesOfEvents keepSpans events ∧ pass.rounds ≤ events.length ∧
        events.length ≤ pass.stop ∧ pass.stop ≤ events.length + 1) ∧
    ∀ before e rest, events = before ++ e :: rest →
      ∃ step, readStep keepSpans (readShorter keepSpans events) (e :: rest) = .ok step ∧
        ((IsLoneStart (e :: rest) ∧ step.count = 2) ∨
          (¬ IsLoneStart (e :: rest) ∧ 1 ≤ step.count ∧ step.count ≤ (e :: rest).length)) := by
  refine ⟨readSlices_eq_ok keepSpans events, ?_⟩
  intro before e rest hevents
  have hshorter : ∀ inside : List SourceEvent, inside.length < events.length →
      readShorter keepSpans events inside = .ok (nodesOfEvents keepSpans inside) := by
    intro inside hinside
    obtain ⟨pass, hpass, hnodes, -⟩ := readSlices_eq_ok keepSpans inside
    exact readShorter_eq_ok hinside hpass hnodes
  exact ⟨_, readStep_within keepSpans hshorter hevents, extent_cases e rest⟩

/-- A list with an item, and behind it the start of another list that nothing follows. -/
theorem reading_stays_in_range_lone :
    let list : SourceEvent := ⟨.start (.list none), ⟨0, 1⟩⟩
    let before : List SourceEvent := [list, ⟨.start .item, ⟨1, 2⟩⟩, ⟨.text "a", ⟨1, 2⟩⟩,
      ⟨.stop .item, ⟨2, 3⟩⟩, ⟨.stop .list, ⟨3, 4⟩⟩]
    let events := before ++ list :: []
    (∃ pass, readSlices true events = .ok pass ∧ pass.nodes = nodesOfEvents true events ∧
      pass.rounds ≤ 6) ∧
      ∃ step, readStep true (readShorter true events) [list] = .ok step ∧ step.count = 2 := by
  intro list before events
  obtain ⟨⟨pass, hpass, hnodes, hrounds, -⟩, hsteps⟩ := reading_stays_in_range true events
  obtain ⟨step, hstep, hcount⟩ := hsteps before list [] rfl
  refine ⟨⟨pass, hpass, hnodes, hrounds⟩, step, hstep, ?_⟩
  rcases hcount with ⟨-, htwo⟩ | ⟨hnot, -⟩
  · exact htwo
  · exact absurd ⟨.list none, ⟨0, 1⟩, rfl⟩ hnot

end WikiMarkup.Markdown
