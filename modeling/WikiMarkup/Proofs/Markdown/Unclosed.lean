import WikiMarkup.Proofs.Markdown.TextPlaces

/-!
Events that are not balanced. Where the end of a construct is missing, reading takes the last event
that could stand inside for it, and as an end it is not read, whatever it was. So events of any kind
are read as constructs, one event is lost for each end that is missing, and all other single events
stand in the constructs.
-/

namespace WikiMarkup.Markdown

/-- Whether the construct that the event starts, if it starts one, is of a kind that is read. -/
def Event.isHandled : Event → Bool
  | start tag => tag.kind.isRead
  | _ => true

/-- The constructs that events are read as, and the events that are taken for missing ends. -/
inductive ReadAs : List SourceEvent → List Construct → List SourceEvent → Prop where
  | nil : ReadAs [] [] []
  | single {event : Event} {span : Span} {rest : List SourceEvent} {cs : List Construct}
      {lost : List SourceEvent} (hsingle : event.isSingle) (hrest : ReadAs rest cs lost) :
      ReadAs (⟨event, span⟩ :: rest) (.leaf event span :: cs) lost
  /-- An end that closes nothing is passed over. -/
  | stray {kind : TagKind} {span : Span} {rest : List SourceEvent} {cs : List Construct}
      {lost : List SourceEvent} (hrest : ReadAs rest cs lost) :
      ReadAs (⟨.stop kind, span⟩ :: rest) cs lost
  | closed {tag : Tag} {opening closing : Span} {inside behind : List SourceEvent}
      {cs others : List Construct} {lost more : List SourceEvent}
      (hclose : closingIndex? tag.kind 0 (inside ++ ⟨.stop tag.kind, closing⟩ :: behind) =
        some inside.length)
      (hinside : ReadAs inside cs lost) (hbehind : ReadAs behind others more) :
      ReadAs (⟨.start tag, opening⟩ :: (inside ++ ⟨.stop tag.kind, closing⟩ :: behind))
        (.group tag opening closing cs :: others) (lost ++ more)
  /-- A construct without an end holds all that follows but the last event. -/
  | unclosed {tag : Tag} {opening : Span} {inside : List SourceEvent} {last : SourceEvent}
      {cs : List Construct} {lost : List SourceEvent}
      (hopen : closingIndex? tag.kind 0 (inside ++ [last]) = none)
      (hinside : ReadAs inside cs lost) :
      ReadAs (⟨.start tag, opening⟩ :: (inside ++ [last])) [.group tag opening last.span cs]
        (lost ++ [last])
  /-- A start with nothing behind it is its own end. -/
  | alone {tag : Tag} {span : Span} : ReadAs [⟨.start tag, span⟩] [.group tag span span []] []

/-- The events that neither start nor end a construct. -/
def singles (events : List SourceEvent) : List SourceEvent := events.filter (·.event.isSingle)

theorem singles_cons_of_single {event : Event} (h : event.isSingle) (span : Span)
    (rest : List SourceEvent) : singles (⟨event, span⟩ :: rest) = ⟨event, span⟩ :: singles rest :=
  List.filter_cons_of_pos h

@[simp] theorem singles_nil : singles [] = [] := rfl

@[simp] theorem singles_start (tag : Tag) (span : Span) (rest : List SourceEvent) :
    singles (⟨.start tag, span⟩ :: rest) = singles rest := rfl

@[simp] theorem singles_stop (kind : TagKind) (span : Span) (rest : List SourceEvent) :
    singles (⟨.stop kind, span⟩ :: rest) = singles rest := rfl

@[simp] theorem singles_append (events others : List SourceEvent) :
    singles (events ++ others) = singles events ++ singles others :=
  List.filter_append events others

theorem exists_of_closes {kind : TagKind} {e : SourceEvent} (h : e.closes kind) :
    ∃ closing, e = ⟨.stop kind, closing⟩ := by
  obtain ⟨event, span⟩ := e
  cases event with
  | stop other =>
      obtain ⟨-, rfl⟩ : kind.isRead ∧ other = kind := by simpa [SourceEvent.closes] using h
      exact ⟨span, rfl⟩
  | _ => simp [SourceEvent.closes] at h

theorem exists_of_closingIndex? {kind : TagKind} {depth : Nat} {events : List SourceEvent} {i : Nat}
    (h : closingIndex? kind depth events = some i) :
    ∃ inside closing behind, events = inside ++ ⟨.stop kind, closing⟩ :: behind ∧
      inside.length = i := by
  induction events generalizing depth i with
  | nil => simp [closingIndex?] at h
  | cons e rest ih =>
      -- Wherever the count goes on, the end is one further than it is in the rest.
      have hfurther : ∀ depth', (closingIndex? kind depth' rest).map (· + 1) = some i →
          ∃ inside closing behind, e :: rest = inside ++ ⟨.stop kind, closing⟩ :: behind ∧
            inside.length = i := by
        intro depth' hrest
        obtain ⟨j, hj, rfl⟩ := Option.map_eq_some_iff.mp hrest
        obtain ⟨inside, closing, behind, rfl, rfl⟩ := ih hj
        exact ⟨e :: inside, closing, behind, rfl, rfl⟩
      unfold closingIndex? at h
      split at h
      · exact hfurther _ h
      · split at h
        next hcloses =>
          cases depth with
          | zero =>
              obtain rfl : 0 = i := Option.some.inj h
              obtain ⟨closing, rfl⟩ := exists_of_closes hcloses
              exact ⟨[], closing, rest, rfl, rfl⟩
          | succ depth => exact hfurther _ h
        next => exact hfurther _ h

theorem closingIndex_of_some {kind : TagKind} {events : List SourceEvent} {i : Nat}
    (h : closingIndex? kind 0 events = some i) : closingIndex kind events = i := by
  rw [closingIndex, h, Option.getD_some]

section Cut

variable {tag : Tag} {inside behind : List SourceEvent} {last : SourceEvent}

theorem closingIndex_of_open (hopen : closingIndex? tag.kind 0 (inside ++ [last]) = none) :
    closingIndex tag.kind (inside ++ [last]) = inside.length := by
  simp [closingIndex, hopen]

/-- Whichever event is taken for the end of a construct, it is not read. -/
theorem nodesOfEvents_cut (keepSpans : Bool) (opening : Span)
    (hcut : closingIndex tag.kind (inside ++ last :: behind) = inside.length) :
    nodesOfEvents keepSpans (⟨.start tag, opening⟩ :: (inside ++ last :: behind)) =
      ((tag.node? (nodesOfEvents keepSpans inside)).map
        (located keepSpans ⟨opening.start, last.span.stop⟩)).toList ++
          nodesOfEvents keepSpans behind := by
  rw [nodesOfEvents_start, hcut, List.take_left, ← List.drop_drop, List.drop_left]
  simp

end Cut

/-- Events in any order are read as some constructs. -/
theorem exists_readAs (events : List SourceEvent) : ∃ cs lost, ReadAs events cs lost := by
  induction events using eventInduction with
  | nil => exact ⟨[], [], .nil⟩
  | start tag span rest hinside hbehind =>
      obtain ⟨cs, lost, hcs⟩ := hinside
      obtain ⟨others, more, hothers⟩ := hbehind
      cases hclose : closingIndex? tag.kind 0 rest with
      | some i =>
          have hindex := closingIndex_of_some hclose
          obtain ⟨inside, closing, behind, rfl, rfl⟩ := exists_of_closingIndex? hclose
          rw [hindex, List.take_left] at hcs
          rw [hindex, ← List.drop_drop, List.drop_left, List.drop_one, List.tail_cons] at hothers
          exact ⟨_, _, .closed hclose hcs hothers⟩
      | none =>
          rcases List.eq_nil_or_concat rest with rfl | ⟨inside, last, rfl⟩
          · exact ⟨_, _, .alone⟩
          · rw [List.concat_eq_append] at hclose hcs ⊢
            rw [closingIndex_of_open hclose, List.take_left] at hcs
            exact ⟨_, _, .unclosed hclose hcs⟩
  | single event span rest hsingle ih =>
      obtain ⟨cs, lost, hcs⟩ := ih
      cases event with
      | start tag => exact absurd rfl (hsingle tag)
      | stop kind => exact ⟨cs, lost, .stray hcs⟩
      | _ => exact ⟨_, _, .single rfl hcs⟩

namespace ReadAs

variable {events lost : List SourceEvent} {cs : List Construct}

/-- Reading gives the nodes of the constructs. -/
theorem nodesOfEvents_eq (h : ReadAs events cs lost) (keepSpans : Bool) :
    nodesOfEvents keepSpans events = Construct.nodesOf keepSpans cs := by
  induction h with
  | nil => rw [nodesOfEvents_nil, Construct.nodesOf]
  | @single event span rest cs lost hsingle _ ih =>
      rw [nodesOfEvents_leaf _ hsingle, Construct.nodesOf, Construct.node?, ih]
  | stray _ ih =>
      rw [nodesOfEvents_single _ _ _ (by simp), ih]
      rfl
  | closed hclose _ _ ihinside ihbehind =>
      rw [nodesOfEvents_cut keepSpans _ (closingIndex_of_some hclose), ihinside, ihbehind,
        Construct.nodesOf, Construct.node?]
  | unclosed hopen _ ih =>
      rw [nodesOfEvents_cut keepSpans _ (closingIndex_of_open hopen), ih, nodesOfEvents_nil,
        Construct.nodesOf, Construct.node?, Construct.nodesOf]
  | alone =>
      rw [nodesOfEvents_start]
      simp [Construct.nodesOf, Construct.node?]

theorem areNested (h : ReadAs events cs lost) (hread : ∀ e ∈ events, e.event.isHandled) :
    Construct.areNested cs := by
  induction h with
  | nil => rfl
  | single hsingle _ ih =>
      rw [Construct.areNested, Construct.isNested, hsingle, Bool.true_and]
      exact ih (List.forall_mem_cons.mp hread).2
  | stray _ ih => exact ih (List.forall_mem_cons.mp hread).2
  | closed _ _ _ ihinside ihbehind =>
      obtain ⟨htag, hrest⟩ := List.forall_mem_cons.mp hread
      obtain ⟨hinside, hbehind⟩ := List.forall_mem_append.mp hrest
      have hothers := ihbehind (List.forall_mem_cons.mp hbehind).2
      simp only [Construct.areNested, Construct.isNested, ihinside hinside, hothers,
        Bool.and_true]
      exact htag
  | unclosed _ _ ih =>
      obtain ⟨htag, hrest⟩ := List.forall_mem_cons.mp hread
      simp only [Construct.areNested, Construct.isNested, ih (List.forall_mem_append.mp hrest).1,
        Bool.and_true]
      exact htag
  | alone =>
      simp only [Construct.areNested, Construct.isNested, Bool.and_true]
      exact hread _ List.mem_cons_self

/-- Every single event stands in the constructs or is taken for an end, and none does both. -/
theorem perm_singles (h : ReadAs events cs lost) :
    (singles events).Perm (singles (Construct.eventsOf cs) ++ singles lost) := by
  induction h with
  | nil => exact .refl _
  | single hsingle _ ih =>
      simp only [singles_cons_of_single hsingle, Construct.eventsOf, Construct.events,
        List.cons_append, List.nil_append]
      exact ih.cons _
  | stray _ ih => exact ih
  | @closed tag opening closing inside behind cs others lost more _ _ _ ihinside ihbehind =>
      have hinterchange : ((singles (Construct.eventsOf cs) ++ singles lost) ++
          (singles (Construct.eventsOf others) ++ singles more)).Perm
            ((singles (Construct.eventsOf cs) ++ singles (Construct.eventsOf others)) ++
              (singles lost ++ singles more)) := by
        simp only [List.append_assoc]
        exact (List.perm_append_comm_assoc ..).append_left _
      simpa [Construct.eventsOf, Construct.events] using
        (ihinside.append ihbehind).trans hinterchange
  | @unclosed tag opening inside last cs lost _ _ ih =>
      simpa [Construct.eventsOf, Construct.events] using ih.append_right (singles [last])
  | alone => exact .refl _

end ReadAs

/-- Events that are not balanced are read as constructs all the same, and the text of each of them
shows in some node, with two exceptions. Where the end of a construct is missing, the last event of
those that follow its start is taken for it and lost; the single events that are not lost in this
way are those of the constructs. And a text of the constructs that does not come through the tags
around it leaves no trace: the same is read with any other text in its place. -/
theorem texts_show_unless_lost (keepSpans : Bool) {events : List SourceEvent}
    (hread : ∀ e ∈ events, e.event.isHandled) :
    (∃ cs lost, ReadAs events cs lost) ∧
      ∀ cs lost, ReadAs events cs lost →
        nodesOfEvents keepSpans events = Construct.nodesOf keepSpans cs ∧
        (singles events).Perm (singles (Construct.eventsOf cs) ++ singles lost) ∧
        ∀ content span, ⟨.text content, span⟩ ∈ events →
          ⟨.text content, span⟩ ∈ lost ∨
            ∃ place : Place, place.fill ⟨.text content, span⟩ = cs ∧
              if Uptake.nodes.passes place.tags then
                ∃ root ∈ nodesOfEvents keepSpans events, ∃ n : Node, n.Within root ∧ n.Holds content
              else
                ∀ other, Construct.nodesOf keepSpans (place.fill ⟨.text other, span⟩) =
                  nodesOfEvents keepSpans events := by
  refine ⟨exists_readAs events, ?_⟩
  intro cs lost h
  have hnodes := h.nodesOfEvents_eq keepSpans
  refine ⟨hnodes, h.perm_singles, ?_⟩
  intro content span hmem
  have hsingle : (⟨.text content, span⟩ : SourceEvent) ∈ singles events :=
    List.mem_filter.mpr ⟨hmem, rfl⟩
  rcases List.mem_append.mp (h.perm_singles.mem_iff.mp hsingle) with hkept | hlost
  · obtain ⟨place, hplace⟩ := Place.exists_fill rfl cs (List.mem_filter.mp hkept).1
    refine .inr ⟨place, hplace, ?_⟩
    subst hplace
    rw [hnodes]
    split
    next hpasses =>
      exact Place.exists_shows hpasses keepSpans content span (h.areNested hread)
    next hblocked =>
      intro other
      have hsame := Place.same_of_blocked (by simpa using hblocked) keepSpans content other span
      exact (Uptake.eq_of_same hsame).symm
  · exact .inl (List.mem_filter.mp hlost).1

/-- A quote that is not closed, around emphasis that is. -/
theorem texts_show_unless_lost_quote :
    let last : SourceEvent := ⟨.text "c", ⟨7, 8⟩⟩
    let events : List SourceEvent := ⟨.start (.blockQuote false), ⟨0, 1⟩⟩ ::
      ((⟨.start .emphasis, ⟨2, 3⟩⟩ :: ([⟨.text "a", ⟨3, 4⟩⟩] ++ ⟨.stop .emphasis, ⟨4, 5⟩⟩ ::
        [⟨.text "b", ⟨5, 6⟩⟩])) ++ [last])
    let cs : List Construct := [.group (.blockQuote false) ⟨0, 1⟩ ⟨7, 8⟩
      [.group .emphasis ⟨2, 3⟩ ⟨4, 5⟩ [.leaf (.text "a") ⟨3, 4⟩], .leaf (.text "b") ⟨5, 6⟩]]
    (∀ e ∈ events, e.event.isHandled) ∧ ReadAs events cs [last] ∧
      nodesOfEvents true events = Construct.nodesOf true cs := by
  intro last events cs
  have hread : ∀ e ∈ events, e.event.isHandled := by decide
  have hcs : ReadAs events cs [last] :=
    .unclosed rfl (.closed rfl (.single rfl .nil) (.single rfl .nil))
  exact ⟨hread, hcs, ((texts_show_unless_lost true hread).2 cs [last] hcs).1⟩

/-- The text at the end of a paragraph that is not closed shows nowhere. Nor does the text of an
image in an image, as in the paragraph that markdown writes as "![![a](v)](u)", where nothing is
left open. -/
theorem last_text_is_lost :
    let cut : List SourceEvent := [⟨.start .paragraph, ⟨0, 1⟩⟩, ⟨.text "a", ⟨0, 1⟩⟩]
    let nested : List SourceEvent := [⟨.start .paragraph, ⟨0, 13⟩⟩,
      ⟨.start (.image "u" ""), ⟨0, 13⟩⟩, ⟨.start (.image "v" ""), ⟨2, 9⟩⟩, ⟨.text "a", ⟨4, 5⟩⟩,
      ⟨.stop .image, ⟨2, 9⟩⟩, ⟨.stop .image, ⟨0, 13⟩⟩, ⟨.stop .paragraph, ⟨0, 13⟩⟩]
    let image : Node := (((Node.ofElement .image []).withProperty PropertyKey.url
      (.text "u")).withProperty PropertyKey.alt (.text "")).withSpan ⟨0, 13⟩
    (∀ e ∈ cut ++ nested, e.event.isHandled) ∧
      (¬ ∃ root ∈ nodesOfEvents true cut, ∃ n : Node, n.Within root ∧ n.Holds "a") ∧
      nodesOfEvents true nested = [(Node.paragraph [image]).withSpan ⟨0, 13⟩] ∧
      ¬ ∃ root ∈ nodesOfEvents true nested, ∃ n : Node, n.Within root ∧ n.Holds "a" := by
  intro cut nested image
  have hnested : Construct.areNested [.group .paragraph ⟨0, 13⟩ ⟨0, 13⟩
      [.group (.image "u" "") ⟨0, 13⟩ ⟨0, 13⟩
        [.group (.image "v" "") ⟨2, 9⟩ ⟨2, 9⟩ [.leaf (.text "a") ⟨4, 5⟩]]]] := by decide
  have hnodes : nodesOfEvents true nested = [(Node.paragraph [image]).withSpan ⟨0, 13⟩] :=
    nodesOfEvents_eventsOf true hnested
  refine ⟨by decide, ?_, hnodes, ?_⟩
  · have hcs : ReadAs cut [.group .paragraph ⟨0, 1⟩ ⟨0, 1⟩ []] [⟨.text "a", ⟨0, 1⟩⟩] :=
      @ReadAs.unclosed .paragraph _ [] _ _ _ rfl .nil
    rw [hcs.nodesOfEvents_eq]
    rintro ⟨root, hroot, n, hn, key, -, value, hvalue, -⟩
    obtain rfl : root = located true ⟨0, 1⟩ (.paragraph []) := List.mem_singleton.mp hroot
    cases hn with
    | here => cases hvalue
    | inside hchild => cases hchild
  · rw [hnodes]
    rintro ⟨root, hroot, n, hn, key, hkey, value, hvalue, hinfix⟩
    obtain rfl : root = (Node.paragraph [image]).withSpan ⟨0, 13⟩ := List.mem_singleton.mp hroot
    cases hn with
    | here => rcases List.mem_pair.mp hkey with rfl | rfl <;> cases hvalue
    | inside hchild hn =>
        obtain rfl := List.mem_singleton.mp hchild
        cases hn with
        | here =>
            rcases List.mem_pair.mp hkey with rfl | rfl
            · cases hvalue
            · obtain rfl : "" = value := Option.some.inj hvalue
              exact absurd (List.infix_nil.mp hinfix) (by decide)
        | inside hchild => cases hchild

end WikiMarkup.Markdown
