import WikiMarkup.Confluence.Notation
import WikiMarkup.Proofs.Confluence.Lines
import WikiMarkup.Proofs.Text.Trimmed

/-!
Lists of lists. A list writes lines that are all marked and not blank where they begin and end as a
whole, so a list around it trims nothing away, drops no line and puts its marker to those that are
there: each level adds one marker to each line, and nothing else changes.
-/

namespace WikiMarkup.Confluence

open Text

/-- Lines such as a list writes. -/
structure AreRows (rows : List (List Char)) : Prop where
  oneLine : ∀ row ∈ rows, '\n' ∉ row
  marked : ∀ row ∈ rows, isMarked row
  endsFilled : ∀ row ∈ rows.getLast?, row.getLast?.any isBlank = false

/-- Lines that a list marks are such lines if trimming does not reach into the last of them. -/
theorem areRows_map_markLine {kept : List (List Char)}
    (hkept : ∀ line ∈ kept, '\n' ∉ line ∧ line ≠ [])
    (hend : ∀ line ∈ kept.getLast?, line.getLast?.any isBlank = false) (ordered : Bool) :
    AreRows (kept.map (markLine (listMarker ordered))) := by
  constructor
  · rw [List.forall_mem_map]
    exact fun line hline => newline_not_mem_markLine ordered (hkept line hline).1
  · rw [List.forall_mem_map]
    exact fun line _ => isMarked_markLine ordered line
  · intro row hrow
    rw [List.getLast?_map, Option.mem_def, Option.map_eq_some_iff] at hrow
    obtain ⟨line, hline, rfl⟩ := hrow
    obtain ⟨front, hfront⟩ := exists_prefix_markLine (listMarker ordered) line
    have hne := (hkept line (List.mem_of_mem_getLast? hline)).2
    rw [hfront, List.getLast?_append_of_ne_nil _ hne]
    exact hend line hline

namespace AreRows

variable {rows : List (List Char)}

theorem filled (h : AreRows rows) : ∀ row ∈ rows, '\n' ∉ row ∧ row ≠ [] :=
  fun row hrow => ⟨h.oneLine row hrow, ne_nil_of_isMarked (h.marked row hrow)⟩

theorem map_markLine (h : AreRows rows) (marker : Char) :
    rows.map (markLine marker) = rows.map (marker :: ·) := by
  apply List.map_congr_left
  intro row hrow
  rw [markLine, if_pos (h.marked row hrow)]

/-- The lines are found again in the text that a list writes from them. -/
theorem filledLines_closed (h : AreRows rows) :
    filledLines (joinLines rows ++ ['\n', '\n']) = rows := by
  rw [Confluence.filledLines_closed, filledLines_joinLines h.filled]

/-- A list in whose body these lines stand puts its marker in front of each of them. -/
theorem listMarkup (h : AreRows rows) (ordered : Bool) :
    listMarkup ordered (joinLines rows ++ ['\n', '\n']) =
      joinLines (rows.map (listMarker ordered :: ·)) ++ ['\n', '\n'] := by
  have hlines := h.filledLines_closed
  have hkept : filledLines (trimBlank (joinLines rows ++ ['\n', '\n'])) = rows := by
    rw [filledLines_trimBlank, hlines]
    · intro row hrow
      rw [hlines] at hrow
      exact startsFilled_of_isMarked (h.marked row (List.mem_of_mem_head? hrow))
    · rw [hlines]
      exact h.endsFilled
  rw [listMarkup_eq, hkept, h.map_markLine]

/-- What it writes are such lines again. -/
theorem next (h : AreRows rows) (ordered : Bool) :
    AreRows (rows.map (listMarker ordered :: ·)) := by
  rw [← h.map_markLine]
  exact areRows_map_markLine h.filled h.endsFilled ordered

/-- Lists one around the other put their markers in front of each line, the outermost first. -/
theorem levels (options : Options) (h : AreRows rows) {text : String}
    (htext : text.toList = joinLines rows ++ ['\n', '\n']) (outer : List Bool) :
    (outer.foldl (fun text ordered => (renderer options).list ordered text) text).toList =
      joinLines (rows.map (outer.reverse.map listMarker ++ ·)) ++ ['\n', '\n'] := by
  induction outer generalizing rows text with
  | nil => simpa using htext
  | cons ordered outer ih =>
      -- The list put around first has its marker nearest to the line, behind those of the others.
      have hlist : ((renderer options).list ordered text).toList =
          joinLines (rows.map (listMarker ordered :: ·)) ++ ['\n', '\n'] := by
        rw [← h.listMarkup, ← htext]
        exact String.toList_ofList
      rw [List.foldl_cons, ih (h.next ordered) hlist, List.map_map]
      simp [Function.comp_def]

end AreRows

end WikiMarkup.Confluence
