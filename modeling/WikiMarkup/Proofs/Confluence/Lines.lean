import Mathlib.Data.List.DropRight
import WikiMarkup.Confluence.ListMarkup

/-!
Texts by their filled lines. A list is marked line by line after its body was trimmed and its empty
lines were dropped, so what it makes of a body depends only on the lines that hold anything. Texts
that are put together at a line boundary put their filled lines together, and trimming takes no part
in a filled line away where the text begins and ends with a character that is not blank.
-/

namespace WikiMarkup.Confluence

/-- The lines of a text that are not empty. -/
def filledLines (cs : List Char) : List (List Char) := (lines cs).filter (!·.isEmpty)

/-- Whether the text that follows begins a new line. -/
def isAtLineStart (cs : List Char) : Bool := cs.getLast?.all (· = '\n')

theorem listMarkup_eq (ordered : Bool) (body : List Char) :
    listMarkup ordered body =
      joinLines ((filledLines (Text.trimBlank body)).map (markLine (listMarker ordered))) ++
        ['\n', '\n'] := rfl

theorem lines_eq_splitOn (cs : List Char) : lines cs = cs.splitOn '\n' := by
  induction cs with
  | nil => rfl
  | cons c rest ih =>
      simp only [lines] at ih
      rw [lines, Text.pieces, List.splitOn_cons_eq_if_modifyHead, ih]
      by_cases hc : c = '\n'
      · simp [hc]
      · obtain ⟨line, others, hlines⟩ :=
          List.exists_cons_of_ne_nil (List.splitOn_ne_nil '\n' rest)
        simp [hc, hlines]

theorem filledLines_nil : filledLines [] = [] := rfl

theorem filledLines_append_newline (cs others : List Char) :
    filledLines (cs ++ '\n' :: others) = filledLines cs ++ filledLines others := by
  simp only [filledLines, lines_eq_splitOn, List.splitOn_append_cons_self, List.filter_append]

theorem filledLines_newline (cs : List Char) : filledLines ('\n' :: cs) = filledLines cs :=
  filledLines_append_newline [] cs

theorem filledLines_ended (cs : List Char) : filledLines (cs ++ ['\n']) = filledLines cs := by
  rw [filledLines_append_newline, filledLines_nil, List.append_nil]

theorem filledLines_closed (cs : List Char) :
    filledLines (cs ++ ['\n', '\n']) = filledLines cs := by
  rw [filledLines_append_newline, filledLines_newline, filledLines_nil, List.append_nil]

theorem filledLines_line {line : List Char} (hline : '\n' ∉ line) :
    filledLines line = [line].filter (!·.isEmpty) := by
  rw [filledLines, lines_eq_splitOn, List.splitOn_eq_singleton hline]

theorem filledLines_of_line {line : List Char} (hline : '\n' ∉ line) (hne : line ≠ []) :
    filledLines line = [line] := by
  rw [filledLines_line hline, List.filter_cons_of_pos (by simpa using hne), List.filter_nil]

/-- A character in front of a text goes to its first line, which may have been empty before. -/
theorem filledLines_cons {c : Char} (hc : c ≠ '\n') (cs : List Char) :
    ∃ line others, filledLines (c :: cs) = (c :: line) :: others ∧
      filledLines cs = [line].filter (!·.isEmpty) ++ others := by
  obtain ⟨line, others, hlines⟩ := List.exists_cons_of_ne_nil (List.splitOn_ne_nil '\n' cs)
  refine ⟨line, others.filter (!·.isEmpty), ?_, ?_⟩
  · simp [filledLines, lines_eq_splitOn, List.splitOn_cons_eq_if_modifyHead, hc, hlines]
  · rw [filledLines, lines_eq_splitOn, hlines, ← List.filter_append, List.singleton_append]

theorem newline_not_mem_filledLines (cs : List Char) : ∀ line ∈ filledLines cs, '\n' ∉ line := by
  induction cs with
  | nil => simp [filledLines_nil]
  | cons c rest ih =>
      by_cases hc : c = '\n'
      · subst hc
        rw [filledLines_newline]
        exact ih
      · obtain ⟨first, others, hlines, hrest⟩ := filledLines_cons hc rest
        rw [hrest] at ih
        rw [hlines, List.forall_mem_cons]
        constructor
        · cases first with
          | nil => simpa using Ne.symm hc
          | cons d more =>
              have hfirst := ih (d :: more) (by simp)
              simpa [Ne.symm hc] using hfirst
        · exact fun line hline => ih line (by simp [hline])

/-- A text that ends with a line end, or is empty, leaves the lines of what follows it alone. -/
theorem filledLines_append {cs : List Char} (h : isAtLineStart cs) (others : List Char) :
    filledLines (cs ++ others) = filledLines cs ++ filledLines others := by
  rcases List.eq_nil_or_concat cs with rfl | ⟨front, last, rfl⟩
  · rfl
  · have hlast : last = '\n' := by simpa [isAtLineStart] using h
    subst hlast
    rw [List.concat_eq_append, filledLines_ended, List.append_assoc, List.singleton_append,
      filledLines_append_newline]

theorem filledLines_joinLines {rows : List (List Char)} (h : ∀ row ∈ rows, '\n' ∉ row ∧ row ≠ []) :
    filledLines (joinLines rows) = rows := by
  by_cases hrows : rows = []
  · subst hrows
    rfl
  · have hlines : (joinLines rows).splitOn '\n' = rows :=
      List.splitOn_intercalate '\n' (fun row hrow => (h row hrow).1) hrows
    rw [filledLines, lines_eq_splitOn, hlines, List.filter_eq_self]
    intro row hrow
    simpa using (h row hrow).2

theorem joinLines_inj {rows others : List (List Char)} (h : ∀ row ∈ rows, '\n' ∉ row ∧ row ≠ [])
    (hothers : ∀ row ∈ others, '\n' ∉ row ∧ row ≠ []) :
    joinLines rows = joinLines others ↔ rows = others := by
  constructor
  · intro heq
    rw [← filledLines_joinLines h, heq, filledLines_joinLines hothers]
  · rintro rfl
    rfl

/-- Lines one after the other, each with its end. -/
def endLines (rows : List (List Char)) : List Char := rows.flatMap (· ++ ['\n'])

theorem endLines_append (rows others : List (List Char)) :
    endLines (rows ++ others) = endLines rows ++ endLines others :=
  List.flatMap_append

theorem endLines_singleton (row : List Char) : endLines [row] = row ++ ['\n'] :=
  List.flatMap_singleton ..

theorem endLines_eq {rows : List (List Char)} (h : rows ≠ []) :
    endLines rows = joinLines rows ++ ['\n'] := by
  induction rows with
  | nil => exact absurd rfl h
  | cons row rest ih =>
      cases rest with
      | nil => simp [endLines, joinLines]
      | cons next more =>
          have hrest := ih (by simp)
          rw [← List.singleton_append, endLines_append, hrest, endLines_singleton]
          simp [joinLines, List.intercalate_cons_cons]

theorem endLines_lines (cs : List Char) : endLines (lines cs) = cs ++ ['\n'] := by
  rw [lines_eq_splitOn, endLines_eq (List.splitOn_ne_nil _ _), joinLines, List.intercalate_splitOn]

theorem filledLines_endLines {rows : List (List Char)} (h : ∀ row ∈ rows, '\n' ∉ row)
    (behind : List Char) :
    filledLines (endLines rows ++ behind) = rows.filter (!·.isEmpty) ++ filledLines behind := by
  induction rows with
  | nil => rfl
  | cons row rest ih =>
      obtain ⟨hrow, hrest⟩ := List.forall_mem_cons.mp h
      rw [← List.singleton_append, endLines_append, endLines_singleton, List.append_assoc,
        List.append_assoc, List.singleton_append, filledLines_append_newline, ih hrest,
        filledLines_line hrow, List.filter_append, List.append_assoc]

/-- A text is some text that ends with a line end, or none, and a last line. -/
theorem exists_last_line (cs : List Char) :
    ∃ front line, cs = front ++ line ∧ isAtLineStart front ∧ '\n' ∉ line := by
  induction cs with
  | nil => exact ⟨[], [], rfl, rfl, by simp⟩
  | cons c rest ih =>
      obtain ⟨front, line, rfl, hfront, hline⟩ := ih
      by_cases hnil : front = []
      · subst hnil
        by_cases hc : c = '\n'
        · exact ⟨[c], line, rfl, by simp [isAtLineStart, hc], hline⟩
        · exact ⟨[], c :: line, rfl, rfl, by simp [hline, Ne.symm hc]⟩
      · refine ⟨c :: front, line, rfl, ?_, hline⟩
        obtain ⟨head, tail, rfl⟩ := List.exists_cons_of_ne_nil hnil
        simpa [isAtLineStart] using hfront

theorem filledLines_concat {c : Char} (hc : c ≠ '\n') (cs : List Char) :
    ∃ others line, filledLines (cs ++ [c]) = others ++ [line ++ [c]] ∧
      filledLines cs = others ++ [line].filter (!·.isEmpty) := by
  obtain ⟨front, line, rfl, hfront, hline⟩ := exists_last_line cs
  have hend : filledLines (line ++ [c]) = [line ++ [c]] :=
    filledLines_of_line (by simp [hline, Ne.symm hc]) (by simp)
  refine ⟨filledLines front, line, ?_, ?_⟩
  · rw [List.append_assoc, filledLines_append hfront, hend]
  · rw [filledLines_append hfront, filledLines_line hline]

theorem filledLines_dropWhile {cs : List Char}
    (h : ∀ line ∈ (filledLines cs).head?, line.head?.any Text.isBlank = false) :
    filledLines (cs.dropWhile Text.isBlank) = filledLines cs := by
  induction cs with
  | nil => rfl
  | cons c rest ih =>
      by_cases hblank : Text.isBlank c
      · rw [List.dropWhile_cons_of_pos hblank]
        by_cases hc : c = '\n'
        · subst hc
          rw [filledLines_newline] at h ⊢
          exact ih h
        · obtain ⟨line, others, hlines, _⟩ := filledLines_cons hc rest
          have hfirst := h (c :: line) (by simp [hlines])
          simp [hblank] at hfirst
      · rw [List.dropWhile_cons_of_neg hblank]

theorem filledLines_rdropWhile {cs : List Char}
    (h : ∀ line ∈ (filledLines cs).getLast?, line.getLast?.any Text.isBlank = false) :
    filledLines (cs.rdropWhile Text.isBlank) = filledLines cs := by
  induction cs using List.reverseRecOn with
  | nil => rfl
  | append_singleton rest c ih =>
      by_cases hblank : Text.isBlank c
      · rw [List.rdropWhile_concat_pos _ _ _ hblank]
        by_cases hc : c = '\n'
        · subst hc
          rw [filledLines_ended] at h ⊢
          exact ih h
        · obtain ⟨others, line, hlines, _⟩ := filledLines_concat hc rest
          have hlast := h (line ++ [c]) (by simp [hlines])
          simp [hblank] at hlast
      · rw [List.rdropWhile_concat_neg _ _ _ hblank]

/-- Trimming drops empty lines only, if the first line begins with a character that is not blank
and the last line ends with one. -/
theorem filledLines_trimBlank {cs : List Char}
    (hfirst : ∀ line ∈ (filledLines cs).head?, line.head?.any Text.isBlank = false)
    (hlast : ∀ line ∈ (filledLines cs).getLast?, line.getLast?.any Text.isBlank = false) :
    filledLines (Text.trimBlank cs) = filledLines cs := by
  have hfront := filledLines_dropWhile hfirst
  rw [← hfront] at hlast
  exact (filledLines_rdropWhile hlast).trans hfront

/-- The characters of a text that are not blank. Trimming a text, cutting it into lines and dropping
the empty ones passes over none of them. -/
def solid (cs : List Char) : List Char := cs.filter (!Text.isBlank ·)

theorem solid_append (cs others : List Char) : solid (cs ++ others) = solid cs ++ solid others :=
  List.filter_append ..

theorem solid_cons_of_blank {c : Char} (hc : Text.isBlank c = true) (cs : List Char) :
    solid (c :: cs) = solid cs := by
  simp [solid, hc]

theorem solid_cons_of_not_blank {c : Char} (hc : Text.isBlank c = false) (cs : List Char) :
    solid (c :: cs) = c :: solid cs := by
  simp [solid, hc]

theorem solid_dropWhile (cs : List Char) : solid (cs.dropWhile Text.isBlank) = solid cs := by
  induction cs with
  | nil => rfl
  | cons c rest ih =>
      by_cases hc : Text.isBlank c
      · rw [List.dropWhile_cons_of_pos hc, ih, solid_cons_of_blank hc]
      · rw [List.dropWhile_cons_of_neg hc]

theorem solid_trimBlank (cs : List Char) : solid (Text.trimBlank cs) = solid cs := by
  have hback := solid_dropWhile (cs.dropWhile Text.isBlank).reverse
  simp only [solid, List.filter_reverse] at hback
  rw [Text.trimBlank, solid, List.filter_reverse, hback, List.reverse_reverse]
  exact solid_dropWhile cs

theorem flatMap_solid_filledLines (cs : List Char) :
    (filledLines cs).flatMap solid = solid cs := by
  induction cs with
  | nil => rfl
  | cons c rest ih =>
      by_cases hc : c = '\n'
      · subst hc
        rw [filledLines_newline, ih, solid_cons_of_blank rfl]
      · obtain ⟨line, others, hlines, hrest⟩ := filledLines_cons hc rest
        have hline : ([line].filter (!·.isEmpty)).flatMap solid = solid line := by
          cases line <;> simp [solid]
        rw [hrest, List.flatMap_append, hline] at ih
        rw [hlines, List.flatMap_cons, ← List.singleton_append, solid_append, List.append_assoc, ih,
          ← solid_append, List.singleton_append]

/-- A line that is more than blank keeps what it has of a text when the text is trimmed. -/
theorem map_solid_dropWhile {cs : List Char} (h : ∀ line ∈ filledLines cs, solid line ≠ []) :
    (filledLines (cs.dropWhile Text.isBlank)).map solid = (filledLines cs).map solid := by
  induction cs with
  | nil => rfl
  | cons c rest ih =>
      by_cases hblank : Text.isBlank c
      · rw [List.dropWhile_cons_of_pos hblank]
        by_cases hc : c = '\n'
        · subst hc
          rw [filledLines_newline] at h ⊢
          exact ih h
        · obtain ⟨line, others, hlines, hrest⟩ := filledLines_cons hc rest
          have hsolid := solid_cons_of_blank hblank line
          have hline : line ≠ [] := by
            rintro rfl
            exact h [c] (by simp [hlines]) hsolid
          rw [List.filter_cons_of_pos (by simpa using hline)] at hrest
          have htail : ∀ l ∈ filledLines rest, solid l ≠ [] := by
            intro l hl
            rw [hrest] at hl
            rcases List.mem_cons.mp hl with rfl | hl
            · rw [← hsolid]
              exact h _ (by simp [hlines])
            · exact h l (by simp_all)
          rw [ih htail, hlines, hrest]
          simp [hsolid]
      · rw [List.dropWhile_cons_of_neg hblank]

theorem map_solid_rdropWhile {cs : List Char} (h : ∀ line ∈ filledLines cs, solid line ≠ []) :
    (filledLines (cs.rdropWhile Text.isBlank)).map solid = (filledLines cs).map solid := by
  induction cs using List.reverseRecOn with
  | nil => rfl
  | append_singleton rest c ih =>
      by_cases hblank : Text.isBlank c
      · rw [List.rdropWhile_concat_pos _ _ _ hblank]
        by_cases hc : c = '\n'
        · subst hc
          rw [filledLines_ended] at h ⊢
          exact ih h
        · obtain ⟨others, line, hlines, hrest⟩ := filledLines_concat hc rest
          have hsolid : solid (line ++ [c]) = solid line := by simp [solid, hblank]
          have hline : line ≠ [] := by
            rintro rfl
            exact h [c] (by simp [hlines]) hsolid
          rw [List.filter_cons_of_pos (by simpa using hline)] at hrest
          have hfront : ∀ l ∈ filledLines rest, solid l ≠ [] := by
            intro l hl
            rw [hrest] at hl
            rcases List.mem_append.mp hl with hl | hl
            · exact h l (by simp [hlines, hl])
            · rw [List.eq_of_mem_singleton hl, ← hsolid]
              exact h _ (by simp [hlines])
          rw [ih hfront, hlines, hrest]
          simp [hsolid]
      · rw [List.rdropWhile_concat_neg _ _ _ hblank]

theorem map_solid_trimBlank {cs : List Char} (h : ∀ line ∈ filledLines cs, solid line ≠ []) :
    (filledLines (Text.trimBlank cs)).map solid = (filledLines cs).map solid := by
  have hfront := map_solid_dropWhile h
  have hkept : ∀ line ∈ filledLines (cs.dropWhile Text.isBlank), solid line ≠ [] := by
    intro line hline
    obtain ⟨original, horiginal, heq⟩ :=
      List.mem_map.mp (hfront ▸ List.mem_map_of_mem (f := solid) hline)
    rw [← heq]
    exact h original horiginal
  exact (map_solid_rdropWhile hkept).trans hfront

theorem solid_markLine (ordered : Bool) (line : List Char) :
    solid (markLine (listMarker ordered) line) = listMarker ordered :: solid line := by
  have hmarker : Text.isBlank (listMarker ordered) = false := by cases ordered <;> rfl
  unfold markLine
  split
  · rw [solid_cons_of_not_blank hmarker]
  · rw [solid_cons_of_not_blank hmarker, solid_cons_of_blank rfl]

theorem isMarker_listMarker (ordered : Bool) : isMarker (listMarker ordered) = true := by
  cases ordered <;> decide

theorem takeWhile_run {run : List Char} (h : ∀ c ∈ run, isMarker c) (rest : List Char) :
    (run ++ ' ' :: rest).takeWhile isMarker = run := by
  rw [List.takeWhile_append_of_pos h]
  simp [isMarker]

theorem dropWhile_run {run : List Char} (h : ∀ c ∈ run, isMarker c) (rest : List Char) :
    (run ++ ' ' :: rest).dropWhile isMarker = ' ' :: rest := by
  rw [List.dropWhile_append_of_pos h]
  simp [isMarker]

theorem isMarked_iff {line : List Char} :
    isMarked line ↔
      ∃ run rest, line = run ++ ' ' :: rest ∧ run ≠ [] ∧ ∀ c ∈ run, isMarker c := by
  constructor
  · intro h
    simp only [isMarked, Bool.and_eq_true, Bool.not_eq_true', decide_eq_true_eq] at h
    obtain ⟨hrun, hspace⟩ := h
    obtain ⟨rest, hrest⟩ := List.head?_eq_some_iff.mp hspace
    refine ⟨line.takeWhile isMarker, rest, ?_, by simpa using hrun, ?_⟩
    · rw [← hrest, List.takeWhile_append_dropWhile]
    · intro c hc
      exact List.mem_takeWhile_imp hc
  · rintro ⟨run, rest, rfl, hne, hrun⟩
    simp [isMarked, takeWhile_run hrun, dropWhile_run hrun, hne]

theorem exists_prefix_markLine (marker : Char) (line : List Char) :
    ∃ front, markLine marker line = front ++ line := by
  unfold markLine
  split
  · exact ⟨[marker], rfl⟩
  · exact ⟨[marker, ' '], rfl⟩

theorem startsFilled_of_isMarked {line : List Char} (h : isMarked line) :
    line.head?.any Text.isBlank = false := by
  obtain ⟨run, rest, rfl, hne, hrun⟩ := isMarked_iff.mp h
  obtain ⟨marker, more, rfl⟩ := List.exists_cons_of_ne_nil hne
  have hmarker := hrun marker (by simp)
  simp only [isMarker, Bool.or_eq_true, decide_eq_true_eq] at hmarker
  rcases hmarker with rfl | rfl <;> rfl

theorem ne_nil_of_isMarked {line : List Char} (h : isMarked line) : line ≠ [] := by
  rintro rfl
  cases h

theorem isMarked_marker_cons (ordered : Bool) {line : List Char} (h : isMarked line) :
    isMarked (listMarker ordered :: line) := by
  obtain ⟨run, rest, rfl, -, hrun⟩ := isMarked_iff.mp h
  refine isMarked_iff.mpr ⟨listMarker ordered :: run, rest, rfl, by simp, ?_⟩
  exact List.forall_mem_cons.mpr ⟨isMarker_listMarker ordered, hrun⟩

theorem isMarked_markLine (ordered : Bool) (line : List Char) :
    isMarked (markLine (listMarker ordered) line) := by
  unfold markLine
  split
  case isTrue h => exact isMarked_marker_cons ordered h
  case isFalse =>
    refine isMarked_iff.mpr ⟨[listMarker ordered], line, rfl, by simp, ?_⟩
    exact List.forall_mem_singleton.mpr (isMarker_listMarker ordered)

theorem newline_ne_listMarker (ordered : Bool) : '\n' ≠ listMarker ordered := by
  cases ordered <;> decide

theorem newline_not_mem_markLine (ordered : Bool) {line : List Char} (h : '\n' ∉ line) :
    '\n' ∉ markLine (listMarker ordered) line := by
  unfold markLine
  split <;> simp [newline_ne_listMarker, h]

end WikiMarkup.Confluence
