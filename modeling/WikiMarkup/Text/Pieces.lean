/-!
A text cut at its breaks. There is one piece more than there are breaks, so a piece may be empty,
and an empty text is one empty piece.
-/

namespace WikiMarkup.Text

def pieces (isBreak : Char → Bool) : List Char → List (List Char)
  | [] => [[]]
  | c :: rest =>
      if isBreak c then [] :: pieces isBreak rest
      else
        match pieces isBreak rest with
        | [] => [[c]]
        | piece :: others => (c :: piece) :: others

theorem pieces_ne_nil (isBreak : Char → Bool) (cs : List Char) : pieces isBreak cs ≠ [] := by
  cases cs with
  | nil => simp [pieces]
  | cons c rest =>
      unfold pieces
      split
      · simp
      · split <;> simp

theorem pieces_of_unbroken {isBreak : Char → Bool} {cs : List Char}
    (h : ∀ c ∈ cs, isBreak c = false) : pieces isBreak cs = [cs] := by
  induction cs with
  | nil => rfl
  | cons c rest ih =>
      obtain ⟨hc, hrest⟩ := List.forall_mem_cons.mp h
      simp [pieces, hc, ih hrest]

/-- A text is cut at a break, whatever stands before it and behind it. -/
theorem pieces_append_break {isBreak : Char → Bool} (front : List Char) {b : Char}
    (hb : isBreak b) (rest : List Char) :
    pieces isBreak (front ++ b :: rest) = pieces isBreak front ++ pieces isBreak rest := by
  induction front with
  | nil => simp [pieces, hb]
  | cons c more ih =>
      obtain ⟨piece, others, hpieces⟩ := List.exists_cons_of_ne_nil (pieces_ne_nil isBreak more)
      rw [hpieces] at ih
      by_cases hc : isBreak c <;> simp [pieces, hc, ih, hpieces]

end WikiMarkup.Text
