import Mathlib.Data.List.DropRight
import Mathlib.Data.List.TakeWhile
import WikiMarkup.Text.Blank

/-!
Texts without the blank characters at their ends. What trimming leaves is the one part of a text
that begins and ends with a character that is not blank and has only blank characters around it.
-/

namespace WikiMarkup.Text

/-- Trimming goes up to what begins and ends with a character that is not blank. -/
theorem trimBlank_around {kept : List Char} (hne : kept ≠ [])
    (hstart : kept.head?.any isBlank = false) (hend : kept.getLast?.any isBlank = false)
    (before behind : List Char) :
    trimBlank (before ++ kept ++ behind) =
      before.dropWhile isBlank ++ kept ++ behind.rdropWhile isBlank := by
  have hdrop : ∀ front text : List Char, text ≠ [] → text.head?.any isBlank = false →
      (front ++ text).dropWhile isBlank = front.dropWhile isBlank ++ text := by
    intro front text htext hhead
    obtain ⟨c, rest, rfl⟩ := List.exists_cons_of_ne_nil htext
    have hkept : (c :: rest).dropWhile isBlank = c :: rest :=
      List.dropWhile_cons_of_neg (by simpa using hhead)
    rw [List.dropWhile_append, hkept]
    split
    case isTrue hfront => rw [List.isEmpty_iff.mp hfront, List.nil_append]
    case isFalse => rfl
  have hfront : (before ++ kept ++ behind).dropWhile isBlank =
      before.dropWhile isBlank ++ kept ++ behind := by
    rw [List.append_assoc, hdrop before (kept ++ behind) (by simp [hne]), List.append_assoc]
    rwa [List.head?_append_of_ne_nil _ hne]
  have hback : (before.dropWhile isBlank ++ kept ++ behind).reverse.dropWhile isBlank =
      behind.reverse.dropWhile isBlank ++ (before.dropWhile isBlank ++ kept).reverse := by
    rw [List.reverse_append, hdrop]
    · simp [hne]
    · rwa [List.head?_reverse, List.getLast?_append_of_ne_nil _ hne]
  rw [trimBlank, hfront, hback, List.reverse_append, List.reverse_reverse, List.rdropWhile]

end WikiMarkup.Text
