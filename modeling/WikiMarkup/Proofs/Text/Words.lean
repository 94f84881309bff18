import WikiMarkup.Text.Blank
import WikiMarkup.Text.Pieces

/-!
Words of a text and their lower case by the rules of Unicode. Words are the same up to case if their
lower cases are; this keeps apart some letters that have one upper case, such as `s` and the long
`s`.
-/

namespace WikiMarkup.Text

/-- The words of a text, between which blank characters stand. -/
def words (cs : List Char) : List (List Char) := (pieces isBlank cs).filter (!·.isEmpty)

theorem head?_pieces (isBreak : Char → Bool) (cs : List Char) :
    (pieces isBreak cs).head? = some (cs.takeWhile (!isBreak ·)) := by
  induction cs with
  | nil => rfl
  | cons c rest ih =>
      by_cases hc : isBreak c
      · simp [pieces, hc]
      · obtain ⟨piece, others, hpieces⟩ := List.exists_cons_of_ne_nil (pieces_ne_nil isBreak rest)
        rw [hpieces, List.head?_cons, Option.some.injEq] at ih
        simp [pieces, hc, hpieces, ih]

theorem firstWord?_eq_head? (cs : List Char) : firstWord? cs = (words cs).head? := by
  induction cs with
  | nil => rfl
  | cons c rest ih =>
      by_cases hc : isBlank c
      · have hfirst : firstWord? (c :: rest) = firstWord? rest := by
          simp only [firstWord?, List.dropWhile_cons_of_pos hc]
        rw [hfirst, ih]
        simp [words, pieces, hc]
      · have hfirst : firstWord? (c :: rest) = some (c :: rest.takeWhile (!isBlank ·)) := by
          simp [firstWord?, hc]
        obtain ⟨piece, others, hpieces⟩ := List.exists_cons_of_ne_nil (pieces_ne_nil isBlank rest)
        have hpiece := head?_pieces isBlank rest
        rw [hpieces, List.head?_cons, Option.some.injEq] at hpiece
        simp [hfirst, words, pieces, hc, hpieces, hpiece]

theorem firstWord?_of_word {word : List Char} (hne : word ≠ [])
    (hword : ∀ c ∈ word, isBlank c = false) : firstWord? word = some word := by
  cases word with
  | nil => exact absurd rfl hne
  | cons c rest =>
      have hdrop : (c :: rest).dropWhile isBlank = c :: rest :=
        List.dropWhile_cons_of_neg (by simp [hword c (by simp)])
      have htake : (c :: rest).takeWhile (!isBlank ·) = c :: rest := by
        have hall : ∀ d ∈ c :: rest, (!isBlank d) = true := fun d hd => by simp [hword d hd]
        have happend := @List.takeWhile_append_of_pos _ (!isBlank ·) (c :: rest) [] hall
        simpa only [List.append_nil, List.takeWhile_nil] using happend
      rw [firstWord?, hdrop, htake]

/-- Characters that have their lower cases in a row as they are in a row themselves: every one from
the first to the last, or every other one where upper and lower case take turns. -/
structure LowerRange where
  first : Nat
  last : Nat
  step : Nat
  /-- Lower case of the first character. -/
  image : Nat
  deriving DecidableEq

namespace LowerRange

def covers (r : LowerRange) (n : Nat) : Bool :=
  r.first ≤ n && n ≤ r.last && (n - r.first) % r.step = 0

def lower (r : LowerRange) (n : Nat) : Nat := r.image + (n - r.first)

end LowerRange

/-- All characters with a single character other than themselves for their lower case. The two small
sigmas count as one: which of them a capital becomes is settled by its place in the word. -/
def lowerRanges : List LowerRange :=
  [⟨0x41, 0x5A, 1, 0x61⟩, ⟨0xC0, 0xD6, 1, 0xE0⟩, ⟨0xD8, 0xDE, 1, 0xF8⟩, ⟨0x100, 0x12E, 2, 0x101⟩,
    ⟨0x132, 0x136, 2, 0x133⟩, ⟨0x139, 0x147, 2, 0x13A⟩, ⟨0x14A, 0x176, 2, 0x14B⟩,
    ⟨0x178, 0x178, 1, 0xFF⟩, ⟨0x179, 0x17D, 2, 0x17A⟩, ⟨0x181, 0x181, 1, 0x253⟩,
    ⟨0x182, 0x184, 2, 0x183⟩, ⟨0x186, 0x186, 1, 0x254⟩, ⟨0x187, 0x187, 1, 0x188⟩,
    ⟨0x189, 0x18A, 1, 0x256⟩, ⟨0x18B, 0x18B, 1, 0x18C⟩, ⟨0x18E, 0x18E, 1, 0x1DD⟩,
    ⟨0x18F, 0x18F, 1, 0x259⟩, ⟨0x190, 0x190, 1, 0x25B⟩, ⟨0x191, 0x191, 1, 0x192⟩,
    ⟨0x193, 0x193, 1, 0x260⟩, ⟨0x194, 0x194, 1, 0x263⟩, ⟨0x196, 0x196, 1, 0x269⟩,
    ⟨0x197, 0x197, 1, 0x268⟩, ⟨0x198, 0x198, 1, 0x199⟩, ⟨0x19C, 0x19C, 1, 0x26F⟩,
    ⟨0x19D, 0x19D, 1, 0x272⟩, ⟨0x19F, 0x19F, 1, 0x275⟩, ⟨0x1A0, 0x1A4, 2, 0x1A1⟩,
    ⟨0x1A6, 0x1A6, 1, 0x280⟩, ⟨0x1A7, 0x1A7, 1, 0x1A8⟩, ⟨0x1A9, 0x1A9, 1, 0x283⟩,
    ⟨0x1AC, 0x1AC, 1, 0x1AD⟩, ⟨0x1AE, 0x1AE, 1, 0x288⟩, ⟨0x1AF, 0x1AF, 1, 0x1B0⟩,
    ⟨0x1B1, 0x1B2, 1, 0x28A⟩, ⟨0x1B3, 0x1B5, 2, 0x1B4⟩, ⟨0x1B7, 0x1B7, 1, 0x292⟩,
    ⟨0x1B8, 0x1B8, 1, 0x1B9⟩, ⟨0x1BC, 0x1BC, 1, 0x1BD⟩, ⟨0x1C4, 0x1C4, 1, 0x1C6⟩,
    ⟨0x1C5, 0x1C5, 1, 0x1C6⟩, ⟨0x1C7, 0x1C7, 1, 0x1C9⟩, ⟨0x1C8, 0x1C8, 1, 0x1C9⟩,
    ⟨0x1CA, 0x1CA, 1, 0x1CC⟩, ⟨0x1CB, 0x1DB, 2, 0x1CC⟩, ⟨0x1DE, 0x1EE, 2, 0x1DF⟩,
    ⟨0x1F1, 0x1F1, 1, 0x1F3⟩, ⟨0x1F2, 0x1F4, 2, 0x1F3⟩, ⟨0x1F6, 0x1F6, 1, 0x195⟩,
    ⟨0x1F7, 0x1F7, 1, 0x1BF⟩, ⟨0x1F8, 0x21E, 2, 0x1F9⟩, ⟨0x220, 0x220, 1, 0x19E⟩,
    ⟨0x222, 0x232, 2, 0x223⟩, ⟨0x23A, 0x23A, 1, 0x2C65⟩, ⟨0x23B, 0x23B, 1, 0x23C⟩,
    ⟨0x23D, 0x23D, 1, 0x19A⟩, ⟨0x23E, 0x23E, 1, 0x2C66⟩, ⟨0x241, 0x241, 1, 0x242⟩,
    ⟨0x243, 0x243, 1, 0x180⟩, ⟨0x244, 0x244, 1, 0x289⟩, ⟨0x245, 0x245, 1, 0x28C⟩,
    ⟨0x246, 0x24E, 2, 0x247⟩, ⟨0x370, 0x372, 2, 0x371⟩, ⟨0x376, 0x376, 1, 0x377⟩,
    ⟨0x37F, 0x37F, 1, 0x3F3⟩, ⟨0x386, 0x386, 1, 0x3AC⟩, ⟨0x388, 0x38A, 1, 0x3AD⟩,
    ⟨0x38C, 0x38C, 1, 0x3CC⟩, ⟨0x38E, 0x38F, 1, 0x3CD⟩, ⟨0x391, 0x3A1, 1, 0x3B1⟩,
    ⟨0x3A3, 0x3AB, 1, 0x3C3⟩, ⟨0x3C2, 0x3C2, 1, 0x3C3⟩, ⟨0x3CF, 0x3CF, 1, 0x3D7⟩,
    ⟨0x3D8, 0x3EE, 2, 0x3D9⟩, ⟨0x3F4, 0x3F4, 1, 0x3B8⟩, ⟨0x3F7, 0x3F7, 1, 0x3F8⟩,
    ⟨0x3F9, 0x3F9, 1, 0x3F2⟩, ⟨0x3FA, 0x3FA, 1, 0x3FB⟩, ⟨0x3FD, 0x3FF, 1, 0x37B⟩,
    ⟨0x400, 0x40F, 1, 0x450⟩, ⟨0x410, 0x42F, 1, 0x430⟩, ⟨0x460, 0x480, 2, 0x461⟩,
    ⟨0x48A, 0x4BE, 2, 0x48B⟩, ⟨0x4C0, 0x4C0, 1, 0x4CF⟩, ⟨0x4C1, 0x4CD, 2, 0x4C2⟩,
    ⟨0x4D0, 0x52E, 2, 0x4D1⟩, ⟨0x531, 0x556, 1, 0x561⟩, ⟨0x10A0, 0x10C5, 1, 0x2D00⟩,
    ⟨0x10C7, 0x10C7, 1, 0x2D27⟩, ⟨0x10CD, 0x10CD, 1, 0x2D2D⟩, ⟨0x13A0, 0x13EF, 1, 0xAB70⟩,
    ⟨0x13F0, 0x13F5, 1, 0x13F8⟩, ⟨0x1C89, 0x1C89, 1, 0x1C8A⟩, ⟨0x1C90, 0x1CBA, 1, 0x10D0⟩,
    ⟨0x1CBD, 0x1CBF, 1, 0x10FD⟩, ⟨0x1E00, 0x1E94, 2, 0x1E01⟩, ⟨0x1E9E, 0x1E9E, 1, 0xDF⟩,
    ⟨0x1EA0, 0x1EFE, 2, 0x1EA1⟩, ⟨0x1F08, 0x1F0F, 1, 0x1F00⟩, ⟨0x1F18, 0x1F1D, 1, 0x1F10⟩,
    ⟨0x1F28, 0x1F2F, 1, 0x1F20⟩, ⟨0x1F38, 0x1F3F, 1, 0x1F30⟩, ⟨0x1F48, 0x1F4D, 1, 0x1F40⟩,
    ⟨0x1F59, 0x1F5F, 2, 0x1F51⟩, ⟨0x1F68, 0x1F6F, 1, 0x1F60⟩, ⟨0x1F88, 0x1F8F, 1, 0x1F80⟩,
    ⟨0x1F98, 0x1F9F, 1, 0x1F90⟩, ⟨0x1FA8, 0x1FAF, 1, 0x1FA0⟩, ⟨0x1FB8, 0x1FB9, 1, 0x1FB0⟩,
    ⟨0x1FBA, 0x1FBB, 1, 0x1F70⟩, ⟨0x1FBC, 0x1FBC, 1, 0x1FB3⟩, ⟨0x1FC8, 0x1FCB, 1, 0x1F72⟩,
    ⟨0x1FCC, 0x1FCC, 1, 0x1FC3⟩, ⟨0x1FD8, 0x1FD9, 1, 0x1FD0⟩, ⟨0x1FDA, 0x1FDB, 1, 0x1F76⟩,
    ⟨0x1FE8, 0x1FE9, 1, 0x1FE0⟩, ⟨0x1FEA, 0x1FEB, 1, 0x1F7A⟩, ⟨0x1FEC, 0x1FEC, 1, 0x1FE5⟩,
    ⟨0x1FF8, 0x1FF9, 1, 0x1F78⟩, ⟨0x1FFA, 0x1FFB, 1, 0x1F7C⟩, ⟨0x1FFC, 0x1FFC, 1, 0x1FF3⟩,
    ⟨0x2126, 0x2126, 1, 0x3C9⟩, ⟨0x212A, 0x212A, 1, 0x6B⟩, ⟨0x212B, 0x212B, 1, 0xE5⟩,
    ⟨0x2132, 0x2132, 1, 0x214E⟩, ⟨0x2160, 0x216F, 1, 0x2170⟩, ⟨0x2183, 0x2183, 1, 0x2184⟩,
    ⟨0x24B6, 0x24CF, 1, 0x24D0⟩, ⟨0x2C00, 0x2C2F, 1, 0x2C30⟩, ⟨0x2C60, 0x2C60, 1, 0x2C61⟩,
    ⟨0x2C62, 0x2C62, 1, 0x26B⟩, ⟨0x2C63, 0x2C63, 1, 0x1D7D⟩, ⟨0x2C64, 0x2C64, 1, 0x27D⟩,
    ⟨0x2C67, 0x2C6B, 2, 0x2C68⟩, ⟨0x2C6D, 0x2C6D, 1, 0x251⟩, ⟨0x2C6E, 0x2C6E, 1, 0x271⟩,
    ⟨0x2C6F, 0x2C6F, 1, 0x250⟩, ⟨0x2C70, 0x2C70, 1, 0x252⟩, ⟨0x2C72, 0x2C72, 1, 0x2C73⟩,
    ⟨0x2C75, 0x2C75, 1, 0x2C76⟩, ⟨0x2C7E, 0x2C7F, 1, 0x23F⟩, ⟨0x2C80, 0x2CE2, 2, 0x2C81⟩,
    ⟨0x2CEB, 0x2CED, 2, 0x2CEC⟩, ⟨0x2CF2, 0x2CF2, 1, 0x2CF3⟩, ⟨0xA640, 0xA66C, 2, 0xA641⟩,
    ⟨0xA680, 0xA69A, 2, 0xA681⟩, ⟨0xA722, 0xA72E, 2, 0xA723⟩, ⟨0xA732, 0xA76E, 2, 0xA733⟩,
    ⟨0xA779, 0xA77B, 2, 0xA77A⟩, ⟨0xA77D, 0xA77D, 1, 0x1D79⟩, ⟨0xA77E, 0xA786, 2, 0xA77F⟩,
    ⟨0xA78B, 0xA78B, 1, 0xA78C⟩, ⟨0xA78D, 0xA78D, 1, 0x265⟩, ⟨0xA790, 0xA792, 2, 0xA791⟩,
    ⟨0xA796, 0xA7A8, 2, 0xA797⟩, ⟨0xA7AA, 0xA7AA, 1, 0x266⟩, ⟨0xA7AB, 0xA7AB, 1, 0x25C⟩,
    ⟨0xA7AC, 0xA7AC, 1, 0x261⟩, ⟨0xA7AD, 0xA7AD, 1, 0x26C⟩, ⟨0xA7AE, 0xA7AE, 1, 0x26A⟩,
    ⟨0xA7B0, 0xA7B0, 1, 0x29E⟩, ⟨0xA7B1, 0xA7B1, 1, 0x287⟩, ⟨0xA7B2, 0xA7B2, 1, 0x29D⟩,
    ⟨0xA7B3, 0xA7B3, 1, 0xAB53⟩, ⟨0xA7B4, 0xA7C2, 2, 0xA7B5⟩, ⟨0xA7C4, 0xA7C4, 1, 0xA794⟩,
    ⟨0xA7C5, 0xA7C5, 1, 0x282⟩, ⟨0xA7C6, 0xA7C6, 1, 0x1D8E⟩, ⟨0xA7C7, 0xA7C9, 2, 0xA7C8⟩,
    ⟨0xA7CB, 0xA7CB, 1, 0x264⟩, ⟨0xA7CC, 0xA7DA, 2, 0xA7CD⟩, ⟨0xA7DC, 0xA7DC, 1, 0x19B⟩,
    ⟨0xA7F5, 0xA7F5, 1, 0xA7F6⟩, ⟨0xFF21, 0xFF3A, 1, 0xFF41⟩, ⟨0x10400, 0x10427, 1, 0x10428⟩,
    ⟨0x104B0, 0x104D3, 1, 0x104D8⟩, ⟨0x10570, 0x1057A, 1, 0x10597⟩, ⟨0x1057C, 0x1058A, 1, 0x105A3⟩,
    ⟨0x1058C, 0x10592, 1, 0x105B3⟩, ⟨0x10594, 0x10595, 1, 0x105BB⟩, ⟨0x10C80, 0x10CB2, 1, 0x10CC0⟩,
    ⟨0x10D50, 0x10D65, 1, 0x10D70⟩, ⟨0x118A0, 0x118BF, 1, 0x118C0⟩, ⟨0x16E40, 0x16E5F, 1, 0x16E60⟩,
    ⟨0x16EA0, 0x16EB8, 1, 0x16EBB⟩, ⟨0x1E900, 0x1E921, 1, 0x1E922⟩]

/-- The lower case of a character. Only that of the dotted capital `I` is two characters. -/
def lowerChar (c : Char) : List Char :=
  if c = '\u0130' then ['i', '\u0307']
  else
    match lowerRanges.find? (·.covers c.toNat) with
    | some r => [Char.ofNat (r.lower c.toNat)]
    | none => [c]

def lowerCase (cs : List Char) : List Char := cs.flatMap lowerChar

/-- Within ASCII only the capital letters have other lower cases. -/
theorem lowerChar_of_ascii {c : Char} (h : c.toNat < 128) : lowerChar c = [c.toLower] := by
  have hne : c ≠ '\u0130' := by
    rintro rfl
    exact absurd h (by decide)
  have hbeyond : ∀ r ∈ lowerRanges.tail, 128 ≤ r.first := by decide +kernel
  have hnone : lowerRanges.tail.find? (·.covers c.toNat) = none := by
    rw [List.find?_eq_none]
    intro r hr hcovers
    have hfirst := hbeyond r hr
    simp only [LowerRange.covers, Bool.and_eq_true, decide_eq_true_eq] at hcovers
    omega
  -- The first range is that of the ASCII letters, so only it can cover the character.
  have hletters : ∀ n < 128,
      (if LowerRange.covers ⟨0x41, 0x5A, 1, 0x61⟩ n then [Char.ofNat (0x61 + (n - 0x41))]
        else [Char.ofNat n]) = [(Char.ofNat n).toLower] := by decide +kernel
  have hlower := hletters c.toNat h
  rw [Char.ofNat_toNat] at hlower
  rw [← hlower, lowerChar, if_neg hne,
    show lowerRanges = ⟨0x41, 0x5A, 1, 0x61⟩ :: lowerRanges.tail from rfl, List.find?_cons, hnone]
  cases LowerRange.covers ⟨0x41, 0x5A, 1, 0x61⟩ c.toNat <;> rfl

theorem toLower_of_not_ascii {c : Char} (h : 128 ≤ c.toNat) : c.toLower = c := by
  have hupper : ¬(c.val ≥ 'A'.val ∧ c.val ≤ 'Z'.val) := by
    rintro ⟨_, hlast⟩
    have hle : c.toNat ≤ 90 := UInt32.le_iff_toNat_le.mp hlast
    omega
  exact dif_neg hupper

theorem toNat_ofNat {n : Nat} (h : n.isValidChar) : (Char.ofNat n).toNat = n := by
  rw [Char.ofNat, dif_pos h]
  rfl

theorem image_of_lowerRange : ∀ r ∈ lowerRanges,
    r.last < 128 ∨ r = ⟨0x212A, 0x212A, 1, 0x6B⟩ ∨
      128 ≤ r.image ∧ ∀ n ≤ r.last - r.first, (r.image + n).isValidChar := by
  have hall : ∀ r ∈ lowerRanges, r.last < 128 ∨ r = ⟨0x212A, 0x212A, 1, 0x6B⟩ ∨
      128 ≤ r.image ∧ (r.image + (r.last - r.first) < 0xD800 ∨
        0xDFFF < r.image ∧ r.image + (r.last - r.first) < 0x110000) := by decide +kernel
  intro r hr
  rcases hall r hr with hascii | hkelvin | ⟨himage, hvalid⟩
  · exact .inl hascii
  · exact .inr (.inl hkelvin)
  · refine .inr (.inr ⟨himage, fun n hn => ?_⟩)
    unfold Nat.isValidChar
    omega

theorem lowerChar_of_not_ascii {c : Char} (h : 128 ≤ c.toNat) :
    ∃ d ∈ lowerChar c, 128 ≤ d.toNat ∨ d = 'k' := by
  unfold lowerChar
  split
  case isTrue => exact ⟨'\u0307', by simp, .inl (by decide)⟩
  case isFalse =>
    cases hfind : lowerRanges.find? (·.covers c.toNat) with
    | none => exact ⟨c, by simp, .inl h⟩
    | some r =>
        refine ⟨_, List.mem_singleton_self _, ?_⟩
        have hcovers := List.find?_some hfind
        simp only [LowerRange.covers, Bool.and_eq_true, decide_eq_true_eq] at hcovers
        obtain ⟨⟨hfirst, hlast⟩, -⟩ := hcovers
        rcases image_of_lowerRange r (List.mem_of_find?_eq_some hfind) with
          hascii | rfl | ⟨himage, hvalid⟩
        · omega
        · right
          have hkelvin : c.toNat = 0x212A := Nat.le_antisymm hlast hfirst
          rw [hkelvin]
          rfl
        · left
          rw [LowerRange.lower, toNat_ofNat (hvalid _ (by omega))]
          omega

/-- A word has a lower case in ASCII without a `k` only if lowering its ASCII letters gives it. -/
theorem lowerCase_eq_iff {name : List Char} (hname : ∀ d ∈ name, d.toNat < 128 ∧ d ≠ 'k')
    (cs : List Char) : lowerCase cs = name ↔ cs.map Char.toLower = name := by
  induction cs generalizing name with
  | nil => rfl
  | cons c rest ih =>
      rw [lowerCase, List.flatMap_cons, List.map_cons]
      by_cases hc : c.toNat < 128
      · rw [lowerChar_of_ascii hc, List.singleton_append]
        cases name with
        | nil => simp
        | cons d more =>
            have hmore := ih (List.forall_mem_cons.mp hname).2
            rw [List.cons.injEq, List.cons.injEq, ← hmore, lowerCase]
      · rw [Nat.not_lt] at hc
        constructor
        · intro heq
          obtain ⟨d, hd, hout⟩ := lowerChar_of_not_ascii hc
          have hin := hname d (heq ▸ List.mem_append_left _ hd)
          rcases hout with hout | hout
          · omega
          · exact absurd hout hin.2
        · intro heq
          rw [toLower_of_not_ascii hc] at heq
          have hin := hname c (heq ▸ List.mem_cons_self)
          omega

end WikiMarkup.Text
