import Mathlib.Data.List.Infix
import WikiMarkup.Proofs.Text.Words
import WikiMarkup.Text.Utf8

/-!
The byte sequences of single characters. A first byte says how many bytes follow it and in which
range the first of these lies; with all of them in range it makes a sequence. The table of first
bytes is such that the sequences are just the encodings of the characters, so surrogates, overlong
forms and values past the last character have none. What stands at the front of bytes is then one of
four things: a sequence, a byte that begins none, a sequence that breaks off at a byte out of range,
or one that the end cuts off.
-/

namespace WikiMarkup.Utf8

/-- Bytes that may follow a first byte: the first of them in the given range, every other in the
range of continuation bytes. -/
def AreInRange (low high : UInt8) : List UInt8 → Prop
  | [] => True
  | b :: rest => low ≤ b ∧ b ≤ high ∧ AreInRange 0x80 0xBF rest

/-- The number that a sequence stands for. -/
def codeOf (lead : Lead) (tail : List UInt8) : Nat :=
  tail.foldl (fun n b => n * 64 + (b.toNat - 0x80)) lead.bits

/-- A first byte with all the bytes that it asks for. -/
structure IsSequence (b : UInt8) (lead : Lead) (tail : List UInt8) : Prop where
  reads : lead? b = some lead
  inRange : AreInRange lead.low lead.high tail
  full : tail.length = lead.following

/-- The table of first bytes by the number of bytes that follow. -/
theorem lead?_eq_some_iff {b : UInt8} {lead : Lead} :
    lead? b = some lead ↔
      (b.toNat < 0x80 ∧ lead = ⟨0, 0x80, 0xBF, b.toNat⟩) ∨
      (0xC2 ≤ b.toNat ∧ b.toNat < 0xE0 ∧ lead = ⟨1, 0x80, 0xBF, b.toNat - 0xC0⟩) ∨
      (0xE0 ≤ b.toNat ∧ b.toNat < 0xF0 ∧ lead = ⟨2, if b.toNat = 0xE0 then 0xA0 else 0x80,
        if b.toNat = 0xED then 0x9F else 0xBF, b.toNat - 0xE0⟩) ∨
      (0xF0 ≤ b.toNat ∧ b.toNat < 0xF5 ∧ lead = ⟨3, if b.toNat = 0xF0 then 0x90 else 0x80,
        if b.toNat = 0xF4 then 0x8F else 0xBF, b.toNat - 0xF0⟩) := by
  unfold lead?
  simp only [UInt8.lt_iff_toNat_lt, ← UInt8.toNat_inj, UInt8.reduceToNat]
  grind

theorem low_le_high {b : UInt8} {lead : Lead} (h : lead? b = some lead) : lead.low ≤ lead.high := by
  rw [UInt8.le_iff_toNat_le]
  rcases lead?_eq_some_iff.mp h with ⟨-, rfl⟩ | ⟨-, -, rfl⟩ | ⟨-, -, rfl⟩ | ⟨-, -, rfl⟩ <;>
    simp only [apply_ite UInt8.toNat, UInt8.reduceToNat] <;> grind

theorem areInRange_cons_iff {low high b : UInt8} {rest : List UInt8} :
    AreInRange low high (b :: rest) ↔
      (low.toNat ≤ b.toNat ∧ b.toNat ≤ high.toNat) ∧ AreInRange 0x80 0xBF rest := by
  rw [AreInRange, UInt8.le_iff_toNat_le, UInt8.le_iff_toNat_le, and_assoc]

theorem AreInRange.of_append {low high : UInt8} {tail more : List UInt8}
    (h : AreInRange low high (tail ++ more)) : AreInRange low high tail := by
  induction tail generalizing low high with
  | nil => trivial
  | cons b rest ih => exact ⟨h.1, h.2.1, ih h.2.2⟩

/-- Bytes in range can be brought to any greater number. -/
theorem AreInRange.exists_full {low high : UInt8} {tail : List UInt8} {count : Nat}
    (h : AreInRange low high tail) (hlow : low ≤ high) (hlength : tail.length ≤ count) :
    ∃ more, AreInRange low high (tail ++ more) ∧ (tail ++ more).length = count := by
  induction count generalizing low high tail with
  | zero =>
      obtain rfl : tail = [] := List.length_eq_zero_iff.mp (by omega)
      exact ⟨[], trivial, rfl⟩
  | succ count ih =>
      cases tail with
      | nil =>
          have hnone : AreInRange 0x80 0xBF [] := trivial
          obtain ⟨more, hmore, hfull⟩ := ih hnone (by decide) (by simp)
          exact ⟨low :: more, ⟨UInt8.le_refl low, hlow, hmore⟩, by simpa using hfull⟩
      | cons b rest =>
          obtain ⟨more, hmore, hfull⟩ := ih h.2.2 (by decide) (by simpa using hlength)
          exact ⟨more, ⟨h.1, h.2.1, hmore⟩, by simpa using hfull⟩

theorem byte_ofNat {n : Nat} {b : UInt8} (h : n = b.toNat) : UInt8.ofNat n = b := by
  rw [h, UInt8.ofNat_toNat]

theorem toNat_byte {n : Nat} (h : n < 256) : (UInt8.ofNat n).toNat = n :=
  UInt8.toNat_ofNat_of_lt' h

theorem encodeChar_one {b : UInt8} (hb : b.toNat < 0x80) :
    String.utf8EncodeChar (Char.ofNat b.toNat) = [b] := by
  have hvalue : (Char.ofNat b.toNat).val.toNat = b.toNat := Text.toNat_ofNat (.inl (by omega))
  rw [String.utf8EncodeChar, hvalue, if_pos (by omega), UInt8.ofNat_toNat]

theorem encodeChar_two {b x : UInt8} (hb : 0xC2 ≤ b.toNat ∧ b.toNat < 0xE0)
    (hx : 0x80 ≤ x.toNat ∧ x.toNat ≤ 0xBF) :
    String.utf8EncodeChar (Char.ofNat ((b.toNat - 0xC0) * 64 + (x.toNat - 0x80))) = [b, x] := by
  generalize hn : (b.toNat - 0xC0) * 64 + (x.toNat - 0x80) = n
  have hvalue : (Char.ofNat n).val.toNat = n := Text.toNat_ofNat (.inl (by omega))
  rw [String.utf8EncodeChar, hvalue, if_neg (by omega), if_pos (by omega),
    byte_ofNat (b := b) (by omega), byte_ofNat (b := x) (by omega)]

/-- The narrower ranges after two of the first bytes keep out overlong forms and surrogates. -/
theorem encodeChar_three {b x y : UInt8} (hb : 0xE0 ≤ b.toNat ∧ b.toNat < 0xF0)
    (hx : 0x80 ≤ x.toNat ∧ x.toNat ≤ 0xBF) (hy : 0x80 ≤ y.toNat ∧ y.toNat ≤ 0xBF)
    (hlow : b.toNat = 0xE0 → 0xA0 ≤ x.toNat) (hhigh : b.toNat = 0xED → x.toNat ≤ 0x9F) :
    String.utf8EncodeChar (Char.ofNat
      (((b.toNat - 0xE0) * 64 + (x.toNat - 0x80)) * 64 + (y.toNat - 0x80))) = [b, x, y] := by
  generalize hn : ((b.toNat - 0xE0) * 64 + (x.toNat - 0x80)) * 64 + (y.toNat - 0x80) = n
  have hvalid : n.isValidChar := by
    rw [Nat.isValidChar]
    omega
  have hvalue : (Char.ofNat n).val.toNat = n := Text.toNat_ofNat hvalid
  rw [String.utf8EncodeChar, hvalue, if_neg (by omega), if_neg (by omega), if_pos (by omega),
    byte_ofNat (b := b) (by omega), byte_ofNat (b := x) (by omega), byte_ofNat (b := y) (by omega)]

/-- The narrower ranges keep out overlong forms and values past the last character. -/
theorem encodeChar_four {b x y z : UInt8} (hb : 0xF0 ≤ b.toNat ∧ b.toNat < 0xF5)
    (hx : 0x80 ≤ x.toNat ∧ x.toNat ≤ 0xBF) (hy : 0x80 ≤ y.toNat ∧ y.toNat ≤ 0xBF)
    (hz : 0x80 ≤ z.toNat ∧ z.toNat ≤ 0xBF)
    (hlow : b.toNat = 0xF0 → 0x90 ≤ x.toNat) (hhigh : b.toNat = 0xF4 → x.toNat ≤ 0x8F) :
    String.utf8EncodeChar (Char.ofNat
      ((((b.toNat - 0xF0) * 64 + (x.toNat - 0x80)) * 64 + (y.toNat - 0x80)) * 64 +
        (z.toNat - 0x80))) = [b, x, y, z] := by
  generalize hn : (((b.toNat - 0xF0) * 64 + (x.toNat - 0x80)) * 64 + (y.toNat - 0x80)) * 64 +
    (z.toNat - 0x80) = n
  have hvalid : n.isValidChar := by
    rw [Nat.isValidChar]
    omega
  have hvalue : (Char.ofNat n).val.toNat = n := Text.toNat_ofNat hvalid
  rw [String.utf8EncodeChar, hvalue, if_neg (by omega), if_neg (by omega), if_neg (by omega),
    byte_ofNat (b := b) (by omega), byte_ofNat (b := x) (by omega), byte_ofNat (b := y) (by omega),
    byte_ofNat (b := z) (by omega)]

/-- A sequence is the encoding of the character that it stands for. -/
theorem encodeChar_of_isSequence {b : UInt8} {lead : Lead} {tail : List UInt8}
    (h : IsSequence b lead tail) :
    String.utf8EncodeChar (Char.ofNat (codeOf lead tail)) = b :: tail := by
  obtain ⟨hreads, hrange, hfull⟩ := h
  rcases lead?_eq_some_iff.mp hreads with
    ⟨hb, rfl⟩ | ⟨hb, hb', rfl⟩ | ⟨hb, hb', rfl⟩ | ⟨hb, hb', rfl⟩
  · obtain rfl : tail = [] := List.length_eq_zero_iff.mp hfull
    exact encodeChar_one hb
  · obtain ⟨x, rfl⟩ := List.length_eq_one_iff.mp hfull
    simp only [areInRange_cons_iff, UInt8.reduceToNat] at hrange
    exact encodeChar_two ⟨hb, hb'⟩ hrange.1
  · obtain ⟨x, y, rfl⟩ := List.length_eq_two.mp hfull
    simp only [areInRange_cons_iff, apply_ite UInt8.toNat, UInt8.reduceToNat] at hrange
    apply encodeChar_three ⟨hb, hb'⟩ <;> grind
  · obtain ⟨x, y, z, rfl⟩ := List.length_eq_three.mp hfull
    simp only [areInRange_cons_iff, apply_ite UInt8.toNat, UInt8.reduceToNat] at hrange
    apply encodeChar_four ⟨hb, hb'⟩ <;> grind

/-- Every character is encoded as a sequence that stands for it. -/
theorem exists_isSequence (c : Char) :
    ∃ b lead tail, String.utf8EncodeChar c = b :: tail ∧ IsSequence b lead tail ∧
      codeOf lead tail = c.toNat := by
  have hvalid : c.val.toNat < 0xD800 ∨ 0xDFFF < c.val.toNat ∧ c.val.toNat < 0x110000 := c.valid
  have hcode : c.toNat = c.val.toNat := rfl
  rw [String.utf8EncodeChar, hcode]
  generalize c.val.toNat = n at hvalid
  have hwidth : n ≤ 0x7F ∨ 0x7F < n ∧ n ≤ 0x7FF ∨ 0x7FF < n ∧ n ≤ 0xFFFF ∨ 0xFFFF < n := by omega
  rcases hwidth with h | h | h | h
  · rw [if_pos (by omega)]
    have hb := toNat_byte (n := n) (by omega)
    exact ⟨_, _, [], rfl, ⟨lead?_eq_some_iff.mpr (.inl ⟨by omega, rfl⟩), trivial, rfl⟩, hb⟩
  · rw [if_neg (by omega), if_pos (by omega)]
    have hb := toNat_byte (n := n / 64 % 32 + 0xC0) (by omega)
    have hx := toNat_byte (n := n % 64 + 0x80) (by omega)
    refine ⟨_, _, [_], rfl,
      ⟨lead?_eq_some_iff.mpr (.inr (.inl ⟨by omega, by omega, rfl⟩)), ?_, rfl⟩, ?_⟩
    · simp only [areInRange_cons_iff, UInt8.reduceToNat]
      exact ⟨by omega, trivial⟩
    · simp only [codeOf, List.foldl_cons, List.foldl_nil, hb, hx]
      omega
  · rw [if_neg (by omega), if_neg (by omega), if_pos (by omega)]
    have hb := toNat_byte (n := n / 4096 % 16 + 0xE0) (by omega)
    have hx := toNat_byte (n := n / 64 % 64 + 0x80) (by omega)
    have hy := toNat_byte (n := n % 64 + 0x80) (by omega)
    refine ⟨_, _, [_, _], rfl,
      ⟨lead?_eq_some_iff.mpr (.inr (.inr (.inl ⟨by omega, by omega, rfl⟩))), ?_, rfl⟩, ?_⟩
    · simp only [areInRange_cons_iff, apply_ite UInt8.toNat, UInt8.reduceToNat, hb, hx, hy]
      refine ⟨?_, by omega, trivial⟩
      constructor <;> split <;> omega
    · simp only [codeOf, List.foldl_cons, List.foldl_nil, hb, hx, hy]
      omega
  · rw [if_neg (by omega), if_neg (by omega), if_neg (by omega)]
    have hb := toNat_byte (n := n / 262144 % 8 + 0xF0) (by omega)
    have hx := toNat_byte (n := n / 4096 % 64 + 0x80) (by omega)
    have hy := toNat_byte (n := n / 64 % 64 + 0x80) (by omega)
    have hz := toNat_byte (n := n % 64 + 0x80) (by omega)
    refine ⟨_, _, [_, _, _], rfl,
      ⟨lead?_eq_some_iff.mpr (.inr (.inr (.inr ⟨by omega, by omega, rfl⟩))), ?_, rfl⟩, ?_⟩
    · simp only [areInRange_cons_iff, apply_ite UInt8.toNat, UInt8.reduceToNat, hb, hx, hy, hz]
      refine ⟨?_, by omega, by omega, trivial⟩
      constructor <;> split <;> omega
    · simp only [codeOf, List.foldl_cons, List.foldl_nil, hb, hx, hy, hz]
      omega

/-- Continuation bytes are taken as far as they are asked for and in range. -/
theorem continuation_cases (count : Nat) (low high : UInt8) (bytes : List UInt8) :
    ∃ tail more, bytes = tail ++ more ∧ continuation count low high bytes = tail ∧
      AreInRange low high tail ∧ (tail.length = count ∨ tail.length < count ∧
        ∀ next ∈ more.head?, ¬AreInRange low high (tail ++ [next])) := by
  induction count generalizing low high bytes with
  | zero => exact ⟨[], bytes, rfl, by cases bytes <;> rfl, trivial, .inl rfl⟩
  | succ count ih =>
      cases bytes with
      | nil => exact ⟨[], [], rfl, rfl, trivial, .inr ⟨by simp, by simp⟩⟩
      | cons b rest =>
          by_cases hb : low ≤ b ∧ b ≤ high
          · obtain ⟨tail, more, rfl, htail, hrange, hend⟩ := ih 0x80 0xBF rest
            refine ⟨b :: tail, more, rfl, by rw [continuation, if_pos hb, htail],
              ⟨hb.1, hb.2, hrange⟩, ?_⟩
            rcases hend with hfull | ⟨hshort, hstop⟩
            · exact .inl (congrArg (· + 1) hfull)
            · refine .inr ⟨Nat.succ_lt_succ hshort, ?_⟩
              intro next hnext h
              exact hstop next hnext h.2.2
          · refine ⟨[], b :: rest, rfl, by rw [continuation, if_neg hb], trivial,
              .inr ⟨by simp, ?_⟩⟩
            intro next hnext h
            obtain rfl : b = next := by simpa using hnext
            exact hb ⟨h.1, h.2.1⟩

/-- All that can stand at the front of bytes. -/
inductive HeadOf (b : UInt8) (rest : List UInt8) : Head → Prop where
  | char {lead : Lead} {tail more : List UInt8} (hseq : IsSequence b lead tail)
      (hrest : rest = tail ++ more) :
      HeadOf b rest (.char (Char.ofNat (codeOf lead tail)) (tail.length + 1))
  | noLead (hlead : lead? b = none) : HeadOf b rest (.bad 1)
  | broken {lead : Lead} {tail more : List UInt8} {next : UInt8} (hlead : lead? b = some lead)
      (hrest : rest = tail ++ next :: more) (hrange : AreInRange lead.low lead.high tail)
      (hshort : tail.length < lead.following)
      (hnext : ¬AreInRange lead.low lead.high (tail ++ [next])) :
      HeadOf b rest (.bad (tail.length + 1))
  | cut {lead : Lead} (hlead : lead? b = some lead) (hrange : AreInRange lead.low lead.high rest)
      (hshort : rest.length < lead.following) : HeadOf b rest .cut

theorem headOf_head (b : UInt8) (rest : List UInt8) : HeadOf b rest (head b rest) := by
  unfold head
  split
  case h_1 hnone => exact .noLead hnone
  case h_2 lead hlead =>
    obtain ⟨tail, more, rfl, htail, hrange, hend⟩ :=
      continuation_cases lead.following lead.low lead.high rest
    simp only [htail]
    rcases hend with hfull | ⟨hshort, hstop⟩
    · rw [if_pos hfull]
      exact .char ⟨hlead, hrange, hfull⟩ rfl
    · rw [if_neg (by omega)]
      cases more with
      | nil =>
          rw [if_pos (by simp)]
          exact .cut hlead (by simpa using hrange) (by simpa using hshort)
      | cons next more =>
          rw [if_neg (by simp)]
          exact .broken hlead rfl hrange hshort (hstop next rfl)

/-- No sequence begins with another one. -/
theorem IsSequence.eq_of_append {b : UInt8} {lead lead' : Lead} {tail tail' more more' : List UInt8}
    (h : IsSequence b lead tail) (h' : IsSequence b lead' tail')
    (heq : tail ++ more = tail' ++ more') : lead = lead' ∧ tail = tail' ∧ more = more' := by
  obtain rfl : lead = lead' := Option.some.inj (h.reads.symm.trans h'.reads)
  obtain ⟨rfl, rfl⟩ := List.append_inj heq (h.full.trans h'.full.symm)
  exact ⟨rfl, rfl, rfl⟩

/-- A sequence has its bytes in range up to any place. -/
theorem IsSequence.areInRange_of_prefix {b : UInt8} {lead lead' : Lead}
    {tail more front : List UInt8} (h : IsSequence b lead tail) (hlead : lead? b = some lead')
    (hfront : front <+: tail ++ more) (hlength : front.length ≤ lead'.following) :
    AreInRange lead'.low lead'.high front := by
  obtain rfl : lead = lead' := Option.some.inj (h.reads.symm.trans hlead)
  obtain ⟨rest, rfl⟩ :=
    List.prefix_of_prefix_length_le hfront (List.prefix_append tail more) (h.full ▸ hlength)
  exact h.inRange.of_append

/-- A sequence at the front of bytes is read as its character. -/
theorem head_of_isSequence {b : UInt8} {lead : Lead} {tail : List UInt8}
    (h : IsSequence b lead tail) (more : List UInt8) :
    head b (tail ++ more) = .char (Char.ofNat (codeOf lead tail)) (tail.length + 1) := by
  have hhead := headOf_head b (tail ++ more)
  generalize head b (tail ++ more) = found at hhead
  cases hhead with
  | char hseq hrest =>
      obtain ⟨rfl, rfl, -⟩ := h.eq_of_append hseq hrest
      rfl
  | noLead hlead => exact absurd h.reads (by simp [hlead])
  | @broken lead' tail' more' next hlead hrest hrange hshort hnext =>
      have hfront : tail' ++ [next] <+: tail ++ more := ⟨more', by simp [hrest]⟩
      have hlength : (tail' ++ [next]).length ≤ lead'.following := by
        simpa using Nat.succ_le_of_lt hshort
      exact absurd (h.areInRange_of_prefix hlead hfront hlength) hnext
  | cut hlead hrange hshort =>
      obtain rfl := Option.some.inj (h.reads.symm.trans hlead)
      rw [List.length_append, h.full] at hshort
      omega

end WikiMarkup.Utf8
