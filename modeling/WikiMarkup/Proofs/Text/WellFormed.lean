import WikiMarkup.Proofs.Text.Sequence

/-!
Well-formed bytes, which are the encodings of texts, and the faults of all others. Sequences can be
told apart from the left, so a well-formed front part neither makes nor mends a fault behind it. So
the decoder, which stops at the first fault, has read the longest well-formed front part by then;
how long the faulty sequence is follows from how far the bytes could still begin a text.
-/

namespace WikiMarkup.Utf8

/-- Bytes that encode a text. -/
def IsWellFormed (bytes : List UInt8) : Prop := ∃ text, encode text = bytes

/-- Bytes that more bytes behind them can make well formed. -/
def CanGoOn (bytes : List UInt8) : Prop := ∃ more, IsWellFormed (bytes ++ more)

/-- The length of the longest front part of bytes that has a property. -/
structure IsLongest (holds : List UInt8 → Prop) (bytes : List UInt8) (length : Nat) : Prop where
  reached : ∃ front, front <+: bytes ∧ front.length = length ∧ holds front
  longest : ∀ front, front <+: bytes → holds front → front.length ≤ length

/-- What an error says of bytes: how long their longest well-formed front part is, and how many
bytes behind it could go on to a sequence, but at least one, or that all of them could. -/
structure IsFault (bytes : List UInt8) (e : DecodeError) : Prop where
  malformed : ¬IsWellFormed bytes
  validUpTo : IsLongest IsWellFormed bytes e.validUpTo
  length : match e.length with
    | none => CanGoOn bytes
    | some length => ¬CanGoOn bytes ∧
        ∃ reach, IsLongest CanGoOn bytes reach ∧ length = max 1 (reach - e.validUpTo)

section Longest

variable {holds : List UInt8 → Prop} {bytes : List UInt8} {length : Nat}

theorem IsLongest.unique {other : Nat} (h : IsLongest holds bytes length)
    (hother : IsLongest holds bytes other) : length = other := by
  obtain ⟨front, hfront, rfl, hholds⟩ := h.reached
  obtain ⟨front', hfront', rfl, hholds'⟩ := hother.reached
  exact Nat.le_antisymm (hother.longest front hfront hholds) (h.longest front' hfront' hholds')

theorem IsLongest.not_of_lt (h : IsLongest holds bytes length) (hlt : length < bytes.length) :
    ¬holds bytes :=
  fun hholds => absurd (h.longest bytes List.prefix_rfl hholds) (Nat.not_le_of_lt hlt)

/-- A front part that takes no part in a property only adds its own length. -/
theorem IsLongest.behind {front : List UInt8}
    (hfront : ∀ bytes, holds (front ++ bytes) ↔ holds bytes) (h : IsLongest holds bytes length) :
    IsLongest holds (front ++ bytes) (front.length + length) := by
  constructor
  · obtain ⟨part, hpart, rfl, hholds⟩ := h.reached
    exact ⟨front ++ part, (List.prefix_append_right_inj front).mpr hpart, List.length_append,
      (hfront part).mpr hholds⟩
  · intro part hpart hholds
    rcases Nat.le_total part.length front.length with hle | hle
    · omega
    · obtain ⟨rest, rfl⟩ :=
        List.prefix_of_prefix_length_le (List.prefix_append front bytes) hpart hle
      have hrest := h.longest rest ((List.prefix_append_right_inj front).mp hpart)
        ((hfront rest).mp hholds)
      rw [List.length_append]
      omega

end Longest

/-- Bytes have one fault at most. -/
theorem IsFault.unique {bytes : List UInt8} {e other : DecodeError} (h : IsFault bytes e)
    (hother : IsFault bytes other) : e = other := by
  obtain ⟨validUpTo, length⟩ := e
  obtain ⟨validUpTo', length'⟩ := other
  obtain rfl : validUpTo = validUpTo' := h.validUpTo.unique hother.validUpTo
  have hlength := h.length
  have hlength' := hother.length
  cases length <;> cases length' <;> dsimp only at hlength hlength'
  · rfl
  · exact absurd hlength hlength'.1
  · exact absurd hlength' hlength.1
  · obtain ⟨reach, hreach, rfl⟩ := hlength.2
    obtain ⟨reach', hreach', rfl⟩ := hlength'.2
    rw [hreach.unique hreach']

theorem toList_loop_eq (bytes : ByteArray) (i : Nat) (front : List UInt8) :
    ByteArray.toList.loop bytes i front = front.reverse ++ bytes.data.toList.drop i := by
  fun_induction ByteArray.toList.loop bytes i front with
  | case1 i front hi ih =>
      have hlength : i < bytes.data.toList.length := hi
      have hbyte : bytes.get! i = bytes.data.toList[i] := by
        rw [ByteArray.get!, Array.getElem_toList]
        exact getElem!_pos bytes.data i hi
      rw [ih, List.drop_eq_getElem_cons hlength, hbyte, List.reverse_cons, List.append_assoc,
        List.singleton_append]
  | case2 i front hi =>
      have hlength : bytes.data.toList.length ≤ i := Nat.le_of_not_lt hi
      rw [List.drop_eq_nil_of_le hlength, List.append_nil]

theorem toList_eq (bytes : ByteArray) : bytes.toList = bytes.data.toList := by
  rw [ByteArray.toList, toList_loop_eq]
  rfl

theorem encode_eq (text : String) : encode text = text.toList.flatMap String.utf8EncodeChar := by
  rw [encode, toList_eq, String.toUTF8_eq_toByteArray, ← String.utf8Encode_toList, List.utf8Encode,
    List.toList_data_toByteArray]

theorem encode_ofList (cs : List Char) :
    encode (String.ofList cs) = cs.flatMap String.utf8EncodeChar := by
  rw [encode_eq, String.toList_ofList]

theorem encode_inj {text other : String} : encode text = encode other ↔ text = other := by
  rw [encode, encode, toList_eq, toList_eq, Array.toList_inj, ← ByteArray.ext_iff]
  exact String.toByteArray_inj

theorem isWellFormed_iff {bytes : List UInt8} :
    IsWellFormed bytes ↔ ∃ cs : List Char, cs.flatMap String.utf8EncodeChar = bytes := by
  constructor
  · rintro ⟨text, rfl⟩
    exact ⟨text.toList, (encode_eq text).symm⟩
  · rintro ⟨cs, rfl⟩
    exact ⟨String.ofList cs, encode_ofList cs⟩

theorem isWellFormed_nil : IsWellFormed [] := isWellFormed_iff.mpr ⟨[], rfl⟩

theorem isWellFormed_cons_iff {b : UInt8} {rest : List UInt8} :
    IsWellFormed (b :: rest) ↔
      ∃ lead tail more, IsSequence b lead tail ∧ rest = tail ++ more ∧ IsWellFormed more := by
  constructor
  · intro h
    obtain ⟨cs, hcs⟩ := isWellFormed_iff.mp h
    cases cs with
    | nil => simp at hcs
    | cons c cs =>
        obtain ⟨b', lead, tail, hc, hseq, -⟩ := exists_isSequence c
        rw [List.flatMap_cons, hc, List.cons_append, List.cons.injEq] at hcs
        obtain ⟨rfl, rfl⟩ := hcs
        exact ⟨lead, tail, _, hseq, rfl, isWellFormed_iff.mpr ⟨cs, rfl⟩⟩
  · rintro ⟨lead, tail, more, hseq, rfl, hmore⟩
    obtain ⟨cs, rfl⟩ := isWellFormed_iff.mp hmore
    refine isWellFormed_iff.mpr ⟨Char.ofNat (codeOf lead tail) :: cs, ?_⟩
    rw [List.flatMap_cons, encodeChar_of_isSequence hseq, List.cons_append]

theorem IsSequence.isWellFormed {b : UInt8} {lead : Lead} {tail : List UInt8}
    (h : IsSequence b lead tail) : IsWellFormed (b :: tail) :=
  isWellFormed_cons_iff.mpr ⟨lead, tail, [], h, (List.append_nil tail).symm, isWellFormed_nil⟩

/-- A text can be taken off the front of bytes without harm to the rest. -/
theorem IsWellFormed.append_iff {front : List UInt8} (h : IsWellFormed front) (bytes : List UInt8) :
    IsWellFormed (front ++ bytes) ↔ IsWellFormed bytes := by
  obtain ⟨cs, rfl⟩ := isWellFormed_iff.mp h
  induction cs with
  | nil => rfl
  | cons c cs ih =>
      have hrest := ih (isWellFormed_iff.mpr ⟨cs, rfl⟩)
      obtain ⟨b, lead, tail, hc, hseq, -⟩ := exists_isSequence c
      rw [List.flatMap_cons, hc, List.append_assoc, List.cons_append, isWellFormed_cons_iff,
        ← hrest]
      constructor
      · rintro ⟨lead', tail', more, hseq', heq, hmore⟩
        obtain ⟨-, -, rfl⟩ := hseq.eq_of_append hseq' heq
        exact hmore
      · intro hmore
        exact ⟨lead, tail, _, hseq, rfl, hmore⟩

theorem CanGoOn.of_prefix {bytes front : List UInt8} (h : CanGoOn bytes)
    (hfront : front <+: bytes) : CanGoOn front := by
  obtain ⟨rest, rfl⟩ := hfront
  obtain ⟨more, hmore⟩ := h
  exact ⟨rest ++ more, by rwa [← List.append_assoc]⟩

theorem IsWellFormed.canGoOn_append_iff {front : List UInt8} (h : IsWellFormed front)
    (bytes : List UInt8) : CanGoOn (front ++ bytes) ↔ CanGoOn bytes := by
  simp only [CanGoOn, List.append_assoc, h.append_iff]

theorem canGoOn_of_areInRange {b : UInt8} {lead : Lead} {tail : List UInt8}
    (hlead : lead? b = some lead) (hrange : AreInRange lead.low lead.high tail)
    (hlength : tail.length ≤ lead.following) : CanGoOn (b :: tail) := by
  obtain ⟨more, hmore, hfull⟩ := hrange.exists_full (low_le_high hlead) hlength
  have hseq : IsSequence b lead (tail ++ more) := ⟨hlead, hmore, hfull⟩
  exact ⟨more, hseq.isWellFormed⟩

theorem CanGoOn.exists_isSequence {b : UInt8} {rest : List UInt8} (h : CanGoOn (b :: rest)) :
    ∃ lead tail more, IsSequence b lead tail ∧ rest <+: tail ++ more := by
  obtain ⟨more, hmore⟩ := h
  obtain ⟨lead, tail, behind, hseq, heq, -⟩ := isWellFormed_cons_iff.mp hmore
  exact ⟨lead, tail, behind, hseq, ⟨more, heq⟩⟩

theorem isLongest_isWellFormed_zero {b : UInt8} {rest : List UInt8}
    (h : ∀ c size, head b rest ≠ .char c size) : IsLongest IsWellFormed (b :: rest) 0 := by
  refine ⟨⟨[], List.nil_prefix, rfl, isWellFormed_nil⟩, ?_⟩
  intro front hfront hholds
  cases front with
  | nil => rfl
  | cons b' front =>
      obtain ⟨rfl, more, rfl⟩ := List.cons_prefix_cons.mp hfront
      obtain ⟨lead, tail, behind, hseq, rfl, -⟩ := isWellFormed_cons_iff.mp hholds
      rw [List.append_assoc] at h
      exact absurd (head_of_isSequence hseq _) (h _ _)

theorem isLongest_canGoOn_of_noLead {b : UInt8} (h : lead? b = none) (rest : List UInt8) :
    IsLongest CanGoOn (b :: rest) 0 := by
  refine ⟨⟨[], List.nil_prefix, rfl, [], isWellFormed_nil⟩, ?_⟩
  intro front hfront hholds
  cases front with
  | nil => rfl
  | cons b' front =>
      obtain ⟨rfl, -⟩ := List.cons_prefix_cons.mp hfront
      obtain ⟨lead, tail, behind, hseq, -⟩ := hholds.exists_isSequence
      exact absurd hseq.reads (by simp [h])

theorem isLongest_canGoOn_of_broken {b next : UInt8} {lead : Lead} {tail : List UInt8}
    (hlead : lead? b = some lead) (hrange : AreInRange lead.low lead.high tail)
    (hshort : tail.length < lead.following)
    (hnext : ¬AreInRange lead.low lead.high (tail ++ [next])) (more : List UInt8) :
    IsLongest CanGoOn (b :: (tail ++ next :: more)) (tail.length + 1) := by
  constructor
  · exact ⟨b :: tail, List.cons_prefix_cons.mpr ⟨rfl, List.prefix_append _ _⟩, rfl,
      canGoOn_of_areInRange hlead hrange hshort.le⟩
  · intro front hfront hholds
    by_contra hlong
    have hreach : b :: (tail ++ [next]) <+: front := by
      apply List.prefix_of_prefix_length_le _ hfront
      · simpa using Nat.succ_le_of_lt (Nat.lt_of_not_le hlong)
      · exact ⟨more, by simp⟩
    have hlength : (tail ++ [next]).length ≤ lead.following := by
      simpa using Nat.succ_le_of_lt hshort
    obtain ⟨lead', tail', behind, hseq, hpart⟩ := (hholds.of_prefix hreach).exists_isSequence
    exact hnext (hseq.areInRange_of_prefix hlead hpart hlength)

/-- Where the decoder finds no character, there is the fault that it reports. -/
theorem isFault_of_head {b : UInt8} {rest : List UInt8} {length : Option Nat}
    (h : head b rest = length.elim .cut .bad) : IsFault (b :: rest) ⟨0, length⟩ := by
  have hhead := headOf_head b rest
  have hzero : IsLongest IsWellFormed (b :: rest) 0 := by
    apply isLongest_isWellFormed_zero
    intro c size heq
    rw [h] at heq
    cases length <;> cases heq
  refine ⟨hzero.not_of_lt (by simp), hzero, ?_⟩
  cases length with
  | none =>
      rw [h] at hhead
      cases hhead with
      | cut hlead hrange hshort => exact canGoOn_of_areInRange hlead hrange hshort.le
  | some size =>
      rw [h] at hhead
      cases hhead with
      | noLead hlead =>
          have hreach := isLongest_canGoOn_of_noLead hlead rest
          exact ⟨hreach.not_of_lt (by simp), _, hreach, rfl⟩
      | @broken lead tail more next hlead hrest hrange hshort hnext =>
          have hreach := isLongest_canGoOn_of_broken hlead hrange hshort hnext more
          rw [hrest]
          exact ⟨hreach.not_of_lt (by simp), _, hreach, by simp⟩

theorem IsFault.behind {front bytes : List UInt8} {e : DecodeError} (hfront : IsWellFormed front)
    (h : IsFault bytes e) : IsFault (front ++ bytes) ⟨front.length + e.validUpTo, e.length⟩ := by
  obtain ⟨validUpTo, length⟩ := e
  obtain ⟨hmalformed, hvalid, hlength⟩ := h
  refine ⟨by rwa [hfront.append_iff], hvalid.behind hfront.append_iff, ?_⟩
  cases length with
  | none => exact (hfront.canGoOn_append_iff bytes).mpr hlength
  | some length =>
      obtain ⟨hstop, reach, hreach, hsize⟩ := hlength
      refine ⟨by rwa [hfront.canGoOn_append_iff], _, hreach.behind hfront.canGoOn_append_iff, ?_⟩
      rw [hsize, Nat.add_sub_add_left]

/-- Decoding from an index on gives the characters that the bytes encode, or their fault. -/
theorem decodeFrom_outcome (pos : Nat) (bytes : List UInt8) :
    match decodeFrom pos bytes with
    | .ok cs => cs.flatMap String.utf8EncodeChar = bytes
    | .error e => ∃ fault, IsFault bytes fault ∧ e = ⟨pos + fault.validUpTo, fault.length⟩ := by
  fun_induction decodeFrom pos bytes with
  | case1 pos => rfl
  | case2 pos b rest c size hhead ih =>
      have hfound := headOf_head b rest
      rw [hhead] at hfound
      cases hfound with
      | @char lead tail more hseq hrest =>
          subst hrest
          rw [Nat.add_sub_cancel, List.drop_left] at ih ⊢
          cases hmore : decodeFrom (pos + (tail.length + 1)) more with
          | ok cs =>
              rw [hmore] at ih
              simp only [Except.map, List.flatMap_cons, encodeChar_of_isSequence hseq, ih,
                List.cons_append]
          | error e =>
              rw [hmore] at ih
              obtain ⟨fault, hfault, rfl⟩ := ih
              refine ⟨_, hfault.behind hseq.isWellFormed, ?_⟩
              simp only [List.length_cons, Nat.add_assoc]
  | case3 pos b rest size hhead =>
      have hbad : head b rest = (some size).elim .cut .bad := hhead
      exact ⟨_, isFault_of_head hbad, rfl⟩
  | case4 pos b rest hhead =>
      have hcut : head b rest = (none : Option Nat).elim .cut .bad := hhead
      exact ⟨_, isFault_of_head hcut, rfl⟩

/-- Bytes are decoded to the text that they encode. -/
theorem decode_eq_ok_iff {bytes : List UInt8} {text : String} :
    decode bytes = .ok text ↔ encode text = bytes := by
  have houtcome := decodeFrom_outcome 0 bytes
  rw [decode]
  cases hdecode : decodeFrom 0 bytes with
  | ok cs =>
      rw [hdecode] at houtcome
      rw [← houtcome, ← encode_ofList, encode_inj]
      simp [Except.map, eq_comm]
  | error e =>
      rw [hdecode] at houtcome
      obtain ⟨fault, hfault, -⟩ := houtcome
      simp only [Except.map, reduceCtorEq, false_iff]
      exact fun htext => hfault.malformed ⟨text, htext⟩

/-- All other bytes are refused with their fault. -/
theorem decode_eq_error_iff {bytes : List UInt8} {e : DecodeError} :
    decode bytes = .error e ↔ IsFault bytes e := by
  have houtcome := decodeFrom_outcome 0 bytes
  rw [decode]
  cases hdecode : decodeFrom 0 bytes with
  | ok cs =>
      rw [hdecode] at houtcome
      simp only [Except.map, reduceCtorEq, false_iff]
      exact fun hfault => hfault.malformed (isWellFormed_iff.mpr ⟨cs, houtcome⟩)
  | error found =>
      rw [hdecode] at houtcome
      obtain ⟨fault, hfault, rfl⟩ := houtcome
      rw [Nat.zero_add, Except.map, Except.error.injEq]
      constructor
      · rintro rfl
        exact hfault
      · exact hfault.unique

/-- All bytes are well formed but those that have a fault. -/
theorem exists_isFault_iff {bytes : List UInt8} :
    (∃ fault, IsFault bytes fault) ↔ ¬IsWellFormed bytes := by
  constructor
  · rintro ⟨fault, hfault⟩
    exact hfault.malformed
  · intro hmalformed
    cases hdecode : decode bytes with
    | ok text => exact absurd ⟨text, decode_eq_ok_iff.mp hdecode⟩ hmalformed
    | error fault => exact ⟨fault, decode_eq_error_iff.mp hdecode⟩

end WikiMarkup.Utf8
