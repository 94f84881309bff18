/-!
UTF-8. A text is decoded character by character: the first byte of a sequence says how many bytes
follow it and in which range the second one lies, which keeps out surrogates, overlong forms and
values past the last character. A sequence that breaks off is reported with the number of bytes up
to the break; one that the end of the text cuts off is told apart.
-/

namespace WikiMarkup.Utf8

structure DecodeError where
  /-- How many bytes before the fault are well formed. -/
  validUpTo : Nat
  /-- How many bytes the faulty sequence has; absent if the text ends within it. -/
  length : Option Nat
  deriving DecidableEq

def DecodeError.message (e : DecodeError) : String :=
  match e.length with
  | some length => s!"invalid utf-8 sequence of {length} bytes from index {e.validUpTo}"
  | none => s!"incomplete utf-8 byte sequence from index {e.validUpTo}"

/-- What the first byte of a sequence says of the bytes after it. -/
structure Lead where
  following : Nat
  low : UInt8
  high : UInt8
  /-- The bits of the character that the first byte holds. -/
  bits : Nat

/-- Reads the first byte of a sequence; bytes that no sequence begins with give none. -/
def lead? (b : UInt8) : Option Lead :=
  if b < 0x80 then some ⟨0, 0x80, 0xBF, b.toNat⟩
  else if b < 0xC2 then none
  else if b < 0xE0 then some ⟨1, 0x80, 0xBF, b.toNat - 0xC0⟩
  else if b = 0xE0 then some ⟨2, 0xA0, 0xBF, 0⟩
  else if b = 0xED then some ⟨2, 0x80, 0x9F, 0x0D⟩
  else if b < 0xF0 then some ⟨2, 0x80, 0xBF, b.toNat - 0xE0⟩
  else if b = 0xF0 then some ⟨3, 0x90, 0xBF, 0⟩
  else if b < 0xF4 then some ⟨3, 0x80, 0xBF, b.toNat - 0xF0⟩
  else if b = 0xF4 then some ⟨3, 0x80, 0x8F, 4⟩
  else none

/-- The bytes that continue a sequence, at most `count` of them; only
the first one has a range of its own. -/
def continuation : (count : Nat) → (low high : UInt8) → List UInt8 → List UInt8
  | count + 1, low, high, b :: rest =>
      if low ≤ b ∧ b ≤ high then b :: continuation count 0x80 0xBF rest else []
  | _, _, _, _ => []

inductive Head where
  /-- A character of the given number of bytes. -/
  | char (c : Char) (size : Nat)
  /-- A faulty sequence of the given number of bytes. -/
  | bad (size : Nat)
  | cut

def head (b : UInt8) (rest : List UInt8) : Head :=
  match lead? b with
  | none => .bad 1
  | some lead =>
      let tail := continuation lead.following lead.low lead.high rest
      if tail.length = lead.following then
        .char (Char.ofNat (tail.foldl (fun n b => n * 64 + (b.toNat - 0x80)) lead.bits))
          (tail.length + 1)
      else if tail.length = rest.length then .cut
      else .bad (tail.length + 1)

/-- The characters of bytes of which the first stands at index `pos`. -/
def decodeFrom (pos : Nat) : List UInt8 → Except DecodeError (List Char)
  | [] => .ok []
  | b :: rest =>
      match head b rest with
      | .char c size => (decodeFrom (pos + size) (rest.drop (size - 1))).map (c :: ·)
      | .bad size => .error ⟨pos, some size⟩
      | .cut => .error ⟨pos, none⟩
  termination_by bytes => bytes.length
  decreasing_by simp only [List.length_drop, List.length_cons]; omega

def decode (bytes : List UInt8) : Except DecodeError String :=
  (decodeFrom 0 bytes).map String.ofList

/-- The characters of bytes, with one replacement character for each faulty sequence. -/
def decodeLossyChars : List UInt8 → List Char
  | [] => []
  | b :: rest =>
      match head b rest with
      | .char c size => c :: decodeLossyChars (rest.drop (size - 1))
      | .bad size => '\uFFFD' :: decodeLossyChars (rest.drop (size - 1))
      | .cut => ['\uFFFD']
  termination_by bytes => bytes.length
  decreasing_by all_goals simp only [List.length_drop, List.length_cons]; omega

/-- A text for any bytes, with one replacement character for each faulty sequence. -/
def decodeLossy (bytes : List UInt8) : String := String.ofList (decodeLossyChars bytes)

def encode (text : String) : List UInt8 := text.toUTF8.toList

end WikiMarkup.Utf8
