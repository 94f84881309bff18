import WikiMarkup.Text.Pieces

/-!
Tables of characters. A table is written as words of hexadecimal numbers, which keeps it short and
free of characters that do not print.
-/

namespace WikiMarkup.Text

/-- The value of a hexadecimal digit; any other character counts as zero. -/
def hexDigitValue (c : Char) : Nat :=
  if '0' ≤ c ∧ c ≤ '9' then c.toNat - '0'.toNat
  else if 'A' ≤ c ∧ c ≤ 'F' then c.toNat - 'A'.toNat + 10
  else if 'a' ≤ c ∧ c ≤ 'f' then c.toNat - 'a'.toNat + 10
  else 0

def hexValue (digits : List Char) : Nat := digits.foldl (fun n c => n * 16 + hexDigitValue c) 0

/-- The words of a table, which is given line by line. -/
def tableWords (table : List String) : List (List Char) :=
  table.flatMap fun line => pieces (· = ' ') line.toList

/-- A range of characters, written `A-B`, or `A` for a single character. -/
def rangeOfWord (word : List Char) : Nat × Nat :=
  match pieces (· = '-') word with
  | [first, last] => (hexValue first, hexValue last)
  | _ => (hexValue word, hexValue word)

def tableRanges (table : List String) : List (Nat × Nat) := (tableWords table).map rangeOfWord

end WikiMarkup.Text
