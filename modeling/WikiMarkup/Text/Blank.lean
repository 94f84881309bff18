/-!
Blank characters: the property `White_Space` of Unicode.
-/

namespace WikiMarkup

namespace Text

def isBlank (c : Char) : Bool :=
  (0x09 ≤ c.val && c.val ≤ 0x0D) || c.val = 0x20 || c.val = 0x85 || c.val = 0xA0 ||
    c.val = 0x1680 || (0x2000 ≤ c.val && c.val ≤ 0x200A) || c.val = 0x2028 || c.val = 0x2029 ||
    c.val = 0x202F || c.val = 0x205F || c.val = 0x3000

/-- A text without the blank characters at its two ends. -/
def trimBlank (cs : List Char) : List Char :=
  ((cs.dropWhile isBlank).reverse.dropWhile isBlank).reverse

/-- The first word of a text, where blank characters stand between words. -/
def firstWord? (cs : List Char) : Option (List Char) :=
  match (cs.dropWhile isBlank).takeWhile (!isBlank ·) with
  | [] => none
  | word => some word

end Text

end WikiMarkup
