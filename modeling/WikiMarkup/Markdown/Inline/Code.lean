/-!
Code spans: text between two runs of equally many backticks.
-/

namespace WikiMarkup.Markdown

def backtick : Char := '\x60'

def backticks (cs : List Char) : Nat := (cs.takeWhile (· = backtick)).length

/-- Reads code up to the next run of exactly `count` backticks; `taken` holds what was read, the
last character first. -/
def codeUntil? (count : Nat) (taken : List Char) : List Char → Option (List Char × List Char)
  | [] => none
  | c :: rest =>
      if c = backtick then
        let further := backticks rest
        if further + 1 = count then some (taken.reverse, rest.drop further)
        else codeUntil? count (List.replicate (further + 1) backtick ++ taken) (rest.drop further)
      else codeUntil? count (c :: taken) rest
  termination_by cs => cs.length
  decreasing_by all_goals simp only [List.length_drop, List.length_cons]; omega

/-- The content of a code span. Newlines count as spaces; one space is taken off at either end if
there is one at both and the code is not all spaces. -/
def codeContent (cs : List Char) : List Char :=
  let cs := cs.map fun c => if c = '\n' then ' ' else c
  if cs.head? = some ' ' ∧ cs.getLast? = some ' ' ∧ cs.any (· ≠ ' ') then cs.tail.dropLast else cs

end WikiMarkup.Markdown
