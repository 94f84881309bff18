import WikiMarkup.Text.CaseFold
import WikiMarkup.Text.Entity
import WikiMarkup.Text.Punctuation

/-!
The parts of links: destinations, titles and labels, and the definitions that labels refer to. Each
reader gives back what follows the part.
-/

namespace WikiMarkup.Markdown

/-- A text with its backslash escapes and character references decoded. -/
def decodeEscapes (cs : List Char) : List Char :=
  match cs with
  | [] => []
  | '\\' :: c :: rest =>
      if Text.isAsciiPunctuation c then c :: decodeEscapes rest
      else '\\' :: decodeEscapes (c :: rest)
  | '&' :: rest =>
      match Text.entity? rest with
      | some (value, after) =>
          if after.length ≤ rest.length then value ++ decodeEscapes after
          else '&' :: decodeEscapes rest
      | none => '&' :: decodeEscapes rest
  | c :: rest => c :: decodeEscapes rest
  termination_by cs.length

/-- Space, tab or line ending. -/
def isLinkSpace (c : Char) : Bool := c = ' ' || c = '\t' || c = '\n'

/-- Skips spaces and tabs and at most one newline among them. -/
def skipLinkSpace (cs : List Char) : List Char :=
  let blank := fun c => c = ' ' || c = '\t'
  match cs.dropWhile blank with
  | '\n' :: rest => rest.dropWhile blank
  | rest => rest

/-- Reads a destination in angle brackets after the first of them; `taken` holds what was read, the
last character first. -/
def bracketedDestination? (taken : List Char) : List Char → Option (List Char × List Char)
  | [] => none
  | '\n' :: _ => none
  | '<' :: _ => none
  | '>' :: rest => some (taken.reverse, rest)
  | '\\' :: c :: rest =>
      if c = '\n' then none else bracketedDestination? (c :: '\\' :: taken) rest
  | c :: rest => bracketedDestination? (c :: taken) rest

/-- How deep parentheses may be nested in a destination. -/
def maxParentheses : Nat := 32

/-- Reads a destination without brackets, inside `depth` parentheses of its own. -/
def plainDestination? (depth : Nat) (taken : List Char) :
    List Char → Option (List Char × List Char)
  | [] => if depth = 0 then some (taken.reverse, []) else none
  | '\\' :: c :: rest =>
      if Text.isAsciiPunctuation c then plainDestination? depth (c :: '\\' :: taken) rest
      else if c ≤ ' ' then if depth = 0 then some (('\\' :: taken).reverse, c :: rest) else none
      else plainDestination? depth (c :: '\\' :: taken) rest
  | c :: rest =>
      if c ≤ ' ' then if depth = 0 then some (taken.reverse, c :: rest) else none
      else if c = '(' then
        if maxParentheses < depth then none else plainDestination? (depth + 1) (c :: taken) rest
      else if c = ')' then
        if depth = 0 then some (taken.reverse, c :: rest)
        else plainDestination? (depth - 1) (c :: taken) rest
      else plainDestination? depth (c :: taken) rest

def destination? : List Char → Option (List Char × List Char)
  | '<' :: rest => bracketedDestination? [] rest
  | cs => plainDestination? 0 [] cs

/-- Reads a title up to its closing mark; a title in parentheses holds none without an escape. -/
def titleBody? (close : Char) (taken : List Char) : List Char → Option (List Char × List Char)
  | [] => none
  | '\\' :: c :: rest => titleBody? close (c :: '\\' :: taken) rest
  | c :: rest =>
      if c = close then some (taken.reverse, rest)
      else if c = '(' && close = ')' then none
      else titleBody? close (c :: taken) rest

def title? : List Char → Option (List Char × List Char)
  | '"' :: rest => titleBody? '"' [] rest
  | '\'' :: rest => titleBody? '\'' [] rest
  | '(' :: rest => titleBody? ')' [] rest
  | _ => none

structure Target where
  url : String
  title : String

/-- A target from a destination and a title as they are written. -/
def Target.ofSource (destination title : List Char) : Target :=
  ⟨String.ofList (decodeEscapes destination), String.ofList (decodeEscapes title)⟩

/-- Reads a target in parentheses after the first of them. -/
def inlineTarget? (cs : List Char) : Option (Target × List Char) := do
  let (destination, rest) ← destination? (skipLinkSpace cs)
  let gap := skipLinkSpace rest
  let titled : Option (Target × List Char) := do
    if gap.length < rest.length then
      let (title, rest) ← title? gap
      match skipLinkSpace rest with
      | ')' :: rest => some (Target.ofSource destination title, rest)
      | _ => none
    else none
  titled.or <|
    match gap with
    | ')' :: rest => some (Target.ofSource destination [], rest)
    | _ => none

def maxLabelLength : Nat := 999

/-- Reads the text of a label up to its closing bracket; an inner bracket needs an escape. -/
def labelBody? (taken : List Char) : List Char → Option (List Char × List Char)
  | [] => none
  | '[' :: _ => none
  | ']' :: rest => some (taken.reverse, rest)
  | '\\' :: c :: rest => labelBody? (c :: '\\' :: taken) rest
  | c :: rest => labelBody? (c :: taken) rest

/-- Reads a label in brackets; it may be empty. -/
def bracketedLabel? : List Char → Option (List Char × List Char)
  | '[' :: rest => do
      let (label, rest) ← labelBody? [] rest
      if label.length ≤ maxLabelLength then some (label, rest) else none
  | _ => none

/-- A label in the form in which labels are compared: without regard to case, and with each run of
white space as one space. None for a label that is all white space. -/
def normalLabel? (label : List Char) : Option (List Char) :=
  let words := (Text.pieces isLinkSpace label).filter (!·.isEmpty)
  if words.isEmpty then none else some (Text.foldCase ([' '].intercalate words))

/-- A label with the target that it was defined to stand for. -/
structure Reference where
  label : List Char
  target : Target

/-- The target of a label; of several definitions the first one counts. -/
def findTarget? (references : List Reference) (label : List Char) : Option Target := do
  let label ← normalLabel? label
  return (← references.find? (·.label = label)).target

/-- What follows the spaces and tabs up to the end of the line. -/
def restOfLine? (cs : List Char) : Option (List Char) :=
  match cs.dropWhile (fun c => c = ' ' || c = '\t') with
  | [] => some []
  | '\n' :: rest => some rest
  | _ => none

/-- Reads a definition at the start of a paragraph: a label, a colon, a destination and perhaps a
title. A title that does not end its line is no part of the definition. -/
def definition? (cs : List Char) : Option (Reference × List Char) := do
  let (label, rest) ← bracketedLabel? cs
  let label ← normalLabel? label
  match rest with
  | ':' :: rest =>
      let source := skipLinkSpace rest
      let (destination, rest) ← destination? source
      if rest.length = source.length then none
      else
        let gap := skipLinkSpace rest
        let titled : Option (Reference × List Char) := do
          if gap.length < rest.length then
            let (title, rest) ← title? gap
            return (⟨label, Target.ofSource destination title⟩, ← restOfLine? rest)
          else none
        titled.or ((restOfLine? rest).map (⟨label, Target.ofSource destination []⟩, ·))
  | _ => none

end WikiMarkup.Markdown
