import WikiMarkup.Text.Entity
import WikiMarkup.Text.Pieces

/-!
Raw HTML inside text: tags, comments, processing instructions, declarations and character data. Each
reader gives back what follows the construct.
-/

namespace WikiMarkup.Markdown

def isTagSpace (c : Char) : Bool :=
  c = ' ' || c = '\t' || c = '\n' || c = '\r' || c = '\x0b' || c = '\x0c'

def isLetter (c : Char) : Bool := ('a' ≤ c && c ≤ 'z') || ('A' ≤ c && c ≤ 'Z')

/-- What follows the first occurrence of a text. -/
def after? (mark : List Char) : List Char → Option (List Char)
  | [] => if mark.isEmpty then some [] else none
  | c :: rest =>
      if mark.isPrefixOf (c :: rest) then some ((c :: rest).drop mark.length) else after? mark rest

/-- What follows a text at the very start. -/
def afterStart? (mark cs : List Char) : Option (List Char) :=
  if mark.isPrefixOf cs then some (cs.drop mark.length) else none

def tagName? (cs : List Char) : Option (List Char × List Char) :=
  match cs with
  | c :: _ =>
      if isLetter c then
        let name := cs.takeWhile fun c => Text.isAlphanumeric c || c = '-'
        some (name, cs.drop name.length)
      else none
  | [] => none

def attributeValue? : List Char → Option (List Char)
  | '"' :: rest => after? ['"'] rest
  | '\'' :: rest => after? ['\''] rest
  | cs =>
      let value := cs.takeWhile fun c =>
        ' ' < c && c ≠ '"' && c ≠ '\'' && c ≠ '=' && c ≠ '<' && c ≠ '>' && c ≠ '\x60'
      if value.isEmpty then none else some (cs.drop value.length)

/-- Reads an attribute with the white space in front of it. -/
def attribute? (cs : List Char) : Option (List Char) :=
  match cs with
  | c :: _ =>
      if isTagSpace c then
        match cs.dropWhile isTagSpace with
        | [] => none
        | first :: rest =>
            if isLetter first || first = '_' || first = ':' then
              let rest := rest.dropWhile fun c =>
                Text.isAlphanumeric c || c = '_' || c = '.' || c = ':' || c = '-'
              match rest.dropWhile isTagSpace with
              | '=' :: value => attributeValue? (value.dropWhile isTagSpace)
              | _ => some rest
            else none
      else none
  | [] => none

def skipAttributes (cs : List Char) : List Char :=
  match attribute? cs with
  | none => cs
  | some rest => if rest.length < cs.length then skipAttributes rest else cs
  termination_by cs.length

/-- Reads an opening tag after its angle bracket; gives its name too. -/
def openTag? (cs : List Char) : Option (List Char × List Char) := do
  let (name, rest) ← tagName? cs
  match (skipAttributes rest).dropWhile isTagSpace with
  | '/' :: '>' :: rest => some (name, rest)
  | '>' :: rest => some (name, rest)
  | _ => none

def closeTag? : List Char → Option (List Char)
  | '/' :: rest => do
      let (_, rest) ← tagName? rest
      match rest.dropWhile isTagSpace with
      | '>' :: rest => some rest
      | _ => none
  | _ => none

def comment? : List Char → Option (List Char)
  | '!' :: '-' :: '-' :: '>' :: rest => some rest
  | '!' :: '-' :: '-' :: '-' :: '>' :: rest => some rest
  | '!' :: '-' :: '-' :: rest => after? ['-', '-', '>'] rest
  | _ => none

def instruction? : List Char → Option (List Char)
  | '?' :: rest => after? ['?', '>'] rest
  | _ => none

def declaration? : List Char → Option (List Char)
  | '!' :: c :: rest => if isLetter c then after? ['>'] rest else none
  | _ => none

def characterData? (cs : List Char) : Option (List Char) := do
  after? [']', ']', '>'] (← afterStart? ("![CDATA[".toList) cs)

/-- Reads any piece of HTML after its angle bracket. -/
def html? (cs : List Char) : Option (List Char) :=
  ((openTag? cs).map (·.2)).or <| (closeTag? cs).or <| (comment? cs).or <|
    (instruction? cs).or <| (declaration? cs).or <| characterData? cs

/-- Whether a character may stand in the local part of a mail address. -/
def isMailCharacter (c : Char) : Bool :=
  Text.isAlphanumeric c || ".!#$%&'*+/=?^_\x60\x7b|\x7d~-".toList.contains c

/-- Whether a text is a part of a host name: letters, digits and inner
hyphens, at most sixty-three of them. -/
def isHostLabel (label : List Char) : Bool :=
  label.all (fun c => Text.isAlphanumeric c || c = '-') && label.length ≤ 63
    && label.head?.any (· ≠ '-') && label.getLast?.any (· ≠ '-')

def isMailAddress (address : List Char) : Bool :=
  let name := address.takeWhile (· ≠ '@')
  match address.drop name.length with
  | '@' :: host =>
      !name.isEmpty && name.all isMailCharacter && (Text.pieces (· = '.') host).all isHostLabel
  | _ => false

/-- Whether a text is a URI: a scheme of two to thirty-two characters, a colon, and no space,
control character or angle bracket after it. -/
def isUri (uri : List Char) : Bool :=
  let scheme := uri.takeWhile fun c => Text.isAlphanumeric c || c = '+' || c = '.' || c = '-'
  match uri.drop scheme.length with
  | ':' :: rest =>
      scheme.head?.any isLetter && 2 ≤ scheme.length && scheme.length ≤ 32
        && rest.all fun c => ' ' < c && c ≠ '<'
  | _ => false

/-- Reads an address in angle brackets after the first of them: the address, and what follows it. -/
def autolink? (cs : List Char) : Option (List Char × List Char) :=
  let address := cs.takeWhile (· ≠ '>')
  match cs.drop address.length with
  | '>' :: rest => if isUri address || isMailAddress address then some (address, rest) else none
  | _ => none

end WikiMarkup.Markdown
