import WikiMarkup.Markdown.Event
import WikiMarkup.Markdown.Inline.Code
import WikiMarkup.Markdown.Inline.Html
import WikiMarkup.Markdown.Inline.Link
import WikiMarkup.Markdown.Source

/-!
How blocks begin and end. Each test looks at one line from its first character that is no
indentation.
-/

namespace WikiMarkup.Markdown

def withoutSpaces (cs : List Char) : List Char := cs.filter (!isSpaceOrTab ·)

def isBlankLine (cs : List Char) : Bool := cs.all isSpaceOrTab

/-- Whether a line is a rule: three or more of one of three
characters, with any space between them. -/
def isRule (cs : List Char) : Bool :=
  match withoutSpaces cs with
  | c :: rest => (c = '*' || c = '-' || c = '_') && rest.all (· = c) && 2 ≤ rest.length
  | [] => false

/-- The level of the heading that a line under a paragraph makes of it. -/
def underlineLevel? (cs : List Char) : Option HeadingLevel :=
  match cs with
  | c :: rest =>
      if (c = '=' || c = '-') && isBlankLine (rest.dropWhile (· = c)) then
        some (if c = '=' then .one else .two)
      else none
  | [] => none

/-- The text of a heading without the number signs that may close it. -/
def headingText (gs : List Glyph) : List Glyph :=
  let text := dropTrailingSpaces (skipSpaces gs)
  let opened := (text.reverse.dropWhile (·.char = '#')).reverse
  match opened.getLast? with
  | none => []
  | some last => if isSpaceOrTab last.char then dropTrailingSpaces opened else text

/-- A heading that begins with number signs: its level and its text. -/
def heading? (gs : List Glyph) : Option (HeadingLevel × List Glyph) :=
  let signs := (gs.takeWhile (·.char = '#')).length
  let rest := gs.drop signs
  match HeadingLevel.ofNat? signs with
  | some level =>
      if rest.head?.all (isSpaceOrTab ·.char) then some (level, headingText rest) else none
  | none => none

structure Fence where
  char : Char
  length : Nat
  /-- How far the fence is indented; as much is taken off the lines of its code. -/
  indent : Nat

/-- Reads a fence and its info string. The info string of a fence of
backticks has no backtick in it. -/
def fence? (indent : Nat) (cs : List Char) : Option (Fence × String) :=
  match cs with
  | c :: rest =>
      if c = backtick || c = '~' then
        let length := 1 + (rest.takeWhile (· = c)).length
        let info := cs.drop length
        if length < 3 || (c = backtick && info.contains backtick) then none
        else
          let words := (info.dropWhile isSpaceOrTab).reverse.dropWhile isSpaceOrTab
          some (⟨c, length, indent⟩, String.ofList (decodeEscapes words.reverse))
      else none
  | [] => none

def Fence.isClosedBy (fence : Fence) (cs : List Char) : Bool :=
  let length := (cs.takeWhile (· = fence.char)).length
  fence.length ≤ length && isBlankLine (cs.drop length)

/-- What sets the items of a list apart from those of another list. -/
inductive Marker where
  | bullet (sign : Char)
  | number (delimiter : Char)
  deriving DecidableEq

/-- The marker of a list item, the number that it writes, and how many characters it takes. -/
structure ItemStart where
  marker : Marker
  first : Option Nat
  width : Nat

/-- Reads a list marker: a bullet, or up to nine digits with a full stop or a parenthesis, and then
a space or the end of the line. -/
def itemStart? (cs : List Char) : Option ItemStart :=
  let ends : List Char → Bool := fun rest => rest.head?.all isSpaceOrTab
  match cs with
  | c :: rest =>
      if c = '*' || c = '-' || c = '+' then if ends rest then some ⟨.bullet c, none, 1⟩ else none
      else
        let digits := cs.takeWhile Text.isDigit
        match cs.drop digits.length with
        | d :: rest =>
            if (d = '.' || d = ')') && !digits.isEmpty && digits.length ≤ 9 && ends rest then
              let value := digits.foldl (fun n c => n * 10 + Text.hexDigitValue c) 0
              some ⟨.number d, some value, digits.length + 1⟩
            else none
        | [] => none
  | [] => none

inductive HtmlEnd where
  /-- At the line with the closing tag of an element whose content is not markup. -/
  | closingTag
  /-- At the line with a given text. -/
  | mark (text : String)
  /-- Before a blank line. -/
  | blankLine

/-- Elements whose content is not markup. -/
def verbatimElements : List String := ["script", "pre", "style", "textarea"]

/-- Elements that stand between blocks. -/
def blockElements : List String :=
  ["address", "article", "aside", "base", "basefont", "blockquote", "body", "caption", "center",
    "col", "colgroup", "dd", "details", "dialog", "dir", "div", "dl", "dt", "fieldset",
    "figcaption", "figure", "footer", "form", "frame", "frameset", "h1", "h2", "h3", "h4", "h5",
    "h6", "head", "header", "hr", "html", "iframe", "legend", "li", "link", "main", "menu",
    "menuitem", "nav", "noframes", "ol", "optgroup", "option", "p", "param", "search", "section",
    "summary", "table", "tbody", "td", "tfoot", "th", "thead", "title", "tr", "track", "ul"]

/-- Whether a line, after its angle bracket, begins with the name of one of some elements and then
something that satisfies a test. -/
def startsElement (names : List String) (ends : List Char → Bool) (cs : List Char) : Bool :=
  let name := cs.takeWhile Text.isAlphanumeric
  names.contains (String.ofList name).toLower && ends (cs.drop name.length)

/-- Whether a tag name ends here: at a space, at the end of the line or at an angle bracket. -/
def endsName : List Char → Bool
  | [] => true
  | c :: _ => isSpaceOrTab c || c = '>'

/-- Where the HTML block ends that a line begins. A line that is one tag of no particular element
begins a block only where no paragraph goes on. -/
def htmlEnd? (inParagraph : Bool) : List Char → Option HtmlEnd
  | '<' :: cs =>
      let name := match cs with
        | '/' :: rest => rest
        | _ => cs
      let endsTag : List Char → Bool := fun rest => endsName rest || "/>".toList.isPrefixOf rest
      if startsElement verbatimElements endsName cs then some .closingTag
      else if "!--".toList.isPrefixOf cs then some (.mark "-->")
      else if "?".toList.isPrefixOf cs then some (.mark "?>")
      else if "![CDATA[".toList.isPrefixOf cs then some (.mark "]]>")
      else if cs.head? = some '!' && cs.tail.head?.any isLetter then some (.mark ">")
      else if startsElement blockElements endsTag name then some .blankLine
      else if inParagraph then none
      else
        match ((openTag? cs).map (·.2)).or (closeTag? cs) with
        | some rest => if isBlankLine rest then some .blankLine else none
        | none => none
  | _ => none

/-- Whether an HTML block ends at a line that belongs to it. -/
def HtmlEnd.isMet (e : HtmlEnd) (cs : List Char) : Bool :=
  match e with
  | closingTag =>
      let lower := cs.map Char.toLower
      verbatimElements.any fun name => (after? ("</" ++ name ++ ">").toList lower).isSome
  | mark text => (after? text.toList cs).isSome
  | blankLine => false

end WikiMarkup.Markdown
