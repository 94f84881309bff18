import WikiMarkup.Confluence.Language
import WikiMarkup.Confluence.ListMarkup
import WikiMarkup.Rendering.Tree
import WikiMarkup.Text.Utf8

/-!
Confluence wiki markup: the notation of each kind of node, and the rendering of documents in it.
-/

namespace WikiMarkup.Confluence

structure Options where
  /-- Number the lines of every code block. -/
  lineNumbers : Bool := false
  deriving DecidableEq

instance : Inhabited Options := ⟨{}⟩

/-- Code blocks with more lines than this are shown collapsed. -/
def maxCodeLines : Nat := 20

/-- How many lines a code has; an empty code has one. -/
def lineCount (code : String) : Nat := code.toList.count '\n' + 1

def codeParameters (options : Options) (language : Option String) (code : String) :
    List (String × String) :=
  [("language", resolveLanguage language), ("theme", "Confluence")]
    ++ (if options.lineNumbers then [("linenumbers", "true")] else [])
    ++ (if maxCodeLines < lineCount code then [("collapse", "true")] else [])

def codeHeader (options : Options) (language : Option String) (code : String) : String :=
  "\x7bcode:" ++ String.intercalate "|"
    ((codeParameters options language code).map fun p => p.1 ++ "=" ++ p.2) ++ "\x7d"

/-- A code macro with the code on lines of its own. -/
def codeMacro (options : Options) (language : Option String) (code : String) : String :=
  codeHeader options language code ++ "\n" ++ code ++ "\n\x7bcode\x7d\n\n"

def cellMark (header : Bool) : String := if header then "||" else "|"

/-- The notation of Confluence. Titles of links and images have no place in it, nor has the
text that stands for an image. -/
def renderer (options : Options) : Renderer where
  paragraph text := text ++ "\n\n"
  raw markup := markup
  heading level text := s!"h{level}. " ++ text ++ "\n\n"
  strong text := "*" ++ text ++ "*"
  emphasis text := "_" ++ text ++ "_"
  strikeout text := "-" ++ text ++ "-"
  codeSpan code := "\x7b\x7b" ++ code ++ "\x7d\x7d"
  quote text := "\x7bquote\x7d" ++ text ++ "\x7bquote\x7d"
  lineBreak := "\n"
  rule := "----"
  link href _ text :=
    match text with
    | some text => if text.isEmpty then "[" ++ href ++ "]" else "[" ++ text ++ "|" ++ href ++ "]"
    | none => "[" ++ href ++ "]"
  image href _ _ := "!" ++ href ++ "!"
  list ordered body := String.ofList (listMarkup ordered body.toList)
  listItem body := body ++ "\n"
  table head body := head ++ body ++ "\n"
  tableRow cells := cells ++ "\n"
  tableCell header text := cellMark header ++ text
  codeBlock language code := codeMacro options language code

def render (options : Options) (doc : Document) : Except RenderError (Converted String) :=
  doc.render (renderer options)

/-- Renders a document to bytes, as it is stored and sent. -/
def emit (options : Options) (doc : Document) : Except RenderError (Converted (List UInt8)) :=
  (render options doc).map (·.map Utf8.encode)

/-- Names under which the format can be asked for. -/
def formats : List String := ["confluence", "confluence-wiki"]

end WikiMarkup.Confluence
