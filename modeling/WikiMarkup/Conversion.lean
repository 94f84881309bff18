import WikiMarkup.Confluence.Notation
import WikiMarkup.Markdown.Reader

/-!
The whole conversion, from markdown to the notation of Confluence.
-/

namespace WikiMarkup

inductive ConversionError where
  | read (e : Markdown.ReadError)
  | render (e : RenderError)
  | encoding (e : Utf8.DecodeError)
  deriving DecidableEq

def ConversionError.message : ConversionError → String
  | read e => s!"failed to parse input: {e.message}"
  | render e => s!"failed to render output: {e.message}"
  | encoding e => s!"input is not valid UTF-8: {e.message}"

/-- Converts a text. Warnings from reading come before those from rendering. -/
def convert (options : Confluence.Options) (text : String)
    (tokenize : String → List Markdown.SourceEvent := Markdown.eventsOf) :
    Except ConversionError (Converted String) :=
  let document := Markdown.read false text tokenize
  match Confluence.render options document.value with
  | .ok rendered => .ok (rendered.after document.warnings)
  | .error e => .error (.render e)

def convertBytes (options : Confluence.Options) (bytes : List UInt8)
    (tokenize : String → List Markdown.SourceEvent := Markdown.eventsOf) :
    Except ConversionError (Converted String) :=
  match Utf8.decode bytes with
  | .ok text => convert options text tokenize
  | .error e => .error (.encoding e)

end WikiMarkup
