import WikiMarkup.Document.Warning
import WikiMarkup.Markdown.Block.Document
import WikiMarkup.Markdown.EventTree
import WikiMarkup.Text.Utf8

/-!
Reading of markdown: a text becomes constructs, constructs become events, and events become a
document. Any text is markdown, so reading fails only on bytes that are no text.
-/

namespace WikiMarkup.Markdown

def constructsOf (text : String) : List Construct :=
  let (blocks, references) := blocksOf text
  Block.constructsOf references false blocks

def eventsOf (text : String) : List SourceEvent := Construct.eventsOf (constructsOf text)

/-- The document of a text. Nothing is lost in reading, so there are no warnings. How a text is
cut into events is a matter of its own and may be chosen. -/
def read (keepSpans : Bool) (text : String) (tokenize : String → List SourceEvent := eventsOf) :
    Converted Document :=
  .exact (documentOfEvents keepSpans (tokenize text))

inductive ReadError where
  | invalid (reason : String)
  deriving DecidableEq

def ReadError.message : ReadError → String
  | invalid reason => s!"invalid input: {reason}"

def readBytes (keepSpans : Bool) (bytes : List UInt8)
    (tokenize : String → List SourceEvent := eventsOf) : Except ReadError (Converted Document) :=
  match Utf8.decode bytes with
  | .ok text => .ok (read keepSpans text tokenize)
  | .error e => .error (.invalid s!"markdown input is not UTF-8: {e.message}")

/-- Names under which the format can be asked for. -/
def formats : List String := ["markdown", "md"]

end WikiMarkup.Markdown
