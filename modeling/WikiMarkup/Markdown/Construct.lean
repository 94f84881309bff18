import WikiMarkup.Markdown.Event

/-!
Constructs of markdown: well-nested groups of events. A construct is a single event, or a tag around
further constructs; written out as events, every tag is closed where it ends.
-/

namespace WikiMarkup.Markdown

/-- A single event, or a tag with what stands inside it. -/
inductive Construct where
  | leaf (event : Event) (span : Span)
  /-- A tag with the bytes of its start and of its end event, which need not be the same. -/
  | group (tag : Tag) (opening closing : Span) (inside : List Construct)

namespace Construct

mutual

def events : Construct → List SourceEvent
  | leaf event span => [⟨event, span⟩]
  | group tag opening closing inside =>
      ⟨.start tag, opening⟩ :: (eventsOf inside ++ [⟨.stop tag.kind, closing⟩])

def eventsOf : List Construct → List SourceEvent
  | [] => []
  | c :: rest => events c ++ eventsOf rest

end

/-- A tag around constructs, whose start and end both carry the bytes of the whole. -/
def around (tag : Tag) (span : Span) (inside : List Construct) : Construct :=
  group tag span span inside

def text (content : List Char) (span : Span) : Construct :=
  leaf (.text (String.ofList content)) span

/-- Neighbouring texts become one text. -/
def mergeTexts : List Construct → List Construct
  | [] => []
  | leaf (.text first) span :: rest =>
      match mergeTexts rest with
      | leaf (.text second) other :: more =>
          leaf (.text (first ++ second)) ⟨span.start, other.stop⟩ :: more
      | merged => leaf (.text first) span :: merged
  | c :: rest => c :: mergeTexts rest

end Construct

end WikiMarkup.Markdown
