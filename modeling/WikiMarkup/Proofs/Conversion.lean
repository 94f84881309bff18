import WikiMarkup.Conversion
import WikiMarkup.Proofs.Markdown.Recut
import WikiMarkup.Proofs.Text.WellFormed

/-!
Conversion from bytes to bytes. There are two ways to it: a conversion that decodes its input and
gives a text, and the reader and the writer one after the other, which decode the input and encode
the text on their own, and may note the source of every node in between. Both refuse the same bytes
for the same fault, and agree on all others, since no renderer looks at the sources of nodes.
-/

namespace WikiMarkup

namespace Markdown

open Node

/-- Nodes that were read with their sources can stand for those that were read without. -/
theorem alike_nodesOfEvents (r : Renderer) (keepSpans keepSpans' : Bool)
    (events : List SourceEvent) :
    Alike r (nodesOfEvents keepSpans events) (nodesOfEvents keepSpans' events) := by
  induction events using eventInduction with
  | nil =>
      rw [nodesOfEvents_nil, nodesOfEvents_nil]
      exact .refl r []
  | start tag span rest hinside hbehind =>
      rw [nodesOfEvents_start, nodesOfEvents_start]
      apply Alike.append _ hbehind
      exact Tag.alike_located hinside (faultless_nodesOfEvents keepSpans _)
        (faultless_nodesOfEvents keepSpans' _) tag _ _ _ _
  | single event span rest hsingle ih =>
      rw [nodesOfEvents_single _ _ _ hsingle, nodesOfEvents_single _ _ _ hsingle]
      apply Alike.append _ ih
      cases hn : event.node? with
      | none => exact .refl r []
      | some n =>
          have hfaultless := Event.faultless_node hn
          have hlocated := twin_located (r := r) hfaultless keepSpans span
          have hlocated' := twin_located (r := r) hfaultless keepSpans' span
          exact (hlocated.symm.trans hlocated').alike

/-- What is written for a document that was read does not depend on the sources noted in it. -/
theorem render_documentOfEvents (r : Renderer) (keepSpans keepSpans' : Bool)
    (events : List SourceEvent) :
    (documentOfEvents keepSpans events).render r =
      (documentOfEvents keepSpans' events).render r := by
  have hdocument := faultless_documentOfEvents keepSpans events
  have hdocument' := faultless_documentOfEvents keepSpans' events
  have halike := alike_nodesOfEvents r keepSpans keepSpans' events
  have htwin := Node.Alike.twin halike hdocument hdocument' rfl rfl rfl
  rw [Document.render, Document.render, hdocument.render_eq_written, hdocument'.render_eq_written,
    htwin.written]

theorem readBytes_encode (keepSpans : Bool) (text : String)
    (tokenize : String → List SourceEvent) :
    readBytes keepSpans (Utf8.encode text) tokenize = .ok (read keepSpans text tokenize) := by
  rw [readBytes, Utf8.decode_eq_ok_iff.mpr rfl]

theorem readBytes_of_isFault (keepSpans : Bool) {bytes : List UInt8} {fault : Utf8.DecodeError}
    (h : Utf8.IsFault bytes fault) (tokenize : String → List SourceEvent) :
    readBytes keepSpans bytes tokenize =
      .error (.invalid s!"markdown input is not UTF-8: {fault.message}") := by
  rw [readBytes, Utf8.decode_eq_error_iff.mpr h]

end Markdown

theorem convertBytes_encode (options : Confluence.Options) (text : String)
    (tokenize : String → List Markdown.SourceEvent) :
    convertBytes options (Utf8.encode text) tokenize = convert options text tokenize := by
  rw [convertBytes, Utf8.decode_eq_ok_iff.mpr rfl]

theorem convertBytes_of_isFault (options : Confluence.Options) {bytes : List UInt8}
    {fault : Utf8.DecodeError} (h : Utf8.IsFault bytes fault)
    (tokenize : String → List Markdown.SourceEvent) :
    convertBytes options bytes tokenize = .error (.encoding fault) := by
  rw [convertBytes, Utf8.decode_eq_error_iff.mpr h]

/-- A conversion gives the text that the writer makes of the document that the reader makes, with or
without the sources of its nodes. -/
theorem convert_eq_ok (options : Confluence.Options) (keepSpans : Bool) (text : String)
    (tokenize : String → List Markdown.SourceEvent) :
    ∃ markup, convert options text tokenize = .ok (.exact markup) ∧
      Confluence.render options (Markdown.read keepSpans text tokenize).value =
        .ok (.exact markup) := by
  have hfaultless := Markdown.faultless_documentOfEvents false (tokenize text)
  obtain ⟨markup, hmarkup⟩ := hfaultless.render (Confluence.renderer options)
  have hplain : Confluence.render options (Markdown.documentOfEvents false (tokenize text)) =
      .ok (.exact markup) := hmarkup
  refine ⟨markup, ?_, ?_⟩
  · simp only [convert, Markdown.read, Converted.exact, hplain]
    rfl
  · rw [← hplain]
    exact Markdown.render_documentOfEvents _ keepSpans false (tokenize text)

/-- Bytes are well formed just if they are converted, and then as the text that they encode; reader
and writer make the same of them in turn. Bytes are not well formed just if they are refused, by the
conversion and by the reader, for one and the same fault in them. -/
theorem byte_conversions_agree (options : Confluence.Options) (keepSpans : Bool)
    (tokenize : String → List Markdown.SourceEvent) (bytes : List UInt8) :
    (Utf8.IsWellFormed bytes ↔ ∃ text document markup, Utf8.encode text = bytes ∧
      convertBytes options bytes tokenize = convert options text tokenize ∧
      convert options text tokenize = .ok (.exact markup) ∧
      Markdown.readBytes keepSpans bytes tokenize = .ok (.exact document) ∧
      Confluence.emit options document = .ok (.exact (Utf8.encode markup))) ∧
    (¬Utf8.IsWellFormed bytes ↔ ∃ fault, Utf8.IsFault bytes fault ∧
      convertBytes options bytes tokenize = .error (.encoding fault) ∧
      Markdown.readBytes keepSpans bytes tokenize =
        .error (.invalid s!"markdown input is not UTF-8: {fault.message}")) := by
  constructor
  · constructor
    · rintro ⟨text, rfl⟩
      obtain ⟨markup, hconvert, hrender⟩ := convert_eq_ok options keepSpans text tokenize
      refine ⟨text, _, markup, rfl, convertBytes_encode options text tokenize, hconvert,
        Markdown.readBytes_encode keepSpans text tokenize, ?_⟩
      rw [Markdown.read, Converted.exact] at hrender
      rw [Confluence.emit, hrender]
      rfl
    · rintro ⟨text, -, -, htext, -⟩
      exact ⟨text, htext⟩
  · rw [← Utf8.exists_isFault_iff]
    constructor
    · rintro ⟨fault, hfault⟩
      exact ⟨fault, hfault, convertBytes_of_isFault options hfault tokenize,
        Markdown.readBytes_of_isFault keepSpans hfault tokenize⟩
    · rintro ⟨fault, hfault, -⟩
      exact ⟨fault, hfault⟩

end WikiMarkup
