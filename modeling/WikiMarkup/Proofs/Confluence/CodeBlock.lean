import Mathlib.Data.List.DropRight
import Mathlib.Data.List.Find
import WikiMarkup.Confluence.Notation
import WikiMarkup.Proofs.Markdown.Nesting
import WikiMarkup.Proofs.Text.Words

/-!
Code blocks, from the events of the reader to the macro. The macro names one of a few languages, so
whatever an info string holds it cannot leave the parameter that it stands in, and the first line of
a macro ends where its parameters end. So the code can be read off the macro again, whatever it is.
-/

namespace WikiMarkup.Confluence

open Markdown

/-- The languages that the macro is ever given. -/
def macroLanguages : List String := languageAliases.map (·.2) ++ languages

/-- The name of a language that an info string gives: its first word, in lower case. -/
def nameOfInfo? (info : Option String) : Option (List Char) :=
  (info.bind fun info => (Text.words info.toList).head?).map Text.lowerCase

/-- The language for a name in lower case. -/
def languageOfName : Option (List Char) → String
  | none => noHighlight
  | some name =>
      match languageAliases.find? (·.1.toList = name) with
      | some (_, language) => language
      | none => (languages.find? (·.toList = name)).getD noHighlight

theorem languageOfName_mem (name : Option (List Char)) : languageOfName name ∈ macroLanguages := by
  cases name with
  | none => decide
  | some name =>
      rw [languageOfName]
      split
      case h_1 hfind =>
        exact List.mem_append_left _ (List.mem_map_of_mem (List.mem_of_find?_eq_some hfind))
      case h_2 =>
        cases hfind : languages.find? (·.toList = name) with
        | none => decide
        | some language => exact List.mem_append_right _ (List.mem_of_find?_eq_some hfind)

/-- Lowering the ASCII letters of a name finds the same entries as lowering all of them, since no
entry has a letter that is the lower case of one beyond ASCII. -/
theorem resolveLanguage_eq (tag : String) :
    resolveLanguage (some tag) = languageOfName (some (Text.lowerCase tag.toList)) := by
  have hentries : ∀ name ∈ languageAliases.map (·.1) ++ languages,
      name.toList.all fun d => d.toNat < 128 ∧ d ≠ 'k' := by decide
  have hname : ∀ name ∈ languageAliases.map (·.1) ++ languages,
      decide (name = tag.toLower) = decide (name.toList = Text.lowerCase tag.toList) := by
    intro name hmem
    have hplain : ∀ d ∈ name.toList, d.toNat < 128 ∧ d ≠ 'k' := by
      simpa using hentries name hmem
    have hlower : tag.toLower.toList = tag.toList.map Char.toLower := String.toList_map
    rw [decide_eq_decide, eq_comm (b := Text.lowerCase _), Text.lowerCase_eq_iff hplain,
      ← String.toList_inj, hlower, eq_comm]
  have haliases : languageAliases.find? (·.1 = tag.toLower) =
      languageAliases.find? (·.1.toList = Text.lowerCase tag.toList) :=
    List.find?_congr fun p hp => hname p.1 (List.mem_append_left _ (List.mem_map_of_mem hp))
  have hlanguages : languages.find? (· = tag.toLower) =
      languages.find? (·.toList = Text.lowerCase tag.toList) :=
    List.find?_congr fun name hmem => hname name (List.mem_append_right _ hmem)
  have hresolve : resolveLanguage (some tag) =
      match languageAliases.find? (·.1 = tag.toLower) with
      | some (_, language) => language
      | none => (languages.find? (· = tag.toLower)).getD noHighlight := rfl
  rw [haliases, hlanguages] at hresolve
  exact hresolve

theorem resolveLanguage_info (info : Option String) :
    resolveLanguage (info.bind infoLanguage?) = languageOfName (nameOfInfo? info) := by
  cases info with
  | none => rfl
  | some info =>
      simp only [Option.bind_some, infoLanguage?, nameOfInfo?, Text.firstWord?_eq_head?]
      cases (Text.words info.toList).head? with
      | none => rfl
      | some word => simp [resolveLanguage_eq]

/-- The first line of a macro, given the language that it names. -/
def macroOpening (options : Options) (language code : String) : String :=
  "\x7bcode:language=" ++ language ++ "|theme=Confluence" ++
    (if options.lineNumbers then "|linenumbers=true" else "") ++
      (if 20 ≤ code.toList.count '\n' then "|collapse=true" else "") ++ "\x7d"

/-- What follows the code in a macro. -/
def macroClosing : String := "\n\x7bcode\x7d\n\n"

/-- The code in a macro: all between its first line and what follows the code. -/
def codeOfMacro (text : String) : String :=
  String.ofList (((text.toList.dropWhile (· ≠ '\n')).drop 1).rdrop macroClosing.toList.length)

theorem codeHeader_eq (options : Options) (language : Option String) (code : String) :
    codeHeader options language code = macroOpening options (resolveLanguage language) code := by
  have hlines : maxCodeLines < lineCount code ↔ 20 ≤ code.toList.count '\n' := Nat.lt_succ_iff
  unfold codeHeader codeParameters macroOpening
  rw [if_congr hlines rfl rfl, ← String.toList_inj]
  split <;> split <;> simp [String.intercalate_cons_cons, String.intercalate_singleton]

theorem newline_not_mem_macroOpening (options : Options) {language : String}
    (h : '\n' ∉ language.toList) (code : String) :
    '\n' ∉ (macroOpening options language code).toList := by
  unfold macroOpening
  split <;> split <;> simp [h]

theorem codeOfMacro_written {opening : String} (h : '\n' ∉ opening.toList) (code : String) :
    codeOfMacro (opening ++ "\n" ++ code ++ macroClosing) = code := by
  have hopening : ∀ c ∈ opening.toList, decide (c ≠ '\n') = true := by
    intro c hc
    rw [decide_eq_true_eq]
    exact fun heq => h (heq ▸ hc)
  have htext : (opening ++ "\n" ++ code ++ macroClosing).toList =
      opening.toList ++ '\n' :: (code.toList ++ macroClosing.toList) := by
    simp
  rw [codeOfMacro, htext, List.dropWhile_append_of_pos hopening,
    List.dropWhile_cons_of_neg (by simp), List.drop_succ_cons, List.drop_zero,
    List.rdrop_append_length, String.ofList_toList]

/-- The code of a content is the content without its last character, where that is a newline. -/
theorem codeText_cases (content : String) :
    content = Rule.codeText content ++ "\n" ∨
      content = Rule.codeText content ∧ content.toList.getLast? ≠ some '\n' := by
  unfold Rule.codeText
  split
  case isTrue hlast =>
    obtain ⟨front, hfront⟩ := List.getLast?_eq_some_iff.mp hlast
    left
    rw [← String.toList_inj, hfront]
    simp
  case isFalse hlast => exact .inr ⟨rfl, hlast⟩

/-- The events of a code block, given the chunks of its text. -/
def codeBlockEvents (info : Option String) (opening closing : Span)
    (chunks : List (String × Span)) : List SourceEvent :=
  ⟨.start (.codeBlock info), opening⟩ ::
    (chunks.map (fun chunk => ⟨.text chunk.1, chunk.2⟩) ++ [⟨.stop .codeBlock, closing⟩])

/-- Chunks of text, as constructs, are read as nodes that hold just these chunks. -/
theorem exists_textConstructs (keepSpans : Bool) (chunks : List (String × Span)) :
    ∃ cs, Construct.areNested cs ∧
      Construct.eventsOf cs = chunks.map (fun chunk => ⟨.text chunk.1, chunk.2⟩) ∧
        Node.plainTextAll (Construct.nodesOf keepSpans cs) = String.join (chunks.map (·.1)) := by
  induction chunks with
  | nil => exact ⟨[], rfl, by rw [Construct.eventsOf]; rfl, by rw [Construct.nodesOf]; rfl⟩
  | cons chunk rest ih =>
      obtain ⟨content, span⟩ := chunk
      obtain ⟨cs, hnested, hevents, htext⟩ := ih
      have hcontent : (located keepSpans span (Node.text content)).plainText = content := by
        rw [Node.plainText_eq, properties_located, children_located, Node.text,
          Node.getText?_content_ofContent]
        simp [Node.ofContent, Node.plainTextAll]
      refine ⟨.leaf (.text content) span :: cs, hnested, ?_, ?_⟩
      · rw [Construct.eventsOf, hevents]
        rfl
      · have hleaf : Construct.nodesOf keepSpans (.leaf (.text content) span :: cs) =
            located keepSpans span (Node.text content) :: Construct.nodesOf keepSpans cs := rfl
        rw [hleaf, Node.plainTextAll, hcontent, htext, List.map_cons, String.join_cons]

theorem nodesOfEvents_codeBlockEvents (keepSpans : Bool) (info : Option String)
    (opening closing : Span) (chunks : List (String × Span)) :
    nodesOfEvents keepSpans (codeBlockEvents info opening closing chunks) =
      [located keepSpans ⟨opening.start, closing.stop⟩
        (codeBlockNode info (String.join (chunks.map (·.1))))] := by
  obtain ⟨cs, hnested, hevents, htext⟩ := exists_textConstructs keepSpans chunks
  have hblock : Construct.areNested [.group (.codeBlock info) opening closing cs] := by
    simpa [Construct.areNested, Construct.isNested] using ⟨by rfl, hnested⟩
  have hread := nodesOfEvents_eventsOf keepSpans hblock
  simpa [Construct.eventsOf, Construct.events, Construct.nodesOf, Construct.node?, hevents, htext,
    Tag.node?, Tag.kind, codeBlockEvents] using hread

theorem render_codeBlockNode (options : Options) (keepSpans : Bool) (span : Span)
    (info : Option String) (content : String) :
    (located keepSpans span (codeBlockNode info content)).render (renderer options) =
      .ok (.exact (codeMacro options (info.bind infoLanguage?) (Rule.codeText content))) := by
  have hkind : (located keepSpans span (codeBlockNode info content)).is .codeBlock := by
    simp [Node.is]
  have hcontent := getText?_content_codeBlockNode info content
  have hlanguage : (codeBlockNode info content).properties.getText? PropertyKey.language =
      info.bind infoLanguage? := by
    cases hinfo : info.bind infoLanguage? with
    | none =>
        rw [codeBlockNode, hinfo]
        exact Node.getText?_withProperty_of_ne _ (by decide) _
    | some language =>
        rw [codeBlockNode, hinfo]
        exact Node.getText?_withProperty ..
  apply Node.render_leaf
  rw [Node.ofNode_of_is hkind, Rule.ofElement, Rule.requireText, properties_located, hcontent,
    hlanguage]
  rfl

theorem render_document_singleton {options : Options} {n : Node} {text : String}
    (h : n.render (renderer options) = .ok (.exact text)) :
    render options ⟨.document [n]⟩ = .ok (.exact text) := by
  have hparts : Node.renderAll (renderer options) [n] = .ok (.exact [(n, text)]) := by
    rw [Node.renderAll, h, Node.renderAll]
    rfl
  have hroot : (Node.document [n]).render (renderer options) =
      .ok (.exact (Rule.join [(n, text)])) := Node.render_branch rfl rfl hparts
  rw [render, Document.render, hroot]
  simp [Rule.join]

/-- A code block is written as a macro with the text of the block, less a newline at its end, and a
language that depends on the lower case of the first word of its info string alone. The language is
one of a few and cannot end the parameter or the line that it stands in, and the code can be read
off the macro whatever it is. -/
theorem code_block_is_written (options : Options) (keepSpans : Bool) (info : Option String)
    (opening closing : Span) (chunks : List (String × Span)) :
    let content := String.join (chunks.map (·.1))
    let code := Rule.codeText content
    let language := languageOfName (nameOfInfo? info)
    let written := macroOpening options language code ++ "\n" ++ code ++ macroClosing
    render options (documentOfEvents keepSpans (codeBlockEvents info opening closing chunks)) =
        .ok (.exact written) ∧
      (content = code ++ "\n" ∨ content = code ∧ content.toList.getLast? ≠ some '\n') ∧
        language ∈ macroLanguages ∧
          ('|' ∉ language.toList ∧ '\x7d' ∉ language.toList ∧ '\n' ∉ language.toList) ∧
            codeOfMacro written = code := by
  intro content code language written
  have hmember : language ∈ macroLanguages := languageOfName_mem _
  have hchars : ∀ name ∈ macroLanguages,
      '|' ∉ name.toList ∧ '\x7d' ∉ name.toList ∧ '\n' ∉ name.toList := by decide
  have hlanguage := hchars language hmember
  have hopening := newline_not_mem_macroOpening options hlanguage.2.2 code
  refine ⟨?_, codeText_cases content, hmember, hlanguage, codeOfMacro_written hopening code⟩
  have hwritten : codeMacro options (info.bind infoLanguage?) code = written := by
    rw [codeMacro, codeHeader_eq, resolveLanguage_info]
    rfl
  have hblock := render_codeBlockNode options keepSpans ⟨opening.start, closing.stop⟩ info content
  rw [hwritten] at hblock
  rw [documentOfEvents, nodesOfEvents_codeBlockEvents]
  exact render_document_singleton hblock

end WikiMarkup.Confluence
