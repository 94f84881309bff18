import Mathlib.Data.List.Forall2
import WikiMarkup.Proofs.Confluence.Outline

/-!
Lists of texts. A list takes a line that begins with markers and a space for a line of a list within
it, and joins its marker to them. It sees lines only, so it takes a text that begins in this way for
such a line too. Every other text keeps its level: its line is the marker, a space and the text.
-/

namespace WikiMarkup.Confluence

open Node

/-- A text that may stand on a line: not empty, without a newline, and not blank at either end. -/
structure IsLine (text : List Char) : Prop where
  filled : text ≠ []
  oneLine : '\n' ∉ text
  startsFilled : text.head?.any Text.isBlank = false
  endsFilled : text.getLast?.any Text.isBlank = false

/-- A text begins with markers and a space, as the line of a list does. -/
def LooksMarked (text : List Char) : Prop :=
  ∃ run rest, text = run ++ ' ' :: rest ∧ run ≠ [] ∧ ∀ c ∈ run, c = '#' ∨ c = '*'

/-- An item that holds one text node, with the given text. -/
def HoldsText (item : Node) (text : String) : Prop :=
  item.is .listItem ∧ ∃ child, item.children = [child] ∧ child.is .text ∧
    child.properties.get? PropertyKey.content = some (.text text)

instance (text : List Char) : Decidable (IsLine text) :=
  decidable_of_iff (text ≠ [] ∧ '\n' ∉ text ∧ text.head?.any Text.isBlank = false ∧
      text.getLast?.any Text.isBlank = false)
    ⟨fun ⟨hfilled, hline, hstart, hend⟩ => ⟨hfilled, hline, hstart, hend⟩,
      fun h => ⟨h.filled, h.oneLine, h.startsFilled, h.endsFilled⟩⟩

theorem looksMarked_iff {text : List Char} : LooksMarked text ↔ isMarked text := by
  rw [isMarked_iff, LooksMarked]
  simp [isMarker]

instance (text : List Char) : Decidable (LooksMarked text) :=
  decidable_of_iff (isMarked text) looksMarked_iff.symm

/-- A line that begins with markers and a space is the only kind that the marker is joined to. -/
theorem markLine_eq_iff {marker : Char} {line : List Char} :
    markLine marker line = marker :: ' ' :: line ↔ ¬LooksMarked line := by
  rw [looksMarked_iff, markLine]
  split
  case isTrue h => simp [h]
  case isFalse h => simp [h]

theorem HoldsText.render (options : Options) {item : Node} {text : String}
    (h : HoldsText item text) :
    item.render (renderer options) = .ok (.exact (text ++ "\n")) := by
  obtain ⟨hkind, child, hchildren, hchild, hcontent⟩ := h
  have hrule : Rule.ofNode (renderer options) child = .ok (.leaf text) := by
    rw [ofNode_of_is hchild, Rule.ofElement, requireText_eq_ok hcontent]
    rfl
  have hparts : renderAll (renderer options) item.children = .ok (.exact [(child, text)]) := by
    simp [hchildren, renderAll, render_leaf hrule, Converted.exact]
  have hbody : Rule.itemBody [(child, text)] = text := by
    simp [Rule.itemBody, Rule.stopsInLine]
  rw [render_branch (ofNode_listItem options hkind) (losses_of_is hkind) hparts, hbody]

theorem render_textItems (options : Options) {items : List Node} {texts : List String}
    (h : List.Forall₂ HoldsText items texts) :
    ∃ parts, renderAll (renderer options) items = .ok (.exact parts) ∧
      (Rule.join parts).toList = endLines (texts.map String.toList) := by
  induction h with
  | nil => exact ⟨[], rfl, rfl⟩
  | @cons item text items texts hitem _ ih =>
      obtain ⟨parts, hparts, hjoin⟩ := ih
      refine ⟨(item, text ++ "\n") :: parts, ?_, ?_⟩
      · simp only [renderAll, hitem.render options, hparts, Converted.exact, List.append_nil]
      · rw [toList_join] at hjoin ⊢
        rw [List.flatMap_cons, hjoin, List.map_cons, endLines, endLines, List.flatMap_cons,
          String.toList_append]
        rfl

/-- A list of texts has one line for each of them, which is the text once the list has marked it. -/
theorem render_textList (options : Options) {n : Node} (hkind : n.is .list) {texts : List String}
    (hitems : List.Forall₂ HoldsText n.children texts)
    (htexts : ∀ text ∈ texts, IsLine text.toList) :
    n.render (renderer options) = .ok (.exact (String.ofList
      (joinLines (texts.map fun text => markLine (markerOf n) text.toList) ++ ['\n', '\n']))) := by
  obtain ⟨parts, hparts, hjoin⟩ := render_textItems options hitems
  have hrows : ∀ row ∈ texts.map String.toList, IsLine row := List.forall_mem_map.mpr htexts
  have hlines : filledLines (Rule.join parts).toList = texts.map String.toList := by
    have hended := filledLines_endLines (fun row hrow => (hrows row hrow).oneLine) []
    rw [List.append_nil, filledLines_nil, List.append_nil] at hended
    rw [hjoin, hended, List.filter_eq_self]
    intro row hrow
    simpa using (hrows row hrow).filled
  have htrim : filledLines (Text.trimBlank (Rule.join parts).toList) = texts.map String.toList := by
    rw [filledLines_trimBlank, hlines]
    · rw [hlines]
      exact fun row hrow => (hrows row (List.mem_of_mem_head? hrow)).startsFilled
    · rw [hlines]
      exact fun row hrow => (hrows row (List.mem_of_mem_getLast? hrow)).endsFilled
  rw [render_branch (ofNode_list options hkind) (losses_of_is hkind) hparts, listMarkup_eq, htrim,
    List.map_map]
  rfl

/-- A list of texts has one line for each text. The line is the marker of the list, a space and the
text, except for a text that begins with markers and a space: to these the marker is joined. So the
list keeps all its texts on its own level exactly if none of them begins in that way. -/
theorem literal_items_by_line (options : Options) {n : Node} (hkind : n.is .list)
    {texts : List String} (hitems : List.Forall₂ HoldsText n.children texts)
    (htexts : ∀ text ∈ texts, IsLine text.toList) :
    ∃ rows, render options ⟨n⟩ = .ok (.exact (String.ofList (joinLines rows ++ ['\n', '\n']))) ∧
      List.Forall₂ (fun text row =>
        (LooksMarked text.toList → row = markerOf n :: text.toList) ∧
          (¬LooksMarked text.toList → row = markerOf n :: ' ' :: text.toList)) texts rows ∧
      (render options ⟨n⟩ = .ok (.exact (String.ofList (joinLines
          (texts.map fun text => markerOf n :: ' ' :: text.toList) ++ ['\n', '\n']))) ↔
        ∀ text ∈ texts, ¬LooksMarked text.toList) := by
  have hrender : render options ⟨n⟩ = .ok (.exact (String.ofList
      (joinLines (texts.map fun text => markLine (markerOf n) text.toList) ++ ['\n', '\n']))) :=
    render_textList options hkind hitems htexts
  refine ⟨_, hrender, ?_, ?_⟩
  · rw [List.forall₂_map_right_iff, List.forall₂_same]
    intro text _
    refine ⟨fun hmarked => ?_, markLine_eq_iff.mpr⟩
    rw [markLine, if_pos (looksMarked_iff.mp hmarked)]
  · have hmarked : ∀ row ∈ texts.map fun text => markLine (markerOf n) text.toList,
        '\n' ∉ row ∧ row ≠ [] := by
      rw [List.forall_mem_map]
      intro text htext
      exact ⟨newline_not_mem_markLine _ (htexts text htext).oneLine,
        ne_nil_of_isMarked (isMarked_markLine _ text.toList)⟩
    have hkept : ∀ row ∈ texts.map fun text => markerOf n :: ' ' :: text.toList,
        '\n' ∉ row ∧ row ≠ [] := by
      rw [List.forall_mem_map]
      intro text htext
      have hmarker : '\n' ≠ markerOf n := newline_ne_listMarker _
      simpa [hmarker] using (htexts text htext).oneLine
    simp only [hrender, Except.ok.injEq, Converted.exact, Converted.mk.injEq, and_true,
      String.ofList_inj, List.append_cancel_right_eq, joinLines_inj hmarked hkept,
      List.map_inj_left, markLine_eq_iff]

theorem holdsText_listItem (text : String) : HoldsText (listItem [.text text]) text :=
  ⟨rfl, .text text, rfl, rfl,
    Properties.getText?_eq_some_iff.mp (getText?_content_ofContent .text text)⟩

theorem holdsText_items (texts : List String) :
    List.Forall₂ HoldsText (texts.map fun text => listItem [.text text]) texts := by
  rw [List.forall₂_map_left_iff, List.forall₂_same]
  exact fun text _ => holdsText_listItem text

/-- A numbered list of a text, a text with marks around a word, and two texts that begin as lines of
lists do. -/
theorem literal_items_by_line_marked :
    let texts := ["a", "*b* c", "* d", "#* e"]
    let n := Node.list true (texts.map fun text => listItem [.text text])
    n.is .list ∧ List.Forall₂ HoldsText n.children texts ∧ (∀ text ∈ texts, IsLine text.toList) ∧
      render {} ⟨n⟩ = .ok (.exact "# a\n# *b* c\n#* d\n##* e\n\n") ∧
      render {} ⟨n⟩ ≠ .ok (.exact "# a\n# *b* c\n# * d\n# #* e\n\n") := by
  intro texts n
  have hkind : n.is .list := rfl
  have hitems : List.Forall₂ HoldsText n.children texts := holdsText_items texts
  have htexts : ∀ text ∈ texts, IsLine text.toList := by decide
  obtain ⟨rows, -, -, hkept⟩ := literal_items_by_line {} hkind hitems htexts
  refine ⟨hkind, hitems, htexts, by rfl, ?_⟩
  intro h
  exact hkept.mp h "* d" (by decide) (by decide)

/-- A text with an asterisk and a space at its start is written on the level below, as the item of a
list in the list. -/
theorem literal_marker_joins :
    let literal := Node.list false [listItem [.text "* x"]]
    let nested := Node.list false [listItem [.list false [listItem [.text "x"]]]]
    HoldsText (listItem [.text "* x"]) "* x" ∧ IsLine "* x".toList ∧
      render {} ⟨literal⟩ = .ok (.exact "** x\n\n") ∧
      render {} ⟨nested⟩ = .ok (.exact "** x\n\n") ∧
      render {} ⟨literal⟩ ≠ .ok (.exact "* * x\n\n") := by
  exact ⟨holdsText_listItem "* x", by decide, by rfl, by rfl, by decide⟩

end WikiMarkup.Confluence
