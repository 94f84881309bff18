import WikiMarkup.Proofs.Confluence.Outline
import WikiMarkup.Proofs.Rendering.Outcome

/-!
Where the blocks in a list item begin. An item puts its children one behind the other, and before a
block that would begin in the middle of a line it puts a newline. It knows its blocks by a list of
kinds in which one kind of block is left out: a rule goes on in the line that stands before it.
-/

namespace WikiMarkup.Confluence

open Node

/-- Kinds of block that may stand in a list item. -/
def blockElements : List Element :=
  [.list, .paragraph, .heading, .codeBlock, .quote, .table, .rawBlock, .rule]

/-- A part of an item begins a line if it is known to start one, or if the body before it has ended
its last line. -/
theorem exists_joint (body : String) (part : Node × String) :
    ∃ joint, (joint = "" ∨ joint = "\n") ∧ Rule.addPart body part = body ++ joint ++ part.2 ∧
      isAtLineStart (body ++ joint).toList =
        (Rule.startsLine part.1 || isAtLineStart body.toList) := by
  rw [Rule.addPart, stopsInLine_eq]
  cases hstarts : Rule.startsLine part.1 with
  | false => exact ⟨"", .inl rfl, by simp, by simp⟩
  | true =>
      cases hbody : isAtLineStart body.toList with
      | true => exact ⟨"", .inl rfl, by simp, by simp [hbody]⟩
      | false => exact ⟨"\n", .inr rfl, by simp, by simp [isAtLineStart]⟩

/-- Of the blocks an item knows all but the rule. -/
theorem startsLine_of_block {n : Node} {e : Element} (he : e ∈ blockElements) (hkind : n.is e) :
    Rule.startsLine n = decide (e ≠ .rule) := by
  have hknown : ∀ e ∈ blockElements, decide (e ∈ Rule.itemBlocks) = decide (e ≠ .rule) := by decide
  rw [Rule.startsLine, any_is hkind, hknown e he]

/-- Every child of a list item stands behind what the item would be with the children before it
alone, and at most a newline. A block begins a line, unless it is a rule: that begins one only where
the children before it have ended theirs. -/
theorem item_blocks_by_place (options : Options) {item child : Node} {before after : List Node}
    (hkind : item.is .listItem) (hchildren : item.children = before ++ child :: after)
    {result : Converted String} (hrender : item.render (renderer options) = .ok result) :
    ∃ front joint text back earlier own,
      (listItem before).render (renderer options) = .ok ⟨front ++ "\n", earlier⟩ ∧
      child.render (renderer options) = .ok ⟨text, own⟩ ∧
      result.value = front ++ joint ++ text ++ back ++ "\n" ∧
      (joint = "" ∨ joint = "\n") ∧
      ∀ e ∈ blockElements, child.is e →
        (isAtLineStart (front ++ joint).toList ↔ e ≠ .rule ∨ isAtLineStart front.toList) := by
  have hopen : item.isClosed = false := any_is hkind closedElements
  obtain ⟨assemble, parts, hrule, hall, rfl⟩ := exists_parts_of_render hopen hrender
  obtain ⟨hnodes, hwritten⟩ := renderAll_parts hall
  rw [hchildren] at hnodes
  obtain ⟨first, others, hparts, hfirst, hothers⟩ := List.map_eq_append_iff.mp hnodes
  obtain ⟨part, rest, rfl, rfl, -⟩ := List.map_eq_cons_iff.mp hothers
  obtain ⟨own, hown⟩ := hwritten part (by simp [hparts])
  have hbefore : ∀ other ∈ first, ∃ warnings,
      other.1.render (renderer options) = .ok ⟨other.2, warnings⟩ :=
    fun other hother => hwritten other (by simp [hparts, hother])
  obtain ⟨earlier, hearlier⟩ := exists_renderAll hbefore
  rw [hfirst] at hearlier
  obtain ⟨joint, hjoint, hstep, hstart⟩ := exists_joint (Rule.itemBody first) part
  obtain ⟨back, hback⟩ := Rule.exists_foldl_addPart rest (Rule.addPart (Rule.itemBody first) part)
  have hbody : Rule.itemBody parts.value = Rule.itemBody first ++ joint ++ part.2 ++ back := by
    rw [hparts, Rule.itemBody_eq_foldl, List.foldl_append, List.foldl_cons, ← hstep, ← hback]
    rfl
  rw [ofNode_listItem options hkind, Except.ok.injEq, Rule.branch.injEq] at hrule
  refine ⟨Rule.itemBody first, joint, part.2, back, earlier, own, ?_, hown, ?_, hjoint, ?_⟩
  · rw [render_eq, ofNode_listItem options rfl]
    simp only [listItem, children_ofElement, hearlier]
    rfl
  · rw [← hrule, ← hbody]
  · intro e he hblock
    rw [hstart, startsLine_of_block he hblock, Bool.or_eq_true, decide_eq_true_eq]

/-- A paragraph between a text and a rule. -/
theorem item_blocks_by_place_paragraph :
    let item := listItem [.text "a", paragraph [.text "b"], .ofElement .rule []]
    item.is .listItem ∧
      item.children = [.text "a"] ++ paragraph [.text "b"] :: [.ofElement .rule []] ∧
      item.render (renderer {}) = .ok (.exact "a\nb\n\n----\n") ∧
      ∃ front joint text back,
        "a\nb\n\n----\n" = front ++ joint ++ text ++ back ++ "\n" ∧
          (paragraph [.text "b"]).render (renderer {}) = .ok (.exact text) ∧
          isAtLineStart (front ++ joint).toList := by
  intro item
  have hchildren :
      item.children = [.text "a"] ++ paragraph [.text "b"] :: [.ofElement .rule []] := rfl
  have hrender : item.render (renderer {}) = .ok (.exact "a\nb\n\n----\n") := by rfl
  refine ⟨rfl, hchildren, hrender, ?_⟩
  obtain ⟨front, joint, text, back, earlier, own, -, hown, hvalue, -, hstart⟩ :=
    item_blocks_by_place {} rfl hchildren hrender
  refine ⟨front, joint, text, back, hvalue, ?_, ?_⟩
  · cases hown
    rfl
  · exact (hstart .paragraph (by decide) rfl).mpr (.inl (by decide))

/-- Behind a text a rule neither begins the body of its item nor stands behind a newline. -/
theorem rule_goes_on_in_line :
    let rule := Node.ofElement .rule []
    let item := listItem [.text "a", rule]
    item.render (renderer {}) = .ok (.exact "a----\n") ∧
      rule.render (renderer {}) = .ok (.exact "----") ∧
      ¬∃ front back, "a----" = front ++ "----" ++ back ∧ isAtLineStart front.toList := by
  refine ⟨by rfl, by rfl, ?_⟩
  rintro ⟨front, back, htext, hstart⟩
  have hchars : ['a', '-', '-', '-', '-'] =
      front.toList ++ ['-', '-', '-', '-'] ++ back.toList := by
    simpa using congrArg String.toList htext
  rcases List.eq_nil_or_concat front.toList with hnil | ⟨before, last, hfront⟩
  · rw [hnil] at hchars
    cases hchars
  · have hlast : last = '\n' := by simpa [hfront, isAtLineStart] using hstart
    have hmem : '\n' ∈ ['a', '-', '-', '-', '-'] := by
      rw [hchars, hfront, hlast]
      simp
    revert hmem
    decide

end WikiMarkup.Confluence
