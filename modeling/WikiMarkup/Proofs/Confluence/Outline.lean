import Mathlib.Data.List.Chain
import WikiMarkup.Proofs.Confluence.Lines
import WikiMarkup.Proofs.Confluence.Shape
import WikiMarkup.Proofs.Rendering.Assembly

/-!
Nested lists. The markers of a line are nowhere computed from the depth at which it stands: each
list marks the lines that it finds in its body, and those of a list within it are marked already.
What is carried from a list to the list around it is that its text has exactly the lines of its
outline, that each of them begins with a marker and ends with a character that is not blank, and
that its text ends a line. So trimming, the dropping of empty lines and the newlines put into items
take nothing from any line.
-/

namespace WikiMarkup.Confluence

open Node

/-- The marker of a list node; a list that does not say so is not numbered. -/
def markerOf (list : Node) : Char :=
  listMarker ((list.properties.getFlag? PropertyKey.ordered).getD false)

mutual

/-- The lines of a tree of lists within the lists that `path` marks, the outermost first: one line
for each text, in document order, which begins with the markers of all lists around it. -/
def outline (path : List Char) : Node → List (List Char)
  | .mk kind properties children span =>
      let n := Node.mk kind properties children span
      if n.is .text then
        [path ++ ' ' :: ((n.properties.getText? PropertyKey.content).getD "").toList]
      else if n.is .list then
        outlineAll (path ++ [markerOf n]) children
      else outlineAll path children

def outlineAll (path : List Char) : List Node → List (List Char)
  | [] => []
  | n :: rest => outline path n ++ outlineAll path rest

end

/-- A text that may stand on a line of a list: it is one line, not blank at either end, and does not
look like a line that is marked already. -/
structure IsEntryText (text : List Char) : Prop where
  filled : text ≠ []
  oneLine : '\n' ∉ text
  startsFilled : text.head?.any Text.isBlank = false
  endsFilled : text.getLast?.any Text.isBlank = false
  unmarked : ¬∃ run rest, text = run ++ ' ' :: rest ∧ run ≠ [] ∧ ∀ c ∈ run, c = '#' ∨ c = '*'

/-- A text node with a text that may stand on a line of a list. -/
def HoldsEntryText (n : Node) : Prop :=
  n.is .text ∧ ∃ text, n.properties.get? PropertyKey.content = some (.text text) ∧
    IsEntryText text.toList

/-- What stands in an item: a text, a paragraph of one text, or a list whose items hold such
entries, with no two texts side by side. -/
inductive IsEntry : Node → Prop where
  | text {n : Node} (htext : HoldsEntryText n) : IsEntry n
  | paragraph {n child : Node} (hkind : n.is .paragraph) (hchildren : n.children = [child])
      (htext : HoldsEntryText child) : IsEntry n
  | list {n : Node} (hkind : n.is .list) (hitems : ∀ item ∈ n.children, item.is .listItem)
      (hapart : ∀ item ∈ n.children,
        item.children.IsChain fun entry next => ¬(entry.is .text ∧ next.is .text))
      (hentries : ∀ item ∈ n.children, ∀ entry ∈ item.children, IsEntry entry) : IsEntry n

theorem outlineAll_eq_flatMap (path : List Char) (ns : List Node) :
    outlineAll path ns = ns.flatMap (outline path) := by
  induction ns with
  | nil => rfl
  | cons n rest ih => simp only [outlineAll, ih, List.flatMap_cons]

theorem outline_text {n : Node} (hkind : n.is .text) {text : String}
    (htext : n.properties.get? PropertyKey.content = some (.text text)) (path : List Char) :
    outline path n = [path ++ ' ' :: text.toList] := by
  cases n
  rw [outline]
  simp only [hkind, if_true, Properties.getText?_eq_some_iff.mpr htext, Option.getD_some]

theorem outline_list {n : Node} (hkind : n.is .list) (path : List Char) :
    outline path n = n.children.flatMap (outline (path ++ [markerOf n])) := by
  have htext : n.is .text = false := is_eq_decide hkind .text
  cases n
  rw [outline]
  simp only [hkind, htext, if_true, Bool.false_eq_true, if_false, Node.children,
    outlineAll_eq_flatMap]

theorem outline_other {n : Node} (htext : n.is .text = false) (hlist : n.is .list = false)
    (path : List Char) : outline path n = n.children.flatMap (outline path) := by
  cases n
  rw [outline]
  simp only [htext, hlist, Bool.false_eq_true, if_false, Node.children, outlineAll_eq_flatMap]

/-- A list around a tree puts its marker in front of each line. -/
theorem outline_cons (c : Char) (n : Node) (path : List Char) :
    outline (c :: path) n = (outline path n).map (c :: ·) := by
  induction n using childInduction generalizing path with
  | step n ih =>
      have hchildren : ∀ path, n.children.flatMap (outline (c :: path)) =
          (n.children.flatMap (outline path)).map (c :: ·) := by
        intro path
        rw [List.map_flatMap]
        exact List.flatMap_congr fun child hchild => ih child hchild path
      by_cases htext : n.is .text
      · cases n
        rw [outline, outline]
        simp only [htext, if_true, List.map_cons, List.map_nil, List.cons_append]
      · by_cases hlist : n.is .list
        · rw [outline_list hlist, outline_list hlist, List.cons_append, hchildren]
        · have hother := outline_other (Bool.eq_false_iff.mpr htext) (Bool.eq_false_iff.mpr hlist)
          rw [hother, hother, hchildren]

/-- Every line of a list has markers, a space and the text of an entry. -/
theorem outline_line {n : Node} (h : IsEntry n) :
    ∀ path, ∀ line ∈ outline path n, ∃ run text, line = path ++ run ++ ' ' :: text ∧
      (∀ c ∈ run, isMarker c) ∧ IsEntryText text ∧ (n.is .list → run ≠ []) := by
  induction h with
  | @text n htext =>
      intro path line hline
      obtain ⟨hkind, text, hget, hentry⟩ := htext
      rw [outline_text hkind hget, List.mem_singleton] at hline
      exact ⟨[], text.toList, by simpa using hline, by simp, hentry, by simp [is_eq_decide hkind]⟩
  | @paragraph n child hkind hchildren htext =>
      intro path line hline
      obtain ⟨hchild, text, hget, hentry⟩ := htext
      rw [outline_other (is_eq_decide hkind _) (is_eq_decide hkind _), hchildren,
        List.flatMap_singleton, outline_text hchild hget, List.mem_singleton] at hline
      exact ⟨[], text.toList, by simpa using hline, by simp, hentry, by simp [is_eq_decide hkind]⟩
  | @list n hkind hitems hapart hentries ih =>
      intro path line hline
      rw [outline_list hkind] at hline
      obtain ⟨item, hitem, hline⟩ := List.mem_flatMap.mp hline
      have hkinds := is_eq_decide (hitems item hitem)
      rw [outline_other (hkinds _) (hkinds _)] at hline
      obtain ⟨entry, hentry, hline⟩ := List.mem_flatMap.mp hline
      obtain ⟨run, text, rfl, hrun, htext, _⟩ := ih item hitem entry hentry _ line hline
      refine ⟨markerOf n :: run, text, by simp, ?_, htext, by simp⟩
      intro c hc
      rcases List.mem_cons.mp hc with rfl | hc
      · exact isMarker_listMarker _
      · exact hrun c hc

/-- A text has just the lines of the outline of a node, as a list around it will mark them, and none
of them is blank at either end. -/
structure Outlined (n : Node) (text : String) : Prop where
  lines : ∀ ordered, (filledLines text.toList).map (markLine (listMarker ordered)) =
    outline [listMarker ordered] n
  startsFilled : ∀ line ∈ filledLines text.toList, line.head?.any Text.isBlank = false
  endsFilled : ∀ line ∈ filledLines text.toList, line.getLast?.any Text.isBlank = false

/-- The text of an entry may be put behind the other entries of its item: only that of a text node
stops within a line, and every other begins a line of its own. -/
structure IsEntryWritten (n : Node) (text : String) : Prop extends Outlined n text where
  filled : text.toList ≠ []
  apart : n.is .text ∨ Rule.startsLine n ∧ isAtLineStart text.toList

theorem lines_parts {parts : List (Node × String)}
    (h : ∀ part ∈ parts, Outlined part.1 part.2) (ordered : Bool) :
    (parts.flatMap fun part => filledLines part.2.toList).map (markLine (listMarker ordered)) =
      (parts.map (·.1)).flatMap (outline [listMarker ordered]) := by
  rw [List.map_flatMap, List.flatMap_map]
  exact List.flatMap_congr fun part hpart => (h part hpart).lines ordered

theorem startsFilled_parts {parts : List (Node × String)}
    (h : ∀ part ∈ parts, Outlined part.1 part.2) :
    ∀ line ∈ parts.flatMap fun part => filledLines part.2.toList,
      line.head?.any Text.isBlank = false := by
  intro line hline
  obtain ⟨part, hpart, hline⟩ := List.mem_flatMap.mp hline
  exact (h part hpart).startsFilled line hline

theorem endsFilled_parts {parts : List (Node × String)}
    (h : ∀ part ∈ parts, Outlined part.1 part.2) :
    ∀ line ∈ parts.flatMap fun part => filledLines part.2.toList,
      line.getLast?.any Text.isBlank = false := by
  intro line hline
  obtain ⟨part, hpart, hline⟩ := List.mem_flatMap.mp hline
  exact (h part hpart).endsFilled line hline

theorem filledLines_join {parts : List (Node × String)}
    (h : ∀ part ∈ parts, isAtLineStart part.2.toList) :
    filledLines (Rule.join parts).toList = parts.flatMap fun part => filledLines part.2.toList := by
  induction parts with
  | nil => rfl
  | cons part rest ih =>
      have hrest := ih fun other hother => h other (by simp [hother])
      simp only [Rule.join, List.map_cons, String.join_cons, String.toList_append,
        List.flatMap_cons] at hrest ⊢
      rw [filledLines_append (h part (by simp)), hrest]

theorem stopsInLine_eq (text : String) :
    Rule.stopsInLine text = !isAtLineStart text.toList := by
  unfold Rule.stopsInLine isAtLineStart
  cases text.toList.getLast? <;> simp

/-- One step of putting an item together keeps the lines apart. -/
theorem filledLines_itemStep {body : String} {part : Node × String}
    (h : Rule.startsLine part.1 ∨ isAtLineStart body.toList) :
    filledLines (Rule.addPart body part).toList =
      filledLines body.toList ++ filledLines part.2.toList := by
  rw [Rule.addPart, stopsInLine_eq]
  by_cases hbody : isAtLineStart body.toList
  · simp only [hbody, Bool.not_true, Bool.and_false, Bool.false_eq_true, if_false,
      String.toList_append]
    exact filledLines_append hbody _
  · have hstarts : Rule.startsLine part.1 = true := by simpa [hbody] using h
    simp only [hbody, hstarts, Bool.not_false, Bool.and_true, if_true, String.toList_append]
    simpa using filledLines_append_newline body.toList part.2.toList

theorem filledLines_itemFold {parts : List (Node × String)} (body : String)
    (hbody : ∀ part ∈ parts.head?, Rule.startsLine part.1 ∨ isAtLineStart body.toList)
    (hfilled : ∀ part ∈ parts, part.2.toList ≠ [])
    (hapart : parts.IsChain fun part next =>
      Rule.startsLine next.1 ∨ isAtLineStart part.2.toList) :
    filledLines (parts.foldl Rule.addPart body).toList =
      filledLines body.toList ++ parts.flatMap fun part => filledLines part.2.toList := by
  induction parts generalizing body with
  | nil => simp
  | cons part rest ih =>
      have hstep := filledLines_itemStep (hbody part rfl)
      rw [List.foldl_cons, ih, hstep, List.flatMap_cons, List.append_assoc]
      · -- The text so far ends as its last part does, since that part is not empty.
        intro next hnext
        obtain ⟨more, rfl⟩ := List.head?_eq_some_iff.mp hnext
        have hrel := (List.isChain_cons_cons.mp hapart).1
        rw [Rule.addPart, String.toList_append, isAtLineStart, List.getLast?_append_of_ne_nil _
          (hfilled part (by simp))]
        exact hrel
      · exact fun other hother => hfilled other (by simp [hother])
      · exact hapart.of_cons

theorem filledLines_itemBody {parts : List (Node × String)}
    (hfilled : ∀ part ∈ parts, part.2.toList ≠ [])
    (hapart : parts.IsChain fun part next =>
      Rule.startsLine next.1 ∨ isAtLineStart part.2.toList) :
    filledLines (Rule.itemBody parts).toList =
      parts.flatMap fun part => filledLines part.2.toList :=
  filledLines_itemFold "" (fun _ _ => .inr rfl) hfilled hapart

theorem IsEntryText.isMarked_eq_false {text : List Char} (h : IsEntryText text) :
    isMarked text = false := by
  rw [Bool.eq_false_iff]
  intro hmarked
  obtain ⟨run, rest, heq, hne, hrun⟩ := isMarked_iff.mp hmarked
  exact h.unmarked ⟨run, rest, heq, hne, fun c hc => by simpa [isMarker] using hrun c hc⟩

instance (text : List Char) : Decidable (IsEntryText text) :=
  decidable_of_iff (text ≠ [] ∧ '\n' ∉ text ∧ text.head?.any Text.isBlank = false ∧
    text.getLast?.any Text.isBlank = false ∧ isMarked text = false) <| by
      constructor
      · rintro ⟨hfilled, hline, hstart, hend, hmarked⟩
        refine ⟨hfilled, hline, hstart, hend, ?_⟩
        rintro ⟨run, rest, heq, hne, hrun⟩
        have hrow := isMarked_iff.mpr ⟨run, rest, heq, hne, fun c hc => by
          simpa [isMarker] using hrun c hc⟩
        simp [hmarked] at hrow
      · intro h
        exact ⟨h.filled, h.oneLine, h.startsFilled, h.endsFilled, h.isMarked_eq_false⟩

theorem outlined_of_line {n : Node} {text written : String} (htext : IsEntryText text.toList)
    (houtline : ∀ path, outline path n = [path ++ ' ' :: text.toList])
    (hwritten : filledLines written.toList = [text.toList]) : Outlined n written where
  lines ordered := by
    rw [hwritten, houtline, List.map_singleton, markLine, htext.isMarked_eq_false]
    rfl
  startsFilled line hline := by
    rw [hwritten, List.mem_singleton] at hline
    exact hline ▸ htext.startsFilled
  endsFilled line hline := by
    rw [hwritten, List.mem_singleton] at hline
    exact hline ▸ htext.endsFilled

theorem render_entryText (options : Options) {n : Node} (h : HoldsEntryText n) :
    ∃ text, n.render (renderer options) = .ok (.exact text) ∧ IsEntryText text.toList ∧
      ∀ path, outline path n = [path ++ ' ' :: text.toList] := by
  obtain ⟨hkind, text, hget, htext⟩ := h
  refine ⟨text, render_leaf ?_, htext, outline_text hkind hget⟩
  rw [ofNode_of_is hkind, Rule.ofElement, Rule.requireText,
    Properties.getText?_eq_some_iff.mpr hget]
  rfl

theorem render_item (options : Options) {item : Node} (hkind : item.is .listItem)
    (hapart : item.children.IsChain fun entry next => ¬(entry.is .text ∧ next.is .text))
    (h : ∀ entry ∈ item.children, ∃ text,
      entry.render (renderer options) = .ok (.exact text) ∧ IsEntryWritten entry text) :
    ∃ text, item.render (renderer options) = .ok (.exact text) ∧ Outlined item text ∧
      isAtLineStart text.toList := by
  obtain ⟨parts, hparts, hchildren, hwritten⟩ := renderAll_exact h
  have hfilled : ∀ part ∈ parts, part.2.toList ≠ [] :=
    fun part hpart => (hwritten part hpart).filled
  -- Only a text before a text could run on in its line, and no two texts are neighbours.
  have hbroken : parts.IsChain fun part next =>
      Rule.startsLine next.1 ∨ isAtLineStart part.2.toList := by
    rw [← hchildren, List.isChain_map] at hapart
    apply hapart.imp_of_mem_imp
    intro part next hpart hnext hne
    rcases (hwritten next hnext).apart with hnextText | ⟨hstarts, _⟩
    · rcases (hwritten part hpart).apart with hpartText | ⟨_, hends⟩
      · exact absurd ⟨hpartText, hnextText⟩ hne
      · exact .inr hends
    · exact .inl hstarts
  have houtlined : ∀ part ∈ parts, Outlined part.1 part.2 :=
    fun part hpart => (hwritten part hpart).toOutlined
  have hlines : filledLines (Rule.itemBody parts ++ "\n").toList =
      parts.flatMap fun part => filledLines part.2.toList := by
    rw [String.toList_append, ← filledLines_itemBody hfilled hbroken]
    exact filledLines_ended _
  have hkinds := is_eq_decide hkind
  have hrule := ofNode_listItem options hkind
  refine ⟨_, render_branch hrule (losses_of_is hkind) hparts, ?_, by simp [isAtLineStart]⟩
  constructor
  · intro ordered
    rw [hlines, lines_parts houtlined, hchildren, outline_other (hkinds _) (hkinds _)]
  · rw [hlines]
    exact startsFilled_parts houtlined
  · rw [hlines]
    exact endsFilled_parts houtlined

theorem render_items (options : Options) {n : Node} (hkind : n.is .list)
    (h : ∀ item ∈ n.children, ∃ text, item.render (renderer options) = .ok (.exact text) ∧
      Outlined item text ∧ isAtLineStart text.toList) :
    n.render (renderer options) =
      .ok (.exact (String.ofList (joinLines (outline [] n) ++ ['\n', '\n']))) := by
  obtain ⟨parts, hparts, hchildren, hwritten⟩ := renderAll_exact h
  have houtlined : ∀ part ∈ parts, Outlined part.1 part.2 :=
    fun part hpart => (hwritten part hpart).1
  have hlines := filledLines_join fun part hpart => (hwritten part hpart).2
  have htrim : filledLines (Text.trimBlank (Rule.join parts).toList) =
      filledLines (Rule.join parts).toList := by
    apply filledLines_trimBlank
    · intro line hline
      exact startsFilled_parts houtlined line (hlines ▸ List.mem_of_mem_head? hline)
    · intro line hline
      exact endsFilled_parts houtlined line (hlines ▸ List.mem_of_mem_getLast? hline)
  rw [render_branch (ofNode_list options hkind) (losses_of_is hkind) hparts, listMarkup_eq, htrim,
    hlines, lines_parts houtlined, hchildren, outline_list hkind]
  rfl

/-- A line that a list has written: markers, a space and the text of an entry. -/
def IsRow (row : List Char) : Prop :=
  ∃ run text, row = run ++ ' ' :: text ∧ run ≠ [] ∧ (∀ c ∈ run, isMarker c) ∧ IsEntryText text

theorem isRow_of_list {n : Node} (h : IsEntry n) (hkind : n.is .list) :
    ∀ row ∈ outline [] n, IsRow row := by
  intro row hrow
  obtain ⟨run, text, heq, hrun, htext, hne⟩ := outline_line h [] row hrow
  exact ⟨run, text, by simpa using heq, hne hkind, hrun, htext⟩

theorem IsRow.isMarked {row : List Char} (h : IsRow row) : isMarked row = true := by
  obtain ⟨run, text, heq, hne, hrun, _⟩ := h
  exact isMarked_iff.mpr ⟨run, text, heq, hne, hrun⟩

theorem IsRow.oneLine {row : List Char} (h : IsRow row) : '\n' ∉ row := by
  obtain ⟨run, text, rfl, _, hrun, htext⟩ := h
  have hnot : isMarker '\n' = false := by decide
  intro hmem
  rcases List.mem_append.mp hmem with hmem | hmem
  · simpa [hnot] using hrun _ hmem
  · rcases List.mem_cons.mp hmem with hspace | hmem
    · exact absurd hspace (by decide)
    · exact htext.oneLine hmem

theorem IsRow.startsFilled {row : List Char} (h : IsRow row) :
    row.head?.any Text.isBlank = false :=
  startsFilled_of_isMarked h.isMarked

theorem IsRow.endsFilled {row : List Char} (h : IsRow row) :
    row.getLast?.any Text.isBlank = false := by
  obtain ⟨run, text, rfl, _, _, htext⟩ := h
  have hlast : (' ' :: text).getLast? = text.getLast? := by
    obtain ⟨c, more, rfl⟩ := List.exists_cons_of_ne_nil htext.filled
    rfl
  rw [List.getLast?_append_of_ne_nil _ (by simp), hlast]
  exact htext.endsFilled

/-- The text of a list has the lines of its outline, so that a list around it adds its marker to the
markers that are there. -/
theorem outlined_list {n : Node} (h : IsEntry n) (hkind : n.is .list) :
    Outlined n (String.ofList (joinLines (outline [] n) ++ ['\n', '\n'])) := by
  have hrows := isRow_of_list h hkind
  have hsolid : ∀ row ∈ outline [] n, '\n' ∉ row ∧ row ≠ [] := by
    intro row hrow
    obtain ⟨run, text, rfl, _⟩ := hrows row hrow
    exact ⟨(hrows _ hrow).oneLine, by simp⟩
  have hlines : filledLines (joinLines (outline [] n) ++ ['\n', '\n']) = outline [] n := by
    rw [filledLines_closed, filledLines_joinLines hsolid]
  constructor
  · intro ordered
    rw [String.toList_ofList, hlines, outline_cons]
    apply List.map_congr_left
    intro row hrow
    rw [markLine, (hrows row hrow).isMarked]
    rfl
  · rw [String.toList_ofList, hlines]
    exact fun line hline => (hrows line hline).startsFilled
  · rw [String.toList_ofList, hlines]
    exact fun line hline => (hrows line hline).endsFilled

theorem render_entry (options : Options) {n : Node} (h : IsEntry n) :
    ∃ text, n.render (renderer options) = .ok (.exact text) ∧ IsEntryWritten n text := by
  induction h with
  | @text n htext =>
      obtain ⟨text, hrender, hentry, houtline⟩ := render_entryText options htext
      have hwritten := outlined_of_line hentry houtline
        (filledLines_of_line hentry.oneLine hentry.filled)
      exact ⟨text, hrender, hwritten, hentry.filled, .inl htext.1⟩
  | @paragraph n child hkind hchildren htext =>
      obtain ⟨text, hrender, hentry, houtline⟩ := render_entryText options htext
      have hkinds := is_eq_decide hkind
      have hrule : Rule.ofNode (renderer options) n =
          .ok (.branch fun parts => Rule.join parts ++ "\n\n") := by
        rw [ofNode_of_is hkind]
        rfl
      have hparts : renderAll (renderer options) n.children =
          .ok (.exact [(child, text)]) := by
        simp [hchildren, renderAll, hrender, Converted.exact]
      have hline : filledLines (Rule.join [(child, text)] ++ "\n\n").toList = [text.toList] := by
        have hjoin : Rule.join [(child, text)] = text := by simp [Rule.join]
        rw [hjoin, String.toList_append]
        exact (filledLines_closed _).trans (filledLines_of_line hentry.oneLine hentry.filled)
      have hparagraph : ∀ path, outline path n = [path ++ ' ' :: text.toList] := by
        intro path
        rw [outline_other (hkinds _) (hkinds _), hchildren, List.flatMap_singleton, houtline]
      refine ⟨_, render_branch hrule (losses_of_is hkind) hparts,
        outlined_of_line hentry hparagraph hline, by simp, .inr ⟨?_, ?_⟩⟩
      · simp [Rule.startsLine, Rule.itemBlocks, hkinds]
      · simp [isAtLineStart]
  | @list n hkind hitems hapart hentries ih =>
      have hlist := IsEntry.list hkind hitems hapart hentries
      have hkinds := is_eq_decide hkind
      have hrender := render_items options hkind fun item hitem =>
        render_item options (hitems item hitem) (hapart item hitem) (ih item hitem)
      refine ⟨_, hrender, outlined_list hlist hkind, by simp, .inr ⟨?_, ?_⟩⟩
      · simp [Rule.startsLine, Rule.itemBlocks, hkinds]
      · simp [isAtLineStart]

theorem isEntry_list (ordered : Bool) (items : List (List Node))
    (hapart : ∀ entries ∈ items,
      entries.IsChain fun entry next => ¬(entry.is .text ∧ next.is .text))
    (hentries : ∀ entries ∈ items, ∀ entry ∈ entries, IsEntry entry) :
    IsEntry (Node.list ordered (items.map listItem)) := by
  refine .list rfl ?_ ?_ ?_
  · intro item hitem
    obtain ⟨entries, _, rfl⟩ := List.mem_map.mp hitem
    rfl
  · intro item hitem
    obtain ⟨entries, hmem, rfl⟩ := List.mem_map.mp hitem
    exact hapart entries hmem
  · intro item hitem
    obtain ⟨entries, hmem, rfl⟩ := List.mem_map.mp hitem
    exact hentries entries hmem

/-- A list of lists, texts and paragraphs, nested to any depth, is written as one line for each text
in document order: the markers of all lists around the text, the outermost first, a space, and the
text. -/
theorem render_nested_list (options : Options) (n : Node) (hkind : n.is .list) (h : IsEntry n) :
    render options ⟨n⟩ =
      .ok (.exact (String.ofList (joinLines (outline [] n) ++ ['\n', '\n']))) := by
  cases h with
  | text htext =>
      have hnot := is_eq_decide htext.1 .list
      simp [hkind] at hnot
  | paragraph hparagraph =>
      have hnot := is_eq_decide hparagraph .list
      simp [hkind] at hnot
  | list _ hitems hapart hentries =>
      exact render_items options hkind fun item hitem =>
        render_item options (hitems item hitem) (hapart item hitem) fun entry hentry =>
          render_entry options (hentries item hitem entry hentry)

theorem render_nested_list_two_levels :
    let text := Node.text "a b"
    let inner := Node.list true [listItem [paragraph [text]], listItem []]
    let outer := Node.list false [listItem [text, inner, text], listItem [inner]]
    outer.is .list ∧ IsEntry outer ∧
      render {} ⟨outer⟩ = .ok (.exact "* a b\n*# a b\n* a b\n*# a b\n\n") := by
  intro text inner outer
  have htext : HoldsEntryText text := ⟨rfl, "a b", rfl, by decide⟩
  have hparagraph : IsEntry (paragraph [text]) := .paragraph rfl rfl htext
  have hinner : IsEntry inner :=
    isEntry_list true [[paragraph [text]], []] (by decide) (by simp [hparagraph])
  have houter : IsEntry outer :=
    isEntry_list false [[text, inner, text], [inner]] (by decide)
      (by simp [IsEntry.text htext, hinner])
  have hlist : outer.is .list := rfl
  have houtline : outline [] outer =
      ["* a b".toList, "*# a b".toList, "* a b".toList, "*# a b".toList] := rfl
  refine ⟨hlist, houter, ?_⟩
  rw [render_nested_list {} outer hlist houter, houtline]
  rfl

end WikiMarkup.Confluence
