import Mathlib.Data.List.Basic
import Mathlib.Data.List.Infix
import WikiMarkup.Proofs.Confluence.CodeBlock
import WikiMarkup.Proofs.Confluence.Content
import WikiMarkup.Proofs.Confluence.Outline
import WikiMarkup.Proofs.Text.Trimmed

/-!
The macros of code blocks in the text of a document. Almost every node puts the texts of its
children whole into its own, so the macro of a code block stands whole in the text of a document, as
long as there is no list around it. A list does not know which of the lines in its body are code: it
drops the empty ones and puts a marker in front of each other one. So of a macro in lists the first
line is left with something in front of it, and every line behind it stands there with the markers of
all the lists.
-/

namespace WikiMarkup.Confluence

open Node

/-- What trimming leaves of a text that begins with a line end is nothing or begins with it. -/
theorem filledLines_rdropWhile_newline (line behind : List Char) (hline : '\n' ∉ line)
    (hne : line ≠ []) :
    ∃ others, filledLines (line ++ ('\n' :: behind).rdropWhile Text.isBlank) = line :: others := by
  obtain ⟨more, hmore⟩ := List.rdropWhile_prefix Text.isBlank ('\n' :: behind)
  cases hrest : ('\n' :: behind).rdropWhile Text.isBlank with
  | nil => exact ⟨[], by rw [List.append_nil, filledLines_of_line hline hne]⟩
  | cons c rest =>
      rw [hrest, List.cons_append, List.cons.injEq] at hmore
      obtain ⟨rfl, -⟩ := hmore
      exact ⟨filledLines rest, by
        rw [filledLines_append_newline, filledLines_of_line hline hne, List.singleton_append]⟩

/-- Of lines that stand in the body of a list, the first and the last not blank where the others end,
all but the empty ones are marked and stand in the text of the list; the first may not be the whole
of its line in the body. -/
theorem infix_listMarkup (ordered : Bool) {first last : List Char} {between : List (List Char)}
    (hfirst : first ≠ [] ∧ '\n' ∉ first ∧ first.head?.any Text.isBlank = false)
    (hlast : last ≠ [] ∧ '\n' ∉ last ∧ last.getLast?.any Text.isBlank = false)
    (hbetween : ∀ row ∈ between, '\n' ∉ row) {body : List Char}
    (h : endLines (first :: between ++ [last]) <:+: body) :
    first ++ '\n' :: endLines ((between.filter (!·.isEmpty) ++ [last]).map
      (markLine (listMarker ordered))) <:+: listMarkup ordered body := by
  obtain ⟨before, behind, rfl⟩ := h
  have hbody : before ++ endLines (first :: between ++ [last]) ++ behind =
      before ++ (first ++ '\n' :: endLines between ++ last) ++ '\n' :: behind := by
    simp [endLines]
  have htrim : Text.trimBlank (before ++ endLines (first :: between ++ [last]) ++ behind) =
      before.dropWhile Text.isBlank ++ first ++ '\n' :: (endLines between ++
        (last ++ ('\n' :: behind).rdropWhile Text.isBlank)) := by
    rw [hbody, Text.trimBlank_around]
    · simp
    · simp [hfirst.1]
    · rw [List.append_assoc, List.head?_append_of_ne_nil _ hfirst.1]
      exact hfirst.2.2
    · rw [List.getLast?_append_of_ne_nil _ hlast.1]
      exact hlast.2.2
  obtain ⟨front, start, hstart, hfront, hline⟩ := exists_last_line (before.dropWhile Text.isBlank)
  obtain ⟨others, hothers⟩ := filledLines_rdropWhile_newline last behind hlast.2.1 hlast.1
  have hopening : filledLines (start ++ first) = [start ++ first] :=
    filledLines_of_line (by simp [hline, hfirst.2.1]) (by simp [hfirst.1])
  obtain ⟨mark, hmark⟩ := exists_prefix_markLine (listMarker ordered) (start ++ first)
  have hrows : filledLines
      (Text.trimBlank (before ++ endLines (first :: between ++ [last]) ++ behind)) =
        filledLines front ++ (start ++ first) ::
          (between.filter (!·.isEmpty) ++ [last] ++ others) := by
    rw [htrim, filledLines_append_newline, hstart, List.append_assoc, filledLines_append hfront,
      hopening, filledLines_endLines hbetween, hothers]
    simp
  have htext : ∀ rows : List (List Char), rows ≠ [] →
      joinLines rows ++ ['\n', '\n'] = endLines rows ++ ['\n'] := by
    intro rows hne
    rw [endLines_eq hne, List.append_assoc, List.singleton_append]
  rw [listMarkup_eq, hrows, htext _ (by simp)]
  refine ⟨endLines ((filledLines front).map (markLine (listMarker ordered))) ++ mark ++ start,
    endLines (others.map (markLine (listMarker ordered))) ++ ['\n'], ?_⟩
  simp [endLines, hmark]

/-- A line as the lists around it leave it, given their markers, the outermost first. A line that
looks marked by itself gets no space after the markers. -/
def underMarkers (path line : List Char) : List Char :=
  if path = [] ∨ isMarked line then path ++ line else path ++ ' ' :: line

/-- The lines of a code that are left under the markers of lists. Without a list all of them are. -/
def keptLines (path code : List Char) : List (List Char) :=
  if path = [] then lines code else filledLines code

/-- The line that ends a macro. -/
def closingLine : List Char := "\x7bcode\x7d".toList

/-- What follows the first line of a macro, under the markers of lists. -/
def codeUnder (path code : List Char) : List (List Char) :=
  (keptLines path code ++ [closingLine]).map (underMarkers path)

theorem underMarkers_nil (line : List Char) : underMarkers [] line = line := by
  simp [underMarkers]

theorem exists_prefix_underMarkers (path line : List Char) :
    ∃ front, underMarkers path line = front ++ line := by
  unfold underMarkers
  split
  · exact ⟨path, rfl⟩
  · exact ⟨path ++ [' '], by simp⟩

theorem underMarkers_ne_nil (path : List Char) {line : List Char} (hline : line ≠ []) :
    underMarkers path line ≠ [] := by
  obtain ⟨front, hfront⟩ := exists_prefix_underMarkers path line
  simp [hfront, hline]

theorem isMarked_underMarkers {path : List Char} (hpath : ∀ c ∈ path, isMarker c) (hne : path ≠ [])
    (line : List Char) : isMarked (underMarkers path line) := by
  unfold underMarkers
  split
  case isTrue h =>
    obtain ⟨run, rest, rfl, -, hrun⟩ := isMarked_iff.mp (h.resolve_left hne)
    refine isMarked_iff.mpr ⟨path ++ run, rest, by rw [List.append_assoc], by simp [hne], ?_⟩
    intro c hc
    rcases List.mem_append.mp hc with hc | hc
    · exact hpath c hc
    · exact hrun c hc
  case isFalse => exact isMarked_iff.mpr ⟨path, line, rfl, hne, hpath⟩

/-- A list puts its marker in front of those that a line has. -/
theorem markLine_underMarkers {path : List Char} (hpath : ∀ c ∈ path, isMarker c) (marker : Char)
    (line : List Char) : markLine marker (underMarkers path line) =
      underMarkers (marker :: path) line := by
  by_cases hne : path = []
  · subst hne
    simp [underMarkers, markLine]
  · rw [markLine, if_pos (isMarked_underMarkers hpath hne line)]
    unfold underMarkers
    simp only [hne, false_or, reduceCtorEq]
    split <;> rfl

theorem newline_not_mem_keptLines (path code : List Char) :
    ∀ line ∈ keptLines path code, '\n' ∉ line := by
  have hfilled := newline_not_mem_filledLines code
  unfold keptLines
  split
  · intro line hline
    by_cases hne : line = []
    · simp [hne]
    · exact hfilled line (List.mem_filter.mpr ⟨hline, by simpa using hne⟩)
  · exact hfilled

theorem newline_not_mem_underMarkers {path line : List Char} (hpath : ∀ c ∈ path, isMarker c)
    (hline : '\n' ∉ line) : '\n' ∉ underMarkers path line := by
  have hmarkers : '\n' ∉ path := fun hmem => absurd (hpath _ hmem) (by decide)
  unfold underMarkers
  split <;> simp [hmarkers, hline]

theorem endLines_codeUnder_nil (code : List Char) :
    endLines (codeUnder [] code) = code ++ '\n' :: closingLine ++ ['\n'] := by
  have hself : underMarkers [] = id := funext underMarkers_nil
  rw [codeUnder, hself, List.map_id, keptLines, if_pos rfl, endLines_append, endLines_lines,
    endLines_singleton]
  simp

theorem filter_keptLines (path code : List Char) :
    ((keptLines path code).map (underMarkers path)).filter (!·.isEmpty) =
      (filledLines code).map (underMarkers path) := by
  by_cases hpath : path = []
  · subst hpath
    have hself : underMarkers [] = id := funext underMarkers_nil
    simp only [keptLines, hself, List.map_id, if_true, filledLines]
  · rw [keptLines, if_neg hpath, List.filter_eq_self]
    intro row hrow
    obtain ⟨line, hline, rfl⟩ := List.mem_map.mp hrow
    have hfilled : line ≠ [] := by simpa using (List.mem_filter.mp hline).2
    simpa using underMarkers_ne_nil path hfilled

/-- A list leaves the lines of a macro, which may be in other lists, under one marker more. -/
theorem infix_list_codeUnder (ordered : Bool) {opening path code body : List Char}
    (hopening : opening ≠ [] ∧ '\n' ∉ opening ∧ opening.head?.any Text.isBlank = false)
    (hpath : ∀ c ∈ path, isMarker c)
    (h : opening ++ '\n' :: endLines (codeUnder path code) <:+: body) :
    opening ++ '\n' :: endLines (codeUnder (listMarker ordered :: path) code) <:+:
      listMarkup ordered body := by
  obtain ⟨front, hfront⟩ := exists_prefix_underMarkers path closingLine
  have hlast : underMarkers path closingLine ≠ [] ∧ '\n' ∉ underMarkers path closingLine ∧
      (underMarkers path closingLine).getLast?.any Text.isBlank = false := by
    refine ⟨underMarkers_ne_nil path (by decide),
      newline_not_mem_underMarkers hpath (by decide), ?_⟩
    rw [hfront, List.getLast?_append_of_ne_nil _ (by decide)]
    rfl
  have hbetween : ∀ row ∈ (keptLines path code).map (underMarkers path), '\n' ∉ row := by
    intro row hrow
    obtain ⟨line, hline, rfl⟩ := List.mem_map.mp hrow
    exact newline_not_mem_underMarkers hpath (newline_not_mem_keptLines path code line hline)
  have hrows : endLines (opening :: (keptLines path code).map (underMarkers path) ++
      [underMarkers path closingLine]) <:+: body := by
    simpa [codeUnder, endLines] using h
  have hmarked := infix_listMarkup ordered hopening hlast hbetween hrows
  have hunder : ((filledLines code).map (underMarkers path) ++ [underMarkers path closingLine]).map
      (markLine (listMarker ordered)) = codeUnder (listMarker ordered :: path) code := by
    simp [codeUnder, keptLines, markLine_underMarkers hpath]
  rwa [filter_keptLines, hunder] at hmarked

/-- A node stands in a tree where the walk comes to it, under the lists with the given markers, the
outermost first. -/
inductive StandsUnder (m : Node) : List Char → Node → Prop where
  | here : StandsUnder m [] m
  | within {n child : Node} {path : List Char} (hopen : n.isClosed = false)
      (hlist : n.is .list = false) (hchild : child ∈ n.children) (h : StandsUnder m path child) :
      StandsUnder m path n
  | listed {n child : Node} {path : List Char} (hlist : n.is .list) (hchild : child ∈ n.children)
      (h : StandsUnder m path child) : StandsUnder m (markerOf n :: path) n

theorem exists_standsUnder {m n : Node} (h : m ∈ n.visited) : ∃ path, StandsUnder m path n := by
  induction n using childInduction with
  | step n ih =>
      rw [visited_eq, List.mem_cons] at h
      rcases h with rfl | h
      · exact ⟨[], .here⟩
      · split at h
        · simp at h
        next hopen =>
          obtain ⟨child, hchild, hm⟩ := List.mem_flatMap.mp h
          obtain ⟨path, hpath⟩ := ih child hchild hm
          by_cases hlist : n.is .list
          · exact ⟨_, .listed hlist hchild hpath⟩
          · exact ⟨_, .within (by simpa using hopen) (by simpa using hlist) hchild hpath⟩

theorem StandsUnder.isMarker {m n : Node} {path : List Char} (h : StandsUnder m path n) :
    ∀ c ∈ path, isMarker c := by
  induction h with
  | here => simp
  | within _ _ _ _ ih => exact ih
  | listed _ _ _ ih => exact List.forall_mem_cons.mpr ⟨isMarker_listMarker _, ih⟩

theorem infix_join {parts : List (Node × String)} {n : Node} {text : String}
    (h : (n, text) ∈ parts) : text.toList <:+: (Rule.join parts).toList :=
  infix_stringJoin (List.mem_map_of_mem h) List.infix_rfl

theorem prefix_foldl_addPart (parts : List (Node × String)) (body : String) :
    body.toList <+: (parts.foldl Rule.addPart body).toList := by
  obtain ⟨back, hback⟩ := Rule.exists_foldl_addPart parts body
  rw [hback, String.toList_append]
  exact List.prefix_append _ _

theorem infix_itemBody {parts : List (Node × String)} {n : Node} {text : String}
    (h : (n, text) ∈ parts) : text.toList <:+: (Rule.itemBody parts).toList := by
  obtain ⟨before, after, rfl⟩ := List.append_of_mem h
  obtain ⟨joint, -, hstep⟩ := Rule.addPart_eq (before.foldl Rule.addPart "") (n, text)
  have hpart : text.toList <:+: (Rule.addPart (before.foldl Rule.addPart "") (n, text)).toList := by
    rw [hstep, String.toList_append]
    exact (List.suffix_append _ _).isInfix
  rw [Rule.itemBody_eq_foldl, List.foldl_append, List.foldl_cons]
  exact hpart.trans (prefix_foldl_addPart after _).isInfix

/-- Every node but a list puts the texts of its children whole into its own. -/
theorem RuleShape.infix_part {n : Node} {assemble : List (Node × String) → String}
    (h : RuleShape n (.ok (.branch assemble))) (hlist : n.is .list = false)
    {parts : List (Node × String)} {child : Node} {text : String} (hpart : (child, text) ∈ parts) :
    text.toList <:+: (assemble parts).toList := by
  have hjoin := infix_join hpart
  cases h with
  | frame front back _ _ htext =>
      rw [htext, String.toList_append, String.toList_append]
      exact hjoin.trans (List.infix_append _ _ _)
  | link url _ _ hempty htext =>
      by_cases hnone : Rule.join parts = ""
      · rw [hnone, String.toList_empty, List.infix_nil] at hjoin
        simp [hjoin]
      · rw [htext parts hnone, String.toList_append, String.toList_append]
        exact hjoin.trans (List.infix_append _ _ _)
  | list _ _ hkind => simp [hlist] at hkind
  | item _ _ htext =>
      rw [htext, String.toList_append]
      exact (infix_itemBody hpart).trans (List.prefix_append _ _).isInfix
  | table _ _ _ htext =>
      rw [htext, String.toList_append, String.toList_append]
      by_cases hhead : Rule.inTableHead child
      · have hrow : (child, text) ∈ parts.filter (Rule.inTableHead ·.1) :=
          List.mem_filter.mpr ⟨hpart, hhead⟩
        rw [List.append_assoc]
        exact (infix_join hrow).trans (List.prefix_append _ _).isInfix
      · have hrow : (child, text) ∈ parts.filter (!Rule.inTableHead ·.1) :=
          List.mem_filter.mpr ⟨hpart, by simpa using hhead⟩
        exact (infix_join hrow).trans (List.infix_append _ _ _)

theorem newline_not_mem_resolveLanguage (tag : Option String) :
    '\n' ∉ (resolveLanguage tag).toList := by
  have hlanguages : ∀ name ∈ macroLanguages, '\n' ∉ name.toList := by decide
  cases tag with
  | none => decide
  | some tag =>
      rw [resolveLanguage_eq]
      exact hlanguages _ (languageOfName_mem _)

/-- The first line of the macro of a code block. -/
def openingLine (options : Options) (m : Node) (code : String) : List Char :=
  (macroOpening options (resolveLanguage (m.properties.getText? PropertyKey.language)) code).toList

theorem openingLine_eq_cons (options : Options) (m : Node) (code : String) :
    ∃ rest, openingLine options m code = '\x7b' :: rest := by
  have hassoc : ∀ a b c d e f : String, a ++ b ++ c ++ d ++ e ++ f =
      a ++ (b ++ c ++ d ++ e ++ f) := by
    simp only [String.append_assoc, implies_true]
  have hcons : ∀ {mark : String} {c : Char} {cs : List Char}, mark.toList = c :: cs →
      ∀ more : String, (mark ++ more).toList = c :: (cs ++ more.toList) := by
    intro mark c cs hmark more
    rw [String.toList_append, hmark, List.cons_append]
  exact ⟨_, (congrArg String.toList (hassoc _ _ _ _ _ _)).trans (hcons rfl _)⟩

theorem render_codeBlock (options : Options) {m : Node} (hcode : m.is .codeBlock)
    {content : String} (hcontent : m.properties.get? PropertyKey.content = some (.text content)) :
    m.render (renderer options) = .ok (.exact (String.ofList
      (openingLine options m (Rule.codeText content) ++ '\n' ::
        endLines (codeUnder [] (Rule.codeText content).toList) ++ ['\n']))) := by
  have hlines := endLines_codeUnder_nil (Rule.codeText content).toList
  have hrule : Rule.ofNode (renderer options) m = .ok (.leaf (codeMacro options
      (m.properties.getText? PropertyKey.language) (Rule.codeText content))) := by
    rw [ofNode_of_is hcode, Rule.ofElement, requireText_eq_ok hcontent]
    rfl
  have htext : codeMacro options (m.properties.getText? PropertyKey.language)
      (Rule.codeText content) = String.ofList (openingLine options m (Rule.codeText content) ++
        '\n' :: ((Rule.codeText content).toList ++ '\n' :: closingLine ++ ['\n']) ++ ['\n']) := by
    have hclosing : "\n\x7bcode\x7d\n\n".toList = '\n' :: closingLine ++ ['\n'] ++ ['\n'] := by decide
    have hline : "\n".toList = ['\n'] := rfl
    simp only [← String.toList_inj, codeMacro, codeHeader_eq, String.toList_append, hclosing, hline,
      String.toList_ofList, openingLine, List.append_assoc, List.cons_append, List.nil_append]
  rw [render_leaf hrule, hlines, htext]

/-- The first line of the macro of a code block stands in the text of any tree around it, and the
lines behind it as the lists between the two leave them. -/
theorem StandsUnder.infix_render (options : Options) {m n : Node} {path : List Char}
    (h : StandsUnder m path n) (hcode : m.is .codeBlock) {content : String}
    (hcontent : m.properties.get? PropertyKey.content = some (.text content))
    {result : Converted String} (hrender : n.render (renderer options) = .ok result) :
    openingLine options m (Rule.codeText content) ++ '\n' ::
      endLines (codeUnder path (Rule.codeText content).toList) <:+: result.value.toList := by
  induction h generalizing result with
  | here =>
      rw [render_codeBlock options hcode hcontent, Except.ok.injEq] at hrender
      subst hrender
      rw [Converted.exact, String.toList_ofList]
      exact (List.prefix_append _ _).isInfix
  | @within n child path hopen hlist hchild _ ih =>
      obtain ⟨assemble, parts, text, warnings, hrule, hpart, hrendered, hvalue⟩ :=
        exists_part_of_render hopen hchild hrender
      have hshape := ruleShape options n
      rw [hrule] at hshape
      rw [hvalue]
      exact (ih hrendered).trans (hshape.infix_part hlist hpart)
  | @listed n child path hlist hchild hstands ih =>
      have hopen : n.isClosed = false := any_is hlist closedElements
      obtain ⟨assemble, parts, text, warnings, hrule, hpart, hrendered, hvalue⟩ :=
        exists_part_of_render hopen hchild hrender
      have hbody : text.toList <:+: (Rule.join parts).toList := infix_join hpart
      have hassemble : assemble parts = String.ofList (listMarkup
          ((n.properties.getFlag? PropertyKey.ordered).getD false) (Rule.join parts).toList) := by
        rw [ofNode_list options hlist, Except.ok.injEq, Rule.branch.injEq] at hrule
        rw [← hrule]
      obtain ⟨rest, hrest⟩ := openingLine_eq_cons options m (Rule.codeText content)
      have hopening : openingLine options m (Rule.codeText content) ≠ [] ∧
          '\n' ∉ openingLine options m (Rule.codeText content) ∧
            (openingLine options m (Rule.codeText content)).head?.any Text.isBlank = false := by
        refine ⟨by simp [hrest], ?_, by rw [hrest]; rfl⟩
        exact newline_not_mem_macroOpening options (newline_not_mem_resolveLanguage _) _
      rw [hvalue, hassemble, String.toList_ofList]
      exact infix_list_codeUnder _ hopening hstands.isMarker ((ih hrendered).trans hbody)

/-- The macro of a code block stands whole in the text of a document where no list is around the
block. Under lists its first line is there, and right behind it, each on a line of its own, the lines
of the code that are not empty and the line that ends the macro, all with the markers of the
lists. -/
theorem code_blocks_by_place (options : Options) (doc : Document) {result : Converted String}
    (hrender : render options doc = .ok result) {m : Node} (hm : m ∈ doc.root.visited)
    (hcode : m.is .codeBlock) :
    ∃ content, m.properties.get? PropertyKey.content = some (.text content) ∧
      (∃ path, StandsUnder m path doc.root) ∧
      (StandsUnder m [] doc.root →
        openingLine options m (Rule.codeText content) ++ '\n' :: (Rule.codeText content).toList ++
          '\n' :: closingLine <:+: result.value.toList) ∧
      ∀ path, path ≠ [] → StandsUnder m path doc.root →
        openingLine options m (Rule.codeText content) ++ '\n' ::
          endLines ((filledLines (Rule.codeText content).toList ++ [closingLine]).map
            (underMarkers path)) <:+: result.value.toList := by
  obtain ⟨content, hcontent⟩ : ∃ content,
      m.properties.get? PropertyKey.content = some (.text content) := by
    have houtcome := render_outcome (renderer options) doc.root
    rw [show doc.root.render (renderer options) = .ok result from hrender] at houtcome
    by_contra hnone
    have hliteral : literalElements.any m.is := List.any_eq_true.mpr ⟨_, by decide, hcode⟩
    exact houtcome.1 m hm _ (.noContent hliteral (not_exists.mp hnone))
  refine ⟨content, hcontent, exists_standsUnder hm, ?_, ?_⟩
  · intro hstands
    have hwritten := hstands.infix_render options hcode hcontent hrender
    rw [endLines_codeUnder_nil] at hwritten
    refine List.IsInfix.trans ⟨[], ['\n'], ?_⟩ hwritten
    simp
  · intro path hpath hstands
    have hwritten := hstands.infix_render options hcode hcontent hrender
    rwa [codeUnder, keptLines, if_neg hpath] at hwritten

/-- The same code block in a quote, and in a numbered list within another list. -/
theorem code_blocks_by_place_both :
    let code := Node.ofContent .codeBlock "a\n\n# b\n"
    let inner := Node.list true [listItem [code]]
    let doc : Document := ⟨.document [.ofElement .quote [code], .list false [listItem [inner]]]⟩
    let opening := "\x7bcode:language=none|theme=Confluence\x7d"
    let whole := opening ++ "\na\n\n# b\n\x7bcode\x7d"
    let listed := opening ++ "\n*# a\n*## b\n*# \x7bcode\x7d\n"
    let text := "\x7bquote\x7d" ++ whole ++ "\n\n\x7bquote\x7d*# " ++ listed ++ "\n"
    render {} doc = .ok (.exact text) ∧ code ∈ doc.root.visited ∧ code.is .codeBlock ∧
      whole.toList <:+: text.toList ∧ listed.toList <:+: text.toList := by
  intro code inner doc opening whole listed text
  have hrender : render {} doc = .ok (.exact text) := by decide +kernel
  have hvisited : code ∈ doc.root.visited := by decide +kernel
  have hcode : code.is .codeBlock := by decide
  have hquoted : StandsUnder code [] doc.root :=
    .within (by decide) (by decide) List.mem_cons_self
      (.within (by decide) (by decide) List.mem_cons_self .here)
  have hitem : StandsUnder code [] (listItem [code]) :=
    .within (by decide) (by decide) List.mem_cons_self .here
  have hinner : StandsUnder code ['#'] inner := .listed (n := inner) (by decide) List.mem_cons_self hitem
  have houter : StandsUnder code ['#'] (listItem [inner]) :=
    .within (by decide) (by decide) List.mem_cons_self hinner
  have hlists : StandsUnder code ['*', '#'] (Node.list false [listItem [inner]]) :=
    .listed (n := Node.list false [listItem [inner]]) (by decide) List.mem_cons_self houter
  have hlisted : StandsUnder code ['*', '#'] doc.root :=
    .within (by decide) (by decide) (List.mem_cons_of_mem _ (List.mem_singleton.mpr rfl)) hlists
  obtain ⟨content, hcontent, -, houtside, hunder⟩ :=
    code_blocks_by_place {} doc hrender hvisited hcode
  have hsame : PropertyValue.text "a\n\n# b\n" = .text content :=
    Option.some.inj (hcontent.symm.trans (by decide)).symm
  cases hsame
  have hkept := houtside hquoted
  have hcut := hunder _ (by decide) hlisted
  have hwhole : openingLine {} code (Rule.codeText "a\n\n# b\n") ++ '\n' ::
      (Rule.codeText "a\n\n# b\n").toList ++ '\n' :: closingLine = whole.toList := by
    decide +kernel
  have hlines : openingLine {} code (Rule.codeText "a\n\n# b\n") ++ '\n' ::
      endLines ((filledLines (Rule.codeText "a\n\n# b\n").toList ++ [closingLine]).map
        (underMarkers ['*', '#'])) = listed.toList := by
    decide +kernel
  rw [hwhole] at hkept
  rw [hlines] at hcut
  exact ⟨hrender, hvisited, hcode, hkept, hcut⟩

/-- In a list the code of a block is not written as it is. -/
theorem listed_code_is_cut :
    let code := Node.ofContent .codeBlock "a\n\n# b\n"
    let doc : Document := ⟨.document [.list false [listItem [code]]]⟩
    let opening := "\x7bcode:language=none|theme=Confluence\x7d"
    let text := "* " ++ opening ++ "\n* a\n*# b\n* \x7bcode\x7d\n\n"
    render {} doc = .ok (.exact text) ∧ code ∈ doc.root.visited ∧ code.is .codeBlock ∧
      ¬(opening ++ "\na\n\n# b\n\x7bcode\x7d").toList <:+: text.toList := by
  decide +kernel

end WikiMarkup.Confluence
