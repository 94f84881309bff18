import WikiMarkup.Proofs.Confluence.Lines
import WikiMarkup.Proofs.Confluence.Shape
import WikiMarkup.Proofs.Rendering.Assembly
import WikiMarkup.Proofs.Rendering.Outcome

/-!
The content of documents in their text. Whatever stands in a literal content is carried through all
the layers of markup around it. A list cuts the text of its items into lines, trims and marks them,
and so keeps each character that is not blank, in order; all else puts texts one behind the other,
and keeps the contents whole. Both are the same walk over the tree, for two senses in which a text
holds pieces of content: all that the walk asks of such a sense is that it goes along with putting
texts together.
-/

namespace WikiMarkup

namespace Node

/-- The literal contents of the visited nodes, in document order. -/
def literals (n : Node) : List String := n.visited.filterMap literal?

/-- The literal contents as they are written. -/
def writtenLiterals (n : Node) : List String := n.visited.filterMap writtenLiteral?

theorem writtenLiterals_of_closed {n : Node} (h : n.isClosed = true) :
    n.writtenLiterals = n.writtenLiteral?.toList := by
  rw [writtenLiterals, visited_of_closed h]
  cases hn : n.writtenLiteral? <;> simp [hn]

theorem writtenLiterals_of_open {n : Node} (h : n.isClosed = false) :
    n.writtenLiterals = n.children.flatMap writtenLiterals := by
  rw [writtenLiterals, visited_of_open h, List.filterMap_cons_none (writtenLiteral?_of_open h),
    List.filterMap_flatMap]
  rfl

end Node

namespace Confluence

open Node

/-- Pieces stand in a text whole, each behind the one before it. -/
def OccurInOrder : List String → String → Prop
  | [], _ => True
  | piece :: rest, text =>
      ∃ before after, text = before ++ piece ++ after ∧ OccurInOrder rest after

/-- The characters of the pieces that are not blank are among those of a text, in order. -/
def SolidInOrder (pieces : List String) (text : String) : Prop :=
  (solid (pieces.flatMap String.toList)).Sublist text.toList

/-- A sense in which a text holds pieces, such that texts that are put together hold together what
each of them holds. -/
structure IsHolding (Holds : List String → String → Prop) : Prop where
  none : ∀ text, Holds [] text
  single : ∀ piece, Holds [piece] piece
  append : ∀ {pieces others text more}, Holds pieces text → Holds others more →
    Holds (pieces ++ others) (text ++ more)

/-- The head of a table stands in front of all else in it. -/
def IsHeadFirst (n : Node) : Prop :=
  n.children.Pairwise fun first later => Rule.inTableHead later → Rule.inTableHead first

instance (n : Node) : Decidable (IsHeadFirst n) :=
  inferInstanceAs (Decidable (List.Pairwise _ _))

theorem filter_append_filter_not {α : Type} {p : α → Bool} {xs : List α}
    (h : xs.Pairwise fun first later => p later → p first) :
    xs.filter p ++ xs.filter (!p ·) = xs := by
  induction xs with
  | nil => rfl
  | cons x rest ih =>
      obtain ⟨hx, hrest⟩ := List.pairwise_cons.mp h
      by_cases hp : p x
      · simp [hp, ih hrest]
      · have hnone : ∀ y ∈ rest, p y = false := fun y hy => by simpa [hp] using hx y hy
        have hall : rest.filter (!p ·) = rest := List.filter_eq_self.mpr (by simpa using hnone)
        have hempty : rest.filter p = [] := List.filter_eq_nil_iff.mpr (by simpa using hnone)
        simp [hp, hall, hempty]

section Holding

variable {Holds : List String → String → Prop} (hholds : IsHolding Holds)

include hholds

theorem IsHolding.within {pieces : List String} {text : String} (h : Holds pieces text)
    (front back : String) : Holds pieces (front ++ text ++ back) := by
  simpa using hholds.append (hholds.append (hholds.none front) h) (hholds.none back)

theorem IsHolding.join {parts : List (Node × String)}
    (h : ∀ part ∈ parts, Holds part.1.writtenLiterals part.2) :
    Holds (parts.flatMap (·.1.writtenLiterals)) (Rule.join parts) := by
  induction parts with
  | nil => exact hholds.none _
  | cons part rest ih =>
      rw [Rule.join_cons, List.flatMap_cons]
      exact hholds.append (h part (by simp)) (ih fun other hother => h other (by simp [hother]))

theorem IsHolding.itemFold {parts : List (Node × String)} {pieces : List String} (body : String)
    (hbody : Holds pieces body) (h : ∀ part ∈ parts, Holds part.1.writtenLiterals part.2) :
    Holds (pieces ++ parts.flatMap (·.1.writtenLiterals))
      (parts.foldl Rule.addPart body) := by
  induction parts generalizing body pieces with
  | nil => simpa using hbody
  | cons part rest ih =>
      have hpart := h part (by simp)
      rw [List.foldl_cons, List.flatMap_cons, ← List.append_assoc]
      apply ih
      · obtain ⟨joint, -, hstep⟩ := Rule.addPart_eq body part
        have hended : Holds pieces (body ++ joint) := by
          simpa using hholds.append hbody (hholds.none joint)
        rw [hstep]
        exact hholds.append hended hpart
      · exact fun other hother => h other (by simp [hother])

theorem IsHolding.itemBody {parts : List (Node × String)}
    (h : ∀ part ∈ parts, Holds part.1.writtenLiterals part.2) :
    Holds (parts.flatMap (·.1.writtenLiterals)) (Rule.itemBody parts) :=
  hholds.itemFold "" (hholds.none "") h

theorem IsHolding.leaf {n : Node} {text : String} (hshape : RuleShape n (.ok (.leaf text))) :
    Holds n.writtenLiterals text := by
  cases hshape with
  | literal front content back _ hclosed hcontent htext =>
      rw [writtenLiterals_of_closed hclosed, hcontent, htext]
      exact hholds.within (hholds.single content) front back
  | sign _ hclosed hcontent =>
      rw [writtenLiterals_of_closed hclosed, hcontent]
      exact hholds.none text

/-- What holds the contents of the children of a node holds those of the node. -/
theorem IsHolding.branch {n : Node} {assemble : List (Node × String) → String}
    (hshape : RuleShape n (.ok (.branch assemble))) (hheads : n.is .table → IsHeadFirst n)
    (hlist : n.is .list → ∀ ordered pieces text, Holds pieces text →
      Holds pieces (String.ofList (listMarkup ordered text.toList)))
    {parts : List (Node × String)} (hparts : parts.map (·.1) = n.children)
    (h : ∀ part ∈ parts, Holds part.1.writtenLiterals part.2) :
    Holds n.writtenLiterals (assemble parts) := by
  have hjoin := hholds.join h
  have hcontents : n.isClosed = false →
      n.writtenLiterals = parts.flatMap (·.1.writtenLiterals) := by
    intro hopen
    rw [writtenLiterals_of_open hopen, ← hparts, List.flatMap_map]
  cases hshape with
  | frame front back _ hopen htext =>
      rw [hcontents hopen, htext]
      exact hholds.within hjoin front back
  | link url _ hopen hempty htext =>
      rw [hcontents hopen]
      by_cases hnone : Rule.join parts = ""
      · rw [hempty parts hnone]
        rw [hnone] at hjoin
        simpa using hholds.within hjoin ("[" ++ url ++ "]") ""
      · rw [htext parts hnone]
        exact hholds.within hjoin _ _
  | list ordered _ hkind hopen htext =>
      rw [hcontents hopen, htext]
      exact hlist hkind ordered _ _ hjoin
  | item _ hopen htext =>
      rw [hcontents hopen, htext]
      simpa using hholds.append (hholds.itemBody h) (hholds.none "\n")
  | table _ hkind hopen htext =>
      have hfirst := hheads hkind
      rw [IsHeadFirst, ← hparts, List.pairwise_map] at hfirst
      have horder := filter_append_filter_not hfirst
      have hrows : Rule.join (parts.filter (Rule.inTableHead ·.1)) ++
          Rule.join (parts.filter (!Rule.inTableHead ·.1)) = Rule.join parts := by
        rw [← Rule.join_append, horder]
      rw [hcontents hopen, htext, hrows]
      simpa using hholds.append hjoin (hholds.none "\n")

/-- Whatever sense of holding is meant: if lists keep what their items hold, and the head of every
table comes first, then the text of a tree holds the contents of the tree. -/
theorem IsHolding.render (options : Options) (n : Node)
    (hheads : ∀ m ∈ n.visited, m.is .table → IsHeadFirst m)
    (hlists : ∀ m ∈ n.visited, m.is .list → ∀ ordered pieces text, Holds pieces text →
      Holds pieces (String.ofList (listMarkup ordered text.toList)))
    {result : Converted String} (hrender : n.render (renderer options) = .ok result) :
    Holds n.writtenLiterals result.value := by
  induction n using childInduction generalizing result with
  | step n ih =>
      have hshape := ruleShape options n
      rw [render_eq] at hrender
      cases hrule : Rule.ofNode (renderer options) n with
      | error e => simp [hrule] at hrender
      | ok rule =>
          rw [hrule] at hshape
          cases rule with
          | leaf text =>
              simp only [hrule, Except.ok.injEq] at hrender
              subst hrender
              exact hholds.leaf hshape
          | branch assemble =>
              cases hall : renderAll (renderer options) n.children with
              | error e => simp [hrule, hall] at hrender
              | ok parts =>
                  simp only [hrule, hall, Except.ok.injEq] at hrender
                  subst hrender
                  obtain ⟨hnodes, hwritten⟩ := renderAll_parts hall
                  have hself := mem_visited_self n
                  apply hholds.branch hshape (hheads n hself) (hlists n hself) hnodes
                  intro part hpart
                  have hchild : part.1 ∈ n.children := hnodes ▸ List.mem_map_of_mem hpart
                  have hbelow : ∀ m ∈ part.1.visited, m ∈ n.visited :=
                    fun m hm => mem_visited_of_child hshape.isOpen hchild hm
                  obtain ⟨warnings, hrendered⟩ := hwritten part hpart
                  exact ih part.1 hchild (fun m hm => hheads m (hbelow m hm))
                    (fun m hm => hlists m (hbelow m hm)) hrendered

end Holding

theorem OccurInOrder.behind {pieces : List String} {text : String} (h : OccurInOrder pieces text)
    (front : String) : OccurInOrder pieces (front ++ text) := by
  cases pieces with
  | nil => trivial
  | cons piece rest =>
      obtain ⟨before, after, rfl, hrest⟩ := h
      exact ⟨front ++ before, after, by simp only [String.append_assoc], hrest⟩

theorem isHolding_occurInOrder : IsHolding OccurInOrder where
  none _ := trivial
  single piece := ⟨"", "", by simp, trivial⟩
  append := by
    intro pieces others text more hpieces hothers
    induction pieces generalizing text with
    | nil => exact hothers.behind text
    | cons piece rest ih =>
        obtain ⟨before, after, rfl, hrest⟩ := hpieces
        exact ⟨before, after ++ more, by simp only [String.append_assoc], ih hrest⟩

theorem isHolding_solidInOrder : IsHolding SolidInOrder where
  none _ := List.nil_sublist _
  single piece := by simp [SolidInOrder, solid]
  append := by
    intro pieces others text more hpieces hothers
    rw [SolidInOrder, List.flatMap_append, solid_append, String.toList_append]
    exact hpieces.append hothers

theorem solid_sublist_markLine (marker : Char) (line : List Char) :
    (solid line).Sublist (markLine marker line) := by
  unfold markLine
  split
  · exact List.filter_sublist.cons marker
  · exact (List.filter_sublist.cons ' ').cons marker

theorem solid_sublist_joinLines (marker : Char) (rows : List (List Char)) :
    (rows.flatMap solid).Sublist (joinLines (rows.map (markLine marker))) := by
  induction rows with
  | nil => exact List.nil_sublist _
  | cons row rest ih =>
      have hrow := solid_sublist_markLine marker row
      cases rest with
      | nil => simpa [joinLines] using hrow
      | cons next more =>
          have hjoin : joinLines ((row :: next :: more).map (markLine marker)) =
              markLine marker row ++ '\n' :: joinLines ((next :: more).map (markLine marker)) := by
            simp [joinLines, List.intercalate_cons_cons]
          rw [hjoin, List.flatMap_cons]
          exact hrow.append (ih.cons '\n')

/-- A list keeps all that is not blank: trimming and the dropping of empty lines take none of it,
and each line that is left is marked as a whole. -/
theorem SolidInOrder.list {pieces : List String} {text : String} (h : SolidInOrder pieces text)
    (ordered : Bool) :
    SolidInOrder pieces (String.ofList (listMarkup ordered text.toList)) := by
  have hkept : (solid text.toList).Sublist (listMarkup ordered text.toList) := by
    rw [← solid_trimBlank, ← flatMap_solid_filledLines, listMarkup_eq]
    exact (solid_sublist_joinLines _ _).trans (List.sublist_append_left _ _)
  have hpieces : solid (solid (pieces.flatMap String.toList)) =
      solid (pieces.flatMap String.toList) := by
    simp [solid]
  rw [SolidInOrder, String.toList_ofList, ← hpieces]
  exact (List.Sublist.filter _ h).trans hkept

theorem solid_codeText (content : String) :
    solid (Rule.codeText content).toList = solid content.toList := by
  by_cases hlast : content.toList.getLast? = some '\n'
  · obtain ⟨front, hfront⟩ := List.getLast?_eq_some_iff.mp hlast
    have hend : solid ['\n'] = [] := rfl
    rw [Rule.codeText, if_pos hlast, hfront, String.toList_ofList, List.dropLast_concat,
      solid_append, hend, List.append_nil]
  · rw [Rule.codeText, if_neg hlast]

theorem solid_writtenLiterals (ns : List Node) :
    solid ((ns.filterMap writtenLiteral?).flatMap String.toList) =
      solid ((ns.filterMap literal?).flatMap String.toList) := by
  induction ns with
  | nil => rfl
  | cons n rest ih =>
      cases hn : n.literal? with
      | none => simp [writtenLiteral?, hn, ih]
      | some content =>
          have hwritten : ∃ text, n.writtenLiteral? = some text ∧
              solid text.toList = solid content.toList := by
            by_cases hcode : n.is .codeBlock
            · exact ⟨_, by simp [writtenLiteral?, hn, hcode], solid_codeText content⟩
            · exact ⟨_, by simp [writtenLiteral?, hn, hcode], rfl⟩
          obtain ⟨text, htext, hsolid⟩ := hwritten
          rw [List.filterMap_cons_some htext, List.filterMap_cons_some hn, List.flatMap_cons,
            List.flatMap_cons, solid_append, solid_append, hsolid, ih]

end Confluence

/-- Nothing of a document is lost in its text, if every table has its head in front: each literal
content leaves all its characters but the blank ones there, in document order; and without a list to
cut it into lines each stands there whole. -/
theorem contents_are_written (options : Confluence.Options) (doc : Document)
    {result : Converted String} (hrender : Confluence.render options doc = .ok result)
    (hheads : ∀ n ∈ doc.root.visited, n.is .table → Confluence.IsHeadFirst n) :
    (Confluence.solid (doc.root.literals.flatMap String.toList)).Sublist result.value.toList ∧
      ((∀ n ∈ doc.root.visited, n.is .list = false) →
        Confluence.OccurInOrder doc.root.writtenLiterals result.value) := by
  constructor
  · have hsolid := Confluence.isHolding_solidInOrder.render options doc.root hheads
      (fun _ _ _ ordered _ _ h => h.list ordered) hrender
    rw [Node.literals, ← Confluence.solid_writtenLiterals]
    exact hsolid
  · intro hnone
    apply Confluence.isHolding_occurInOrder.render options doc.root hheads ?_ hrender
    intro m hm hlist
    simp [hnone m hm] at hlist

theorem contents_are_written_table :
    let head := Node.ofElement .tableHead [.tableRow [.tableCell true [.text "a b"]]]
    let table := Node.ofElement .table [head, .tableRow [.tableCell false [.text "c"]]]
    let doc : Document := ⟨.document [table, .ofContent .codeBlock "d\n"]⟩
    let text := "||a b\n|c\n\n\x7bcode:language=none|theme=Confluence\x7d\nd\n\x7bcode\x7d\n\n"
    Confluence.render {} doc = .ok (.exact text) ∧
      (∀ n ∈ doc.root.visited, n.is .table → Confluence.IsHeadFirst n) ∧
        ['a', 'b', 'c', 'd'].Sublist text.toList ∧
          Confluence.OccurInOrder ["a b", "c", "d"] text := by
  intro head table doc text
  have hrender : Confluence.render {} doc = .ok (.exact text) := by rfl
  have hheads : ∀ n ∈ doc.root.visited, n.is .table → Confluence.IsHeadFirst n := by decide
  have hnone : ∀ n ∈ doc.root.visited, n.is .list = false := by decide
  have hkept := contents_are_written {} doc hrender hheads
  exact ⟨hrender, hheads, hkept.1, hkept.2 hnone⟩

end WikiMarkup
