import WikiMarkup.Proofs.Markdown.Vocabulary
import WikiMarkup.Proofs.Rendering.Assembly

/-!
Runs of texts. Texts that follow each other are written one after the other, so where a run of them
is cut does not show in what is written. But a run is also read in other ways: code, images and
copied markup take its literal content, the cells of a row are marked before they are written, and a
table sorts its parts first. Each of these is a reading of single nodes, put together in order over
the nodes; lists of nodes that agree in all readings can stand for each other wherever they are.
-/

namespace WikiMarkup.Node

/-- The text written for a node, where it is written at all. -/
def written (r : Renderer) (n : Node) : String :=
  match n.render r with
  | .ok result => result.value
  | .error _ => ""

/-- Nodes beside the texts written for them. -/
def partsOf (r : Renderer) (ns : List Node) : List (Node × String) :=
  ns.map fun n => (n, n.written r)

section Written

variable {r : Renderer} {n other : Node}

theorem Faultless.render_eq_written (h : n.Faultless) :
    n.render r = .ok (.exact (n.written r)) := by
  obtain ⟨text, htext⟩ := h.render r
  rw [written, htext]
  rfl

theorem renderAll_partsOf {ns : List Node} (h : ∀ n ∈ ns, n.Faultless) :
    renderAll r ns = .ok (.exact (partsOf r ns)) := by
  induction ns with
  | nil => rfl
  | cons n rest ih =>
      have hrest := ih fun m hm => h m (by simp [hm])
      simp only [renderAll, (h n (by simp)).render_eq_written, hrest]
      rfl

theorem written_leaf {text : String} (hrule : Rule.ofNode r n = .ok (.leaf text)) :
    n.written r = text := by
  rw [written, render_leaf hrule]
  rfl

theorem written_branch {assemble : List (Node × String) → String}
    (hrule : Rule.ofNode r n = .ok (.branch assemble))
    (h : ∀ child ∈ n.children, child.Faultless) :
    n.written r = assemble (partsOf r n.children) := by
  rw [written, render_eq, hrule]
  simp only [renderAll_partsOf h]
  rfl

/-- Nodes of one rule are written alike if the rule makes the same of their children. -/
theorem written_congr (hrule : Rule.ofNode r other = Rule.ofNode r n)
    (hn : ∀ child ∈ n.children, child.Faultless)
    (hother : ∀ child ∈ other.children, child.Faultless)
    (hjoin : Rule.join (partsOf r other.children) = Rule.join (partsOf r n.children))
    (hitem : n.is .listItem →
      Rule.itemBody (partsOf r other.children) = Rule.itemBody (partsOf r n.children))
    (htable : n.is .table →
      Rule.tableText r (partsOf r other.children) = Rule.tableText r (partsOf r n.children)) :
    other.written r = n.written r := by
  cases hcase : Rule.ofNode r n with
  | error e =>
      rw [hcase] at hrule
      rw [written, written, render_eq, render_eq r n, hrule, hcase]
  | ok rule =>
      rw [hcase] at hrule
      cases rule with
      | leaf text => rw [written_leaf hrule, written_leaf hcase]
      | branch assemble =>
          rw [written_branch hrule hother, written_branch hcase hn]
          exact branch_congr hcase hjoin hitem htable

end Written

/-- Marks a node as a header cell or as a data cell, as a row does with all that it holds. -/
def markCell (header : Bool) (n : Node) : Node :=
  n.withProperty PropertyKey.header (.flag header)

/-- What can be read off a node that stands in a list of nodes. -/
inductive Reading where
  /-- Its own literal content. -/
  | content
  /-- All literal content of it and below it. -/
  | plain
  /-- The text written for it. -/
  | written
  /-- The text written for it once it is marked as a cell. -/
  | marked (header : Bool)

def reading (r : Renderer) : Reading → Node → String
  | .content, n => (n.properties.getText? PropertyKey.content).getD ""
  | .plain, n => n.plainText
  | .written, n => n.written r
  | .marked header, n => (n.markCell header).written r

/-- A reading of nodes, one after the other. -/
def readAll (r : Renderer) (q : Reading) (ns : List Node) : String :=
  String.join (ns.map (reading r q))

section Readings

variable {r : Renderer}

theorem readAll_append (q : Reading) (ns others : List Node) :
    readAll r q (ns ++ others) = readAll r q ns ++ readAll r q others := by
  rw [readAll, List.map_append, String.join_append]
  rfl

theorem plainTextAll_eq_readAll (ns : List Node) : plainTextAll ns = readAll r .plain ns := by
  induction ns with
  | nil => rfl
  | cons n rest ih =>
      rw [plainTextAll, ih]
      simp [readAll, reading]

theorem join_partsOf (ns : List Node) : Rule.join (partsOf r ns) = readAll r .written ns := by
  rw [Rule.join, partsOf, List.map_map]
  rfl

theorem written_join {n : Node} (hrule : Rule.ofNode r n = .ok (.branch Rule.join))
    (h : ∀ child ∈ n.children, child.Faultless) : n.written r = readAll r .written n.children := by
  rw [written_branch hrule h, join_partsOf]

theorem join_contents (ns : List Node) :
    String.join (ns.filterMap (·.properties.getText? PropertyKey.content)) =
      readAll r .content ns := by
  induction ns with
  | nil => rfl
  | cons n rest ih =>
      cases hcontent : n.properties.getText? PropertyKey.content <;>
        simp_all [readAll, reading]

/-- Marks are properties that no other reading looks at. -/
theorem getText?_content_markCell (header : Bool) (n : Node) :
    (n.markCell header).properties.getText? PropertyKey.content =
      n.properties.getText? PropertyKey.content :=
  n.getText?_withProperty_of_ne (by decide) _

theorem plainText_markCell (header : Bool) (n : Node) :
    (n.markCell header).plainText = n.plainText := by
  rw [plainText_eq, plainText_eq n, getText?_content_markCell, markCell, children_withProperty]

theorem readAll_plain_map_markCell (header : Bool) (ns : List Node) :
    readAll r .plain (ns.map (markCell header)) = readAll r .plain ns := by
  rw [readAll, List.map_map]
  exact congrArg String.join (List.map_congr_left fun n _ => n.plainText_markCell header)

theorem readAll_written_map_markCell (header : Bool) (ns : List Node) :
    readAll r .written (ns.map (markCell header)) = readAll r (.marked header) ns := by
  rw [readAll, List.map_map]
  rfl

end Readings

/-- Two nodes of one kind in which the same is read. -/
structure Twin (r : Renderer) (n other : Node) : Prop where
  kind : other.kind = n.kind
  read : ∀ q, reading r q other = reading r q n

theorem Twin.refl (r : Renderer) (n : Node) : Twin r n n := ⟨rfl, fun _ => rfl⟩

theorem Twin.symm {r : Renderer} {n other : Node} (h : Twin r n other) : Twin r other n :=
  ⟨h.kind.symm, fun q => (h.read q).symm⟩

theorem Twin.trans {r : Renderer} {n other third : Node} (h : Twin r n other)
    (hother : Twin r other third) : Twin r n third :=
  ⟨hother.kind.trans h.kind, fun q => (hother.read q).trans (h.read q)⟩

theorem Twin.written {r : Renderer} {n other : Node} (h : Twin r n other) :
    other.written r = n.written r :=
  h.read .written

/-- Nodes with the same kind and properties are twins if the same is made of their children. -/
theorem Twin.of_children {r : Renderer} {n other : Node} (hn : n.Faultless)
    (hother : other.Faultless) (hkind : other.kind = n.kind)
    (hproperties : other.properties = n.properties)
    (hplain : plainTextAll other.children = plainTextAll n.children)
    (hjoin : Rule.join (partsOf r other.children) = Rule.join (partsOf r n.children))
    (hitem : n.is .listItem →
      Rule.itemBody (partsOf r other.children) = Rule.itemBody (partsOf r n.children))
    (htable : n.is .table →
      Rule.tableText r (partsOf r other.children) = Rule.tableText r (partsOf r n.children)) :
    Twin r n other := by
  obtain ⟨-, -, hn⟩ := hn
  obtain ⟨-, -, hother⟩ := hother
  refine ⟨hkind, ?_⟩
  intro q
  cases q with
  | content => simp only [reading, hproperties]
  | plain => simp only [reading, plainText_eq, hproperties, hplain]
  | written =>
      exact written_congr (ofNode_congr r hkind hproperties) hn hother hjoin hitem htable
  | marked header =>
      have hchildren : ∀ m : Node, (m.markCell header).children = m.children :=
        fun m => children_withProperty m _ _
      have his : ∀ e, (n.markCell header).is e = n.is e := by
        intro e
        simp [is, markCell]
      simp only [reading]
      apply written_congr (ofNode_congr r (by simp [markCell, hkind])
        (by simp [markCell, hproperties]))
      all_goals simpa only [hchildren, his]

/-- The body of a list item as it grows over nodes. -/
def itemFrom (r : Renderer) (body : String) (ns : List Node) : String :=
  (partsOf r ns).foldl Rule.addPart body

theorem itemFrom_append (r : Renderer) (body : String) (ns others : List Node) :
    itemFrom r body (ns ++ others) = itemFrom r (itemFrom r body ns) others := by
  rw [itemFrom, partsOf, List.map_append, List.foldl_append]
  rfl

/-- The head sections among the parts of a table, or the other parts. -/
def sorted (keep : Bool → Bool) (ns : List Node) : List Node :=
  ns.filter fun n => keep (n.is .tableHead)

theorem sorted_append (keep : Bool → Bool) (ns others : List Node) :
    sorted keep (ns ++ others) = sorted keep ns ++ sorted keep others :=
  List.filter_append ns others

/-- Lists of nodes in which the same is read, sorted or not, and which make an item grow alike. -/
structure Alike (r : Renderer) (ns others : List Node) : Prop where
  read : ∀ q keep, readAll r q (sorted keep others) = readAll r q (sorted keep ns)
  item : ∀ body, itemFrom r body others = itemFrom r body ns

section Alike

variable {r : Renderer} {ns others : List Node}

theorem Alike.refl (r : Renderer) (ns : List Node) : Alike r ns ns :=
  ⟨fun _ _ => rfl, fun _ => rfl⟩

theorem Alike.trans {third : List Node} (h : Alike r ns others) (hothers : Alike r others third) :
    Alike r ns third :=
  ⟨fun q keep => (hothers.read q keep).trans (h.read q keep),
    fun body => (hothers.item body).trans (h.item body)⟩

theorem Alike.append {more others' : List Node} (h : Alike r ns others)
    (hmore : Alike r more others') : Alike r (ns ++ more) (others ++ others') := by
  constructor
  · intro q keep
    rw [sorted_append, sorted_append, readAll_append, readAll_append, h.read, hmore.read]
  · intro body
    rw [itemFrom_append, itemFrom_append, h.item, hmore.item]

theorem Twin.alike {n other : Node} (h : Twin r n other) : Alike r [n] [other] := by
  have his : other.is = n.is := by
    funext e
    rw [is, is, h.kind]
  constructor
  · intro q keep
    simp only [sorted, List.filter_cons, List.filter_nil, his]
    split
    · simp [readAll, h.read q]
    · rfl
  · intro body
    have hstarts : Rule.startsLine other = Rule.startsLine n := by
      simp only [Rule.startsLine, his]
    simp [itemFrom, partsOf, Rule.addPart, hstarts, h.written]

/-- All that is read in the nodes, without sorting them. -/
theorem Alike.read_all (h : Alike r ns others) (q : Reading) :
    readAll r q others = readAll r q ns := by
  have hall : ∀ ms : List Node, sorted (fun _ => true) ms = ms :=
    fun ms => List.filter_eq_self.mpr fun _ _ => rfl
  simpa only [hall] using h.read q fun _ => true

theorem Alike.join (h : Alike r ns others) :
    Rule.join (partsOf r others) = Rule.join (partsOf r ns) := by
  rw [join_partsOf, join_partsOf, h.read_all]

theorem Alike.plain (h : Alike r ns others) :
    plainTextAll others = plainTextAll ns := by
  rw [plainTextAll_eq_readAll (r := r), plainTextAll_eq_readAll (r := r), h.read_all]

/-- Nodes around lists that are alike are twins, if they are no tables. -/
theorem Alike.twin {n other : Node} (h : Alike r n.children other.children) (hn : n.Faultless)
    (hother : other.Faultless) (hkind : other.kind = n.kind)
    (hproperties : other.properties = n.properties) (htable : n.is .table = false) :
    Twin r n other := by
  apply Twin.of_children hn hother hkind hproperties h.plain h.join
  · intro _
    exact h.item ""
  · intro htrue
    rw [htable] at htrue
    cases htrue

end Alike

/-- A text node, in which nothing but its content is read. -/
structure IsText (r : Renderer) (n : Node) : Prop where
  kind : n.is .text
  read : ∀ q, reading r q n = reading r .content n

section Texts

variable {r : Renderer} {ns others : List Node}

theorem written_of_text {n : Node} (hkind : n.is .text) {content : String}
    (hcontent : n.properties.getText? PropertyKey.content = some content) :
    n.written r = r.text content := by
  apply written_leaf
  rw [ofNode_of_is hkind, Rule.ofElement, Rule.requireText, hcontent]
  rfl

/-- A renderer that leaves plain text as it is writes just what can be read in a text node. -/
theorem isText_of_text (htext : ∀ content, r.text content = content) {n : Node}
    (hkind : n.is .text) {content : String}
    (hcontent : n.properties.getText? PropertyKey.content = some content)
    (hchildren : n.children = []) : IsText r n := by
  refine ⟨hkind, ?_⟩
  intro q
  have hread : reading r .content n = content := by rw [reading, hcontent, Option.getD_some]
  rw [hread]
  cases q with
  | content => exact hread
  | plain => simp [reading, plainText_eq, hcontent, hchildren, plainTextAll]
  | written => rw [reading, written_of_text hkind hcontent, htext]
  | marked header =>
      have hmarked : (n.markCell header).is .text := by simpa [is, markCell] using hkind
      rw [reading, written_of_text hmarked (by rw [getText?_content_markCell, hcontent]), htext]

theorem readAll_of_isText (h : ∀ n ∈ ns, IsText r n) (q : Reading) :
    readAll r q ns = readAll r .content ns :=
  congrArg String.join (List.map_congr_left fun n hn => (h n hn).read q)

theorem itemFrom_of_isText (h : ∀ n ∈ ns, IsText r n) (body : String) :
    itemFrom r body ns = body ++ readAll r .content ns := by
  have hstarts : ∀ part ∈ partsOf r ns, Rule.startsLine part.1 = false := by
    intro part hpart
    obtain ⟨n, hn, rfl⟩ := List.mem_map.mp hpart
    exact any_is (h n hn).kind _
  rw [itemFrom, Rule.foldl_addPart_of_not_breaksLine (Rule.breaksLine_eq_false hstarts body),
    join_partsOf, readAll_of_isText h]

/-- Where a run of texts is cut does not show, as long as the texts are the same in a row. -/
theorem Alike.of_isText (hns : ∀ n ∈ ns, IsText r n) (hothers : ∀ n ∈ others, IsText r n)
    (htotal : readAll r .content others = readAll r .content ns) : Alike r ns others := by
  -- A text is no head section, so all texts of a run are sorted the same way.
  have hsorted : ∀ (keep : Bool → Bool) (ms : List Node), (∀ n ∈ ms, IsText r n) →
      sorted keep ms = if keep false then ms else [] := by
    intro keep ms hms
    have hkeep : ∀ n ∈ ms, keep (n.is .tableHead) = keep false := by
      intro n hn
      rw [is_eq_decide (hms n hn).kind]
      rfl
    rw [sorted, List.filter_congr hkeep]
    cases keep false <;> simp
  constructor
  · intro q keep
    rw [hsorted keep ns hns, hsorted keep others hothers]
    split
    · rw [readAll_of_isText hns, readAll_of_isText hothers, htotal]
    · rfl
  · intro body
    rw [itemFrom_of_isText hns, itemFrom_of_isText hothers, htotal]

end Texts

/-- A row marks all that it holds, so what is read in its cells is read in the marked ones. -/
theorem Alike.twin_rowOfCells {r : Renderer} {ns others : List Node} (h : Alike r ns others)
    (hns : ∀ n ∈ ns, n.Faultless) (hothers : ∀ n ∈ others, n.Faultless) (header : Bool) :
    Twin r (rowOfCells header ns) (rowOfCells header others) := by
  have hchildren : ∀ ms, (rowOfCells header ms).children = ms.map (markCell header) :=
    fun _ => rfl
  apply Twin.of_children (faultless_rowOfCells header hns) (faultless_rowOfCells header hothers)
    rfl rfl
  · rw [plainTextAll_eq_readAll (r := r), plainTextAll_eq_readAll (r := r), hchildren, hchildren,
      readAll_plain_map_markCell, readAll_plain_map_markCell, h.read_all]
  · rw [join_partsOf, join_partsOf, hchildren, hchildren, readAll_written_map_markCell,
      readAll_written_map_markCell, h.read_all]
  · intro hitem
    cases hitem
  · intro htable
    cases htable

/-- The section around the rows of a table that are in no head, left out if there are none. -/
def bodySection (rows : List Node) : List Node :=
  if rows.isEmpty then [] else [ofElement .tableBody rows]

section Tables

variable {r : Renderer} {ns others : List Node}

theorem children_tableOfParts (ns : List Node) :
    (tableOfParts ns).children = sorted id ns ++ bodySection (sorted not ns) := rfl

/-- The section adds nothing to what is read in its rows, and is not missed where it is left out. -/
theorem readAll_bodySection {q : Reading} {rows : List Node}
    (h : reading r q (ofElement .tableBody rows) = readAll r q rows) :
    readAll r q (bodySection rows) = readAll r q rows := by
  cases rows with
  | nil => rfl
  | cons row rest => simpa [bodySection, readAll] using h

theorem readAll_plain_tableOfParts (ns : List Node) :
    readAll r .plain (tableOfParts ns).children =
      readAll r .plain (sorted id ns) ++ readAll r .plain (sorted not ns) := by
  rw [children_tableOfParts, readAll_append, readAll_bodySection]
  rw [reading, plainText_eq, ← plainTextAll_eq_readAll]
  exact String.empty_append

theorem readAll_written_bodySection (h : ∀ n ∈ ns, n.Faultless) :
    readAll r .written (bodySection (sorted not ns)) = readAll r .written (sorted not ns) := by
  have hrows : ∀ row ∈ sorted not ns, row.Faultless :=
    fun row hrow => h row (List.mem_filter.mp hrow).1
  have hsection : (ofElement .tableBody (sorted not ns)).written r =
      readAll r .written (sorted not ns) := written_join rfl hrows
  exact readAll_bodySection hsection

/-- A table shows its head sections and then all else that it holds, with or without a section. -/
theorem tableText_tableOfParts (h : ∀ n ∈ ns, n.Faultless) :
    Rule.tableText r (partsOf r (tableOfParts ns).children) =
      r.table (readAll r .written (sorted id ns)) (readAll r .written (sorted not ns)) := by
  have hheads : ∀ n ∈ sorted id ns, Rule.inTableHead n = true := by
    intro n hn
    have hhead : n.is .tableHead = true := (List.mem_filter.mp hn).2
    rw [Rule.inTableHead, hhead, Bool.true_or]
  have hbody : ∀ n ∈ bodySection (sorted not ns), Rule.inTableHead n = false := by
    intro n hn
    rw [bodySection] at hn
    split at hn
    · simp at hn
    · rw [List.mem_singleton.mp hn]
      rfl
  have hleft : (tableOfParts ns).children.filter (Rule.inTableHead ·) = sorted id ns := by
    rw [children_tableOfParts, List.filter_append, List.filter_eq_self.mpr hheads,
      List.filter_eq_nil_iff.mpr (by simpa using hbody), List.append_nil]
  have hright : (tableOfParts ns).children.filter (!Rule.inTableHead ·) =
      bodySection (sorted not ns) := by
    rw [children_tableOfParts, List.filter_append,
      List.filter_eq_nil_iff.mpr (by simpa using hheads),
      List.filter_eq_self.mpr (by simpa using hbody), List.nil_append]
  have hfilter : ∀ keep : Node → Bool,
      Rule.join ((partsOf r (tableOfParts ns).children).filter (keep ·.1)) =
        readAll r .written ((tableOfParts ns).children.filter keep) := by
    intro keep
    rw [partsOf, List.filter_map]
    exact join_partsOf _
  rw [Rule.tableText, hfilter Rule.inTableHead, hfilter (!Rule.inTableHead ·), hleft, hright,
    readAll_written_bodySection h]

theorem Alike.twin_tableOfParts (h : Alike r ns others) (hns : ∀ n ∈ ns, n.Faultless)
    (hothers : ∀ n ∈ others, n.Faultless) :
    Twin r (tableOfParts ns) (tableOfParts others) := by
  apply Twin.of_children (faultless_tableOfParts hns) (faultless_tableOfParts hothers) rfl rfl
  · rw [plainTextAll_eq_readAll (r := r), plainTextAll_eq_readAll (r := r),
      readAll_plain_tableOfParts, readAll_plain_tableOfParts, h.read, h.read]
  · rw [join_partsOf, join_partsOf, children_tableOfParts, children_tableOfParts, readAll_append,
      readAll_append, readAll_written_bodySection hns, readAll_written_bodySection hothers, h.read,
      h.read]
  · intro hitem
    cases hitem
  · intro _
    rw [tableText_tableOfParts hns, tableText_tableOfParts hothers, h.read, h.read]

end Tables

end WikiMarkup.Node
