import WikiMarkup.Confluence.Notation
import WikiMarkup.Proofs.Rendering.Visited

/-!
The shapes that the notation gives to nodes. Of the many kinds of node almost all put marks around
the text of their children, or around a literal content of their own; links, lists, items and tables
are what is left. A statement about the text of every tree need only look at these shapes.
-/

namespace WikiMarkup

namespace Node

/-- The literal content of a node of a kind that has one. -/
def literal? (n : Node) : Option String :=
  if literalElements.any n.is then n.properties.getText? PropertyKey.content else none

/-- The literal content as it is written, which differs for code blocks only: the newline that ends
the last line is no part of the code. -/
def writtenLiteral? (n : Node) : Option String :=
  n.literal?.map fun content => if n.is .codeBlock then Rule.codeText content else content

theorem writtenLiteral?_of_is {n : Node} {e : Element} (hkind : n.is e) (he : e ∈ literalElements)
    {content : String} (hget : n.properties.get? PropertyKey.content = some (.text content)) :
    n.writtenLiteral? =
      some (if e = .codeBlock then Rule.codeText content else content) := by
  have hliteral : n.literal? = some content := by
    rw [literal?, any_is hkind, decide_eq_true he, if_pos rfl]
    exact Properties.getText?_eq_some_iff.mpr hget
  simp [writtenLiteral?, hliteral, is_eq_decide hkind]

theorem writtenLiteral?_eq_none {n : Node} (h : literalElements.any n.is = false) :
    n.writtenLiteral? = none := by
  simp [writtenLiteral?, literal?, h]

theorem writtenLiteral?_of_open {n : Node} (h : n.isClosed = false) : n.writtenLiteral? = none := by
  apply writtenLiteral?_eq_none
  rw [isClosed, List.any_eq_false] at h
  rw [List.any_eq_false]
  intro e he
  have hclosed : e ∈ closedElements := by
    revert he
    cases e <;> decide
  exact h e hclosed

end Node

namespace Confluence

open Node

/-- How the notation writes a node. -/
inductive RuleShape (n : Node) : Except RenderError Rule → Prop where
  | broken (e : RenderError) : RuleShape n (.error e)
  /-- A literal content between two marks. -/
  | literal (front content back text : String) (hclosed : n.isClosed = true)
      (hcontent : n.writtenLiteral? = some content) (htext : text = front ++ content ++ back) :
      RuleShape n (.ok (.leaf text))
  /-- A text that stands for a node without a literal content. -/
  | sign (text : String) (hclosed : n.isClosed = true) (hcontent : n.writtenLiteral? = none) :
      RuleShape n (.ok (.leaf text))
  /-- The texts of the children between two marks. -/
  | frame (front back : String) (assemble : List (Node × String) → String)
      (hopen : n.isClosed = false)
      (htext : ∀ parts, assemble parts = front ++ Rule.join parts ++ back) :
      RuleShape n (.ok (.branch assemble))
  /-- A link, which is its target alone if there is no text to show for it. -/
  | link (url : String) (assemble : List (Node × String) → String) (hopen : n.isClosed = false)
      (hempty : ∀ parts, Rule.join parts = "" → assemble parts = "[" ++ url ++ "]")
      (htext : ∀ parts, Rule.join parts ≠ "" →
        assemble parts = "[" ++ Rule.join parts ++ ("|" ++ url ++ "]")) :
      RuleShape n (.ok (.branch assemble))
  | list (ordered : Bool) (assemble : List (Node × String) → String) (hkind : n.is .list)
      (hopen : n.isClosed = false)
      (htext : ∀ parts, assemble parts =
        String.ofList (listMarkup ordered (Rule.join parts).toList)) :
      RuleShape n (.ok (.branch assemble))
  | item (assemble : List (Node × String) → String) (hopen : n.isClosed = false)
      (htext : ∀ parts, assemble parts = Rule.itemBody parts ++ "\n") :
      RuleShape n (.ok (.branch assemble))
  | table (assemble : List (Node × String) → String) (hkind : n.is .table)
      (hopen : n.isClosed = false)
      (htext : ∀ parts, assemble parts =
        Rule.join (parts.filter (Rule.inTableHead ·.1)) ++
          Rule.join (parts.filter (!Rule.inTableHead ·.1)) ++ "\n") :
      RuleShape n (.ok (.branch assemble))

theorem ruleShape (options : Options) (n : Node) :
    RuleShape n (Rule.ofNode (renderer options) n) := by
  cases hname : Element.ofName? n.kind with
  | none =>
      have hopen : n.isClosed = false := by
        simp [isClosed, closedElements, is_eq_false hname]
      rw [Rule.ofNode, hname]
      exact .frame "" "" _ hopen fun parts => by simp
  | some e =>
      have hkind : n.is e := is_iff_ofName?.mpr hname
      have hclosed : n.isClosed = decide (e ∈ closedElements) := any_is hkind closedElements
      rw [ofNode_of_is hkind]
      cases e with
      | text | rawBlock | rawInline =>
          rcases requireText_cases n PropertyKey.content with ⟨content, hok, hget⟩ | ⟨herr, _⟩
          · have hcontent := writtenLiteral?_of_is hkind (by decide) hget
            simp only [Rule.ofElement, hok]
            exact .literal "" content "" _ hclosed hcontent (by simp [renderer])
          · simp only [Rule.ofElement, herr]
            exact .broken _
      | code =>
          rcases requireText_cases n PropertyKey.content with ⟨content, hok, hget⟩ | ⟨herr, _⟩
          · have hcontent := writtenLiteral?_of_is hkind (by decide) hget
            simp only [Rule.ofElement, hok]
            exact .literal _ content _ _ hclosed hcontent rfl
          · simp only [Rule.ofElement, herr]
            exact .broken _
      | codeBlock =>
          rcases requireText_cases n PropertyKey.content with ⟨content, hok, hget⟩ | ⟨herr, _⟩
          · have hcontent := writtenLiteral?_of_is hkind (by decide) hget
            simp only [Rule.ofElement, hok]
            exact .literal _ (Rule.codeText content) _ _ hclosed hcontent rfl
          · simp only [Rule.ofElement, herr]
            exact .broken _
      | image =>
          rcases requireText_cases n PropertyKey.url with ⟨url, hok, _⟩ | ⟨herr, _⟩
          · simp only [Rule.ofElement, hok]
            exact .sign _ hclosed (writtenLiteral?_eq_none (any_is hkind literalElements))
          · simp only [Rule.ofElement, herr]
            exact .broken _
      | rule | lineBreak | softBreak =>
          exact .sign _ hclosed (writtenLiteral?_eq_none (any_is hkind literalElements))
      | heading =>
          rcases requireLevel_cases hkind with ⟨level, hok, _⟩ | ⟨error, herr, _⟩
          · simp only [Rule.ofElement, hok]
            exact .frame _ "\n\n" _ hclosed fun parts => rfl
          · simp only [Rule.ofElement, herr]
            exact .broken _
      | link =>
          rcases requireText_cases n PropertyKey.url with ⟨url, hok, _⟩ | ⟨herr, _⟩
          · simp only [Rule.ofElement, hok]
            refine .link url _ hclosed ?_ ?_
            · intro parts hparts
              simp [hparts, renderer]
            · intro parts hparts
              simp [hparts, renderer, String.append_assoc]
          · simp only [Rule.ofElement, herr]
            exact .broken _
      | paragraph => exact .frame "" "\n\n" _ hclosed fun parts => by simp [renderer]
      | tableRow => exact .frame "" "\n" _ hclosed fun parts => by simp [renderer]
      | tableCell | tableHeader =>
          exact .frame (cellMark (Rule.isHeaderCell n)) "" _ hclosed fun parts => by
            simp [renderer]
      | quote | strong | emphasis | strikeout => exact .frame _ _ _ hclosed fun parts => rfl
      | list => exact .list _ _ hkind hclosed fun parts => rfl
      | listItem => exact .item _ hclosed fun parts => rfl
      | table => exact .table _ hkind hclosed fun parts => rfl
      | document | division | group | tableHead | tableBody | tableFoot =>
          exact .frame "" "" _ hclosed fun parts => by simp

theorem toList_join (parts : List (Node × String)) :
    (Rule.join parts).toList = parts.flatMap (·.2.toList) := by
  simp [Rule.join, List.flatMap_map]

theorem RuleShape.isOpen {n : Node} {assemble : List (Node × String) → String}
    (h : RuleShape n (.ok (.branch assemble))) : n.isClosed = false := by
  cases h <;> assumption

theorem ofNode_tableCell (options : Options) {n : Node} (h : n.is .tableCell ∨ n.is .tableHeader) :
    Rule.ofNode (renderer options) n =
      .ok (.branch fun parts => cellMark (Rule.isHeaderCell n) ++ Rule.join parts) := by
  rcases h with hkind | hkind <;> rw [ofNode_of_is hkind] <;> rfl

theorem ofNode_tableRow (options : Options) {n : Node} (h : n.is .tableRow) :
    Rule.ofNode (renderer options) n = .ok (.branch fun parts => Rule.join parts ++ "\n") := by
  rw [ofNode_of_is h]
  rfl

theorem ofNode_listItem (options : Options) {n : Node} (h : n.is .listItem) :
    Rule.ofNode (renderer options) n = .ok (.branch fun parts => Rule.itemBody parts ++ "\n") := by
  rw [ofNode_of_is h]
  rfl

theorem ofNode_list (options : Options) {n : Node} (h : n.is .list) :
    Rule.ofNode (renderer options) n = .ok (.branch fun parts =>
      String.ofList (listMarkup ((n.properties.getFlag? PropertyKey.ordered).getD false)
        (Rule.join parts).toList)) := by
  rw [ofNode_of_is h]
  rfl

end Confluence

end WikiMarkup
