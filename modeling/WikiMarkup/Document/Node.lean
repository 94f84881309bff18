import WikiMarkup.Document.Properties

/-!
Document trees. A node has an open kind, written as a text, so that a reader may produce kinds that
a writer does not know; typed properties; children in document order; and, where the source is
known, the bytes it came from.
-/

namespace WikiMarkup

/-- A range of bytes in the source text; `stop` is the first byte after it. -/
structure Span where
  start : UInt64
  stop : UInt64
  deriving DecidableEq

inductive Node where
  | mk (kind : String) (properties : Properties) (children : List Node) (span : Option Span)

namespace Node

/-- What the node is, such as `heading`. -/
def kind : Node → String
  | mk kind _ _ _ => kind

def properties : Node → Properties
  | mk _ properties _ _ => properties

def children : Node → List Node
  | mk _ _ children _ => children

def span : Node → Option Span
  | mk _ _ _ span => span

/-- A node with no properties, no children and no span. -/
def ofKind (kind : String) : Node := mk kind .empty [] none

instance : Inhabited Node := ⟨ofKind "document"⟩

def withProperty (key : String) (value : PropertyValue) : Node → Node
  | mk kind properties children span => mk kind (properties.set key value) children span

def addChildren (n : Node) (more : List Node) : Node :=
  mk n.kind n.properties (n.children ++ more) n.span

def addChild (n child : Node) : Node := n.addChildren [child]

/-- Notes where the node came from, in place of what was noted before. -/
def withSpan (span : Span) : Node → Node
  | mk kind properties children _ => mk kind properties children (some span)

@[simp] theorem kind_withProperty (n : Node) (key : String) (value : PropertyValue) :
    (n.withProperty key value).kind = n.kind := by cases n; rfl

@[simp] theorem properties_withProperty (n : Node) (key : String) (value : PropertyValue) :
    (n.withProperty key value).properties = n.properties.set key value := by cases n; rfl

@[simp] theorem children_withProperty (n : Node) (key : String) (value : PropertyValue) :
    (n.withProperty key value).children = n.children := by cases n; rfl

@[simp] theorem span_withProperty (n : Node) (key : String) (value : PropertyValue) :
    (n.withProperty key value).span = n.span := by cases n; rfl

theorem getText?_withProperty (n : Node) (key value : String) :
    (n.withProperty key (.text value)).properties.getText? key = some value := by
  rw [Properties.getText?_eq_some_iff, properties_withProperty, Properties.get?_set, if_pos rfl]

theorem getText?_withProperty_of_ne (n : Node) {key other : String} (h : other ≠ key)
    (value : PropertyValue) :
    (n.withProperty key value).properties.getText? other = n.properties.getText? other := by
  rw [Properties.getText?, Properties.getText?, properties_withProperty, Properties.get?_set,
    if_neg h]

@[simp] theorem kind_withSpan (n : Node) (span : Span) : (n.withSpan span).kind = n.kind := by
  cases n; rfl

@[simp] theorem properties_withSpan (n : Node) (span : Span) :
    (n.withSpan span).properties = n.properties := by cases n; rfl

@[simp] theorem children_withSpan (n : Node) (span : Span) :
    (n.withSpan span).children = n.children := by cases n; rfl

@[simp] theorem span_withSpan (n : Node) (span : Span) : (n.withSpan span).span = some span := by
  cases n; rfl

/-- Facts about trees by induction: a node has the property if all its children have it. -/
theorem childInduction {motive : Node → Prop}
    (step : ∀ n : Node, (∀ child ∈ n.children, motive child) → motive n) (n : Node) : motive n := by
  refine @Node.rec motive (fun ns => ∀ child ∈ ns, motive child) ?_ ?_ ?_ n
  · intro kind properties children span ih
    exact step _ ih
  · simp
  · intro head tail hhead htail child member
    rcases List.mem_cons.mp member with rfl | member
    · exact hhead
    · exact htail child member

mutual

/-- Equality of nodes compares all four fields, the children by recursion. -/
def decideEq : (a b : Node) → Decidable (a = b)
  | mk k p c s, mk k' p' c' s' =>
      if hk : k = k' then
        if hp : p = p' then
          if hs : s = s' then
            match decideEqAll c c' with
            | isTrue hc => isTrue (by rw [hk, hp, hs, hc])
            | isFalse hc => isFalse (fun h => by injection h; exact hc ‹_›)
          else isFalse (fun h => by injection h; exact hs ‹_›)
        else isFalse (fun h => by injection h; exact hp ‹_›)
      else isFalse (fun h => by injection h; exact hk ‹_›)

def decideEqAll : (as bs : List Node) → Decidable (as = bs)
  | [], [] => isTrue rfl
  | [], _ :: _ => isFalse (fun h => by cases h)
  | _ :: _, [] => isFalse (fun h => by cases h)
  | a :: as, b :: bs =>
      match decideEq a b, decideEqAll as bs with
      | isTrue ha, isTrue has => isTrue (by rw [ha, has])
      | isFalse ha, _ => isFalse (fun h => by injection h; exact ha ‹_›)
      | _, isFalse has => isFalse (fun h => by injection h; exact has ‹_›)

end

instance : DecidableEq Node := decideEq

end Node

/-- A document is its root node; the root of a document that was read has the kind `document`. -/
structure Document where
  root : Node
  deriving DecidableEq

namespace Document

def empty : Document := ⟨.ofKind "document"⟩

instance : Inhabited Document := ⟨empty⟩

def withRoot (_ : Document) (root : Node) : Document := ⟨root⟩

def blocks (doc : Document) : List Node := doc.root.children

end Document

end WikiMarkup
