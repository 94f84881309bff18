import Mathlib.Data.List.Basic
import WikiMarkup.Document.Element
import WikiMarkup.Stored.Document

/-!
Stored documents are read back as they were. The stored form of a property does not say what its
type is, but the types are told by the kinds of stored values: a stored value is read as a property
exactly if it was written for it. So a document with a value in it that no property has is refused,
wherever in the tree the value stands.
-/

namespace WikiMarkup

/-- Stored values that are no property: neither a flag, nor a whole number of sixty-four bits with
sign, nor a text. -/
inductive Stored.Value.IsForeign : Stored.Value → Prop where
  | null : IsForeign .null
  | fraction (written : String) : IsForeign (.fraction written)
  | tooSmall {value : Int} (h : value < Int64.minValue.toInt) : IsForeign (.whole value)
  | tooLarge {value : Int} (h : Int64.maxValue.toInt < value) : IsForeign (.whole value)
  | list (values : List Stored.Value) : IsForeign (.list values)
  | record (fields : List (String × Stored.Value)) : IsForeign (.record fields)

theorem mapM_map_eq_some {α β : Type} {write : α → β} {read : β → Option α} {values : List α}
    (h : ∀ value ∈ values, read (write value) = some value) :
    (values.map write).mapM read = some values := by
  induction values with
  | nil => rfl
  | cons value rest ih =>
      obtain ⟨hvalue, hrest⟩ := List.forall_mem_cons.mp h
      rw [List.map_cons, List.mapM_cons, hvalue, ih hrest]
      rfl

/-- Of a list in which all but one value are known to be read, the one decides. -/
theorem mapM_between {α β : Type} {read : β → Option α} {before after : List β}
    {first last : List α} (hbefore : before.mapM read = some first)
    (hafter : after.mapM read = some last) (value : β) :
    (before ++ value :: after).mapM read = (read value).map fun one => first ++ one :: last := by
  rw [List.mapM_append, List.mapM_cons, hbefore, hafter]
  cases read value <;> rfl

namespace PropertyValue

/-- A stored value is read as a property exactly if it is what is written for it. -/
theorem ofStored?_eq_some_iff {stored : Stored.Value} {value : PropertyValue} :
    ofStored? stored = some value ↔ stored = value.toStored := by
  constructor
  · intro h
    cases stored with
    | flag flag =>
        obtain rfl : .flag flag = value := Option.some.inj h
        rfl
    | text text =>
        obtain rfl : .text text = value := Option.some.inj h
        rfl
    | whole whole =>
        rw [ofStored?] at h
        split at h
        next hrange =>
          obtain rfl : .number (Int64.ofInt whole) = value := Option.some.inj h
          have hlow : -2 ^ 63 ≤ whole := Int64.toInt_minValue ▸ hrange.1
          have hhigh : whole ≤ 2 ^ 63 - 1 := Int64.toInt_maxValue ▸ hrange.2
          rw [toStored, Int64.toInt_ofInt_of_le hlow (Int.le_sub_one_iff.mp hhigh)]
        next => cases h
    | null | fraction | list | record => cases h
  · rintro rfl
    cases value with
    | flag | text => rfl
    | number number =>
        have hrange : Int64.minValue.toInt ≤ number.toInt ∧
            number.toInt ≤ Int64.maxValue.toInt :=
          ⟨number.minValue_le_toInt, number.toInt_le⟩
        rw [toStored, ofStored?, if_pos hrange, Int64.ofInt_toInt]

theorem ofStored?_eq_none_iff {stored : Stored.Value} :
    ofStored? stored = none ↔ stored.IsForeign := by
  constructor
  · intro h
    cases stored with
    | flag | text => cases h
    | whole value =>
        rw [ofStored?] at h
        split at h
        next => cases h
        next hrange =>
          rcases Int.lt_or_le value Int64.minValue.toInt with hsmall | hlow
          · exact .tooSmall hsmall
          · exact .tooLarge (Int.not_le.mp fun hhigh => hrange ⟨hlow, hhigh⟩)
    | null => exact .null
    | fraction written => exact .fraction written
    | list values => exact .list values
    | record fields => exact .record fields
  · intro h
    cases h with
    | tooSmall h => rw [ofStored?, if_neg fun hrange => Int.not_le.mpr h hrange.1]
    | tooLarge h => rw [ofStored?, if_neg fun hrange => Int.not_le.mpr h hrange.2]
    | null | fraction | list | record => rfl

end PropertyValue

namespace Properties

def storedEntry (entry : String × PropertyValue) : String × Stored.Value :=
  (entry.1, entry.2.toStored)

def entryOfStored? (field : String × Stored.Value) : Option (String × PropertyValue) :=
  (PropertyValue.ofStored? field.2).map (field.1, ·)

theorem mapM_storedEntry (entries : List (String × PropertyValue)) :
    (entries.map storedEntry).mapM entryOfStored? = some entries := by
  apply mapM_map_eq_some
  intro entry _
  rw [entryOfStored?, storedEntry, PropertyValue.ofStored?_eq_some_iff.mpr rfl]
  rfl

theorem ofStored?_record (fields : List (String × Stored.Value)) :
    ofStored? (.record fields) = (fields.mapM entryOfStored?).map ofList := rfl

theorem ofStored?_toStored (props : Properties) : ofStored? props.toStored = some props := by
  have hstored : props.toStored = .record (props.toList.map storedEntry) := rfl
  rw [hstored, ofStored?_record, mapM_storedEntry, Option.map_some, ofList_toList]

end Properties

theorem Stored.Value.toUInt64?_whole (value : UInt64) :
    toUInt64? (.whole value.toNat) = some value := by
  have hrange : (0 : Int) ≤ value.toNat ∧ (value.toNat : Int).toNat < UInt64.size :=
    ⟨Int.natCast_nonneg _, value.toNat_lt_size⟩
  rw [toUInt64?, if_pos hrange]
  exact congrArg some UInt64.ofNat_toNat

theorem Span.ofStored?_toStored (span : Span) : ofStored? span.toStored = some span := by
  have hstart := Stored.Value.toUInt64?_whole span.start
  have hstop := Stored.Value.toUInt64?_whole span.stop
  simp [toStored, ofStored?, Stored.Value.field?, hstart, hstop]

namespace Node

/-- The record of a node, with the given stored forms of its properties and its children. -/
def record (n : Node) (properties : Stored.Value) (children : List Stored.Value) : Stored.Value :=
  .record [("kind", .text n.kind), ("props", properties), ("children", .list children),
    ("span", match n.span with
      | some span => span.toStored
      | none => .null)]

theorem toStoredAll_eq_map (ns : List Node) : toStoredAll ns = ns.map toStored := by
  induction ns with
  | nil => rfl
  | cons n rest ih => rw [toStoredAll, ih, List.map_cons]

theorem toStored_eq (n : Node) :
    n.toStored = n.record n.properties.toStored (n.children.map toStored) := by
  obtain ⟨kind, properties, children, span⟩ := n
  rw [record, ← toStoredAll_eq_map]
  rfl

theorem ofStoredAll?_eq_mapM (values : List Stored.Value) :
    ofStoredAll? values = values.mapM ofStored? := by
  induction values with
  | nil => rw [ofStoredAll?, List.mapM_nil]; rfl
  | cons value rest ih => rw [ofStoredAll?, ih, List.mapM_cons]

theorem ofStored?_record (n : Node) (properties : Stored.Value) (children : List Stored.Value) :
    ofStored? (n.record properties children) =
      (Properties.ofStored? properties).bind fun props =>
        (children.mapM ofStored?).map fun nodes => mk n.kind props nodes n.span := by
  have hspan : Span.ofStoredOptional? (match n.span with
      | some span => span.toStored
      | none => .null) = some n.span := by
    cases n.span with
    | none => rfl
    | some span => exact congrArg (Option.map some) span.ofStored?_toStored
  rw [record, ofStored?]
  cases hprops : Properties.ofStored? properties <;> cases hnodes : children.mapM ofStored? <;>
    simp [Stored.Value.field?, Stored.Value.toText?, ofStoredChildren?, ofStoredList?,
      ofStoredAll?_eq_mapM, hspan, hprops, hnodes]

theorem ofStored?_toStored (n : Node) : ofStored? n.toStored = some n := by
  induction n using childInduction with
  | step n ih =>
      rw [toStored_eq, ofStored?_record, Properties.ofStored?_toStored, mapM_map_eq_some ih]
      cases n
      rfl

theorem mapM_toStored (ns : List Node) : (ns.map toStored).mapM ofStored? = some ns :=
  mapM_map_eq_some fun n _ => ofStored?_toStored n

/-- The stored form of a node, but with a given value in place of one property, of the node itself
or of a node below it. -/
inductive StoredWith (value : Stored.Value) : Node → Stored.Value → Prop where
  | own {n : Node} {before after : List (String × PropertyValue)}
      {entry : String × PropertyValue}
      (hentries : n.properties.toList = before ++ entry :: after) :
      StoredWith value n (n.record
        (.record (before.map Properties.storedEntry ++
          (entry.1, value) :: after.map Properties.storedEntry))
        (n.children.map toStored))
  | deeper {n child : Node} {before after : List Node} {stored : Stored.Value}
      (hchildren : n.children = before ++ child :: after) (hchild : StoredWith value child stored) :
      StoredWith value n (n.record n.properties.toStored
        (before.map toStored ++ stored :: after.map toStored))

/-- Whether a node is read depends on the value in place of its property alone. -/
theorem StoredWith.ofStored?_eq_none_iff {value stored : Stored.Value} {n : Node}
    (h : StoredWith value n stored) : ofStored? stored = none ↔ value.IsForeign := by
  induction h with
  | @own n before after entry _ =>
      rw [ofStored?_record, Properties.ofStored?_record,
        mapM_between (Properties.mapM_storedEntry before) (Properties.mapM_storedEntry after),
        mapM_toStored, Properties.entryOfStored?, ← PropertyValue.ofStored?_eq_none_iff]
      cases PropertyValue.ofStored? value <;> simp
  | @deeper n child before after stored _ _ ih =>
      rw [ofStored?_record, Properties.ofStored?_toStored,
        mapM_between (mapM_toStored before) (mapM_toStored after), ← ih]
      cases ofStored? stored <;> simp

end Node

/-- The stored form of a document, but with a given value in place of one property. -/
def Document.StoredWith (value : Stored.Value) (doc : Document) (stored : Stored.Value) : Prop :=
  ∃ root, Node.StoredWith value doc.root root ∧ stored = .record [("content", root)]

theorem Document.ofStored?_content (root : Stored.Value) :
    ofStored? (.record [("content", root)]) = (Node.ofStored? root).map (⟨·⟩) := by
  cases hroot : Node.ofStored? root <;> simp [ofStored?, Stored.Value.field?, hroot]

/-- A stored document is read back as it was, each property with its type. With any value in place
of a property, at any depth, it is refused exactly if the value is no flag, no whole number of
sixty-four bits with sign and no text. -/
theorem stored_documents_are_read_back (doc : Document) :
    Document.ofStored? doc.toStored = some doc ∧
      ∀ value stored, doc.StoredWith value stored →
        (Document.ofStored? stored = none ↔ value.IsForeign) := by
  constructor
  · rw [Document.toStored, Document.ofStored?_content, Node.ofStored?_toStored]
    rfl
  · rintro value stored ⟨root, hroot, rfl⟩
    rw [Document.ofStored?_content, Option.map_eq_none_iff]
    exact hroot.ofStored?_eq_none_iff

/-- A text that looks like a number, in an item of a numbered list, and a whole number just too
large in its place. -/
theorem stored_documents_are_read_back_item :
    let doc : Document := ⟨.document [.list true [.listItem [.text "5"]]]⟩
    ∃ stored, doc.StoredWith (.whole (Int64.maxValue.toInt + 1)) stored ∧
      Document.ofStored? stored = none := by
  intro doc
  have hcontent := @Node.StoredWith.own (.whole (Int64.maxValue.toInt + 1)) (.text "5") [] []
    (PropertyKey.content, .text "5") rfl
  have hitem := @Node.StoredWith.deeper _ (.listItem [.text "5"]) _ [] [] _ rfl hcontent
  have hlist := @Node.StoredWith.deeper _ (.list true [.listItem [.text "5"]]) _ [] [] _ rfl hitem
  have hroot := @Node.StoredWith.deeper _ doc.root _ [] [] _ rfl hlist
  have hdoc : doc.StoredWith (.whole (Int64.maxValue.toInt + 1)) _ := ⟨_, hroot, rfl⟩
  exact ⟨_, hdoc,
    ((stored_documents_are_read_back doc).2 _ _ hdoc).mpr (.tooLarge (Int.lt_succ _))⟩

end WikiMarkup
