/-!
The property bag of a document node. Values keep their type: a flag, a whole number and a text are
never converted into one another. The entries are kept in strict key order and carry the proof of
it, so two bags with the same content are equal values, whatever the order in which their keys were
set.
-/

namespace WikiMarkup

inductive PropertyValue where
  | flag (value : Bool)
  | number (value : Int64)
  | text (value : String)
  deriving DecidableEq

/-- Properties of a node, each key at most once. -/
structure Properties where
  entries : List (String × PropertyValue)
  sorted : entries.Pairwise (·.1 < ·.1)
  deriving DecidableEq

namespace Properties

/-- The value filed under a key in a list of entries. -/
def lookup (key : String) : List (String × PropertyValue) → Option PropertyValue
  | [] => none
  | (other, value) :: rest => if key = other then some value else lookup key rest

/-- Files a value in key order, in place of the value that the key had before. -/
def insert (key : String) (value : PropertyValue) :
    List (String × PropertyValue) → List (String × PropertyValue)
  | [] => [(key, value)]
  | (other, previous) :: rest =>
      if key = other then (key, value) :: rest
      else if key < other then (key, value) :: (other, previous) :: rest
      else (other, previous) :: insert key value rest

theorem lookup_insert (key other : String) (value : PropertyValue)
    (entries : List (String × PropertyValue)) :
    lookup other (insert key value entries) =
      if other = key then some value else lookup other entries := by
  induction entries with
  | nil => simp [insert, lookup]
  | cons entry rest ih =>
      obtain ⟨head, previous⟩ := entry
      grind [insert, lookup]

private theorem lookup_filter_ne (key other : String) (entries : List (String × PropertyValue)) :
    lookup other (entries.filter (·.1 ≠ key)) =
      if other = key then none else lookup other entries := by
  induction entries with
  | nil => simp [lookup]
  | cons entry rest ih =>
      obtain ⟨head, value⟩ := entry
      grind [lookup]

private theorem mem_insert {key : String} {value : PropertyValue}
    {entries : List (String × PropertyValue)} {entry : String × PropertyValue}
    (h : entry ∈ insert key value entries) : entry = (key, value) ∨ entry ∈ entries := by
  induction entries with
  | nil => exact .inl (by simpa [insert] using h)
  | cons head rest ih =>
      obtain ⟨other, previous⟩ := head
      grind [insert]

private theorem lt_of_not_lt_of_ne {a b : String} (hne : a ≠ b) (hlt : ¬ a < b) : b < a := by
  by_cases h : b < a
  · exact h
  · exact absurd (String.le_antisymm (String.not_lt.1 h) (String.not_lt.1 hlt)) hne

private theorem sorted_insert (key : String) (value : PropertyValue)
    {entries : List (String × PropertyValue)} (h : entries.Pairwise (·.1 < ·.1)) :
    (insert key value entries).Pairwise (·.1 < ·.1) := by
  induction entries with
  | nil => simp [insert]
  | cons head rest ih =>
      obtain ⟨other, previous⟩ := head
      obtain ⟨hhead, hrest⟩ := List.pairwise_cons.1 h
      unfold insert
      split
      next heq => subst heq; exact List.pairwise_cons.2 ⟨hhead, hrest⟩
      next hne =>
        split
        next hlt =>
          refine List.pairwise_cons.2 ⟨fun entry hmem => ?_, h⟩
          rcases List.mem_cons.1 hmem with rfl | hmem
          · exact hlt
          · exact String.lt_trans hlt (hhead entry hmem)
        next hlt =>
          refine List.pairwise_cons.2 ⟨fun entry hmem => ?_, ih hrest⟩
          rcases mem_insert hmem with rfl | hmem
          · exact lt_of_not_lt_of_ne hne hlt
          · exact hhead entry hmem

private theorem lookup_eq_none {key : String} {entries : List (String × PropertyValue)}
    (h : ∀ entry ∈ entries, key < entry.1) : lookup key entries = none := by
  induction entries with
  | nil => rfl
  | cons head rest ih =>
      obtain ⟨other, value⟩ := head
      have hne : key ≠ other := String.ne_of_lt (h (other, value) (by simp))
      simp only [lookup, hne, if_false]
      exact ih fun entry hmem => h entry (by simp [hmem])

private theorem eq_of_lookup {entries others : List (String × PropertyValue)}
    (hentries : entries.Pairwise (·.1 < ·.1)) (hothers : others.Pairwise (·.1 < ·.1))
    (h : ∀ key, lookup key entries = lookup key others) : entries = others := by
  induction entries generalizing others with
  | nil =>
      cases others with
      | nil => rfl
      | cons head rest => simpa [lookup] using h head.1
  | cons head rest ih =>
      obtain ⟨key, value⟩ := head
      obtain ⟨hkey, hrest⟩ := List.pairwise_cons.1 hentries
      cases others with
      | nil => simpa [lookup] using h key
      | cons head' rest' =>
          obtain ⟨key', value'⟩ := head'
          obtain ⟨hkey', hrest'⟩ := List.pairwise_cons.1 hothers
          have heq : key = key' := by
            apply Classical.byContradiction
            intro hne
            by_cases hlt : key < key'
            · have hnone : lookup key ((key', value') :: rest') = none := by
                apply lookup_eq_none
                intro entry hmem
                rcases List.mem_cons.1 hmem with rfl | hmem
                · exact hlt
                · exact String.lt_trans hlt (hkey' entry hmem)
              rw [← h key] at hnone
              simp [lookup] at hnone
            · have hnone : lookup key' ((key, value) :: rest) = none := by
                apply lookup_eq_none
                intro entry hmem
                rcases List.mem_cons.1 hmem with rfl | hmem
                · exact lt_of_not_lt_of_ne hne hlt
                · exact String.lt_trans (lt_of_not_lt_of_ne hne hlt) (hkey entry hmem)
              rw [h key'] at hnone
              simp [lookup] at hnone
          subst heq
          have hvalue : value = value' := by simpa [lookup] using h key
          subst hvalue
          have htail : rest = rest' := by
            refine ih hrest hrest' fun query => ?_
            by_cases hquery : query = key
            · subst hquery
              rw [lookup_eq_none hkey, lookup_eq_none hkey']
            · simpa [lookup, hquery] using h query
          rw [htail]

def empty : Properties := ⟨[], .nil⟩

instance : Inhabited Properties := ⟨empty⟩

def get? (props : Properties) (key : String) : Option PropertyValue :=
  lookup key props.entries

/-- Sets a property; a value it had before is replaced, whatever its type. -/
def set (props : Properties) (key : String) (value : PropertyValue) : Properties :=
  ⟨insert key value props.entries, sorted_insert key value props.sorted⟩

def erase (props : Properties) (key : String) : Properties :=
  ⟨props.entries.filter (·.1 ≠ key), props.sorted.filter _⟩

/-- Properties from entries in any order; of two entries for one key the later one counts. -/
def ofList (entries : List (String × PropertyValue)) : Properties :=
  entries.foldl (fun props entry => props.set entry.1 entry.2) empty

def toList (props : Properties) : List (String × PropertyValue) := props.entries

def contains (props : Properties) (key : String) : Bool := (props.get? key).isSome

def size (props : Properties) : Nat := props.entries.length

def isEmpty (props : Properties) : Bool := props.entries.isEmpty

/-- The text under a key; a value of another type counts as absent. -/
def getText? (props : Properties) (key : String) : Option String :=
  match props.get? key with
  | some (.text value) => some value
  | _ => none

/-- The number under a key; a value of another type counts as absent. -/
def getNumber? (props : Properties) (key : String) : Option Int64 :=
  match props.get? key with
  | some (.number value) => some value
  | _ => none

/-- The flag under a key; a value of another type counts as absent. -/
def getFlag? (props : Properties) (key : String) : Option Bool :=
  match props.get? key with
  | some (.flag value) => some value
  | _ => none

theorem getText?_eq_some_iff {props : Properties} {key text : String} :
    props.getText? key = some text ↔ props.get? key = some (.text text) := by
  unfold getText?
  split <;> simp_all

theorem getText?_eq_none_iff {props : Properties} {key : String} :
    props.getText? key = none ↔ ∀ text, props.get? key ≠ some (.text text) := by
  simp only [Option.eq_none_iff_forall_ne_some, ne_eq, getText?_eq_some_iff]

theorem getNumber?_eq_some_iff {props : Properties} {key : String} {number : Int64} :
    props.getNumber? key = some number ↔ props.get? key = some (.number number) := by
  unfold getNumber?
  split <;> simp_all

theorem getNumber?_eq_none_iff {props : Properties} {key : String} :
    props.getNumber? key = none ↔ ∀ number, props.get? key ≠ some (.number number) := by
  simp only [Option.eq_none_iff_forall_ne_some, ne_eq, getNumber?_eq_some_iff]

@[simp] theorem get?_empty (key : String) : empty.get? key = none := rfl

/-- Setting a property changes that property and no other. -/
theorem get?_set (props : Properties) (key other : String) (value : PropertyValue) :
    (props.set key value).get? other = if other = key then some value else props.get? other :=
  lookup_insert key other value props.entries

/-- Erasing a property changes that property and no other. -/
theorem get?_erase (props : Properties) (key other : String) :
    (props.erase key).get? other = if other = key then none else props.get? other :=
  lookup_filter_ne key other props.entries

/-- Properties are determined by what they give for each key. -/
theorem ext_get? {props others : Properties} (h : ∀ key, props.get? key = others.get? key) :
    props = others := by
  obtain ⟨entries, sorted⟩ := props
  obtain ⟨entries', sorted'⟩ := others
  have heq : entries = entries' := eq_of_lookup sorted sorted' h
  subst heq
  rfl

private theorem get?_foldl_set {entries : List (String × PropertyValue)}
    (h : entries.Pairwise (·.1 < ·.1)) (props : Properties) (key : String) :
    (entries.foldl (fun props entry => props.set entry.1 entry.2) props).get? key =
      (lookup key entries).or (props.get? key) := by
  induction entries generalizing props with
  | nil => rfl
  | cons entry rest ih =>
      obtain ⟨other, value⟩ := entry
      obtain ⟨hfirst, hrest⟩ := List.pairwise_cons.1 h
      rw [List.foldl_cons, ih hrest, get?_set, lookup]
      by_cases hkey : key = other
      · subst hkey
        rw [lookup_eq_none hfirst, if_pos rfl, if_pos rfl]
        rfl
      · rw [if_neg hkey, if_neg hkey]

/-- Properties are made up of their entries. -/
theorem ofList_toList (props : Properties) : ofList props.toList = props := by
  apply ext_get?
  intro key
  rw [ofList, toList, get?_foldl_set props.sorted, get?_empty, Option.or_none]
  rfl

end Properties

end WikiMarkup
