/-!
The data model of stored documents: the values of JSON, with whole numbers kept apart from numbers
that are written with a fraction or an exponent.
-/

namespace WikiMarkup.Stored

/-- A stored value. The names of a record are unique where it was written from a document. -/
inductive Value where
  | null
  | flag (value : Bool)
  | whole (value : Int)
  /-- A number that is not written as a whole number, as it is written. -/
  | fraction (written : String)
  | text (value : String)
  | list (values : List Value)
  | record (fields : List (String × Value))

instance : Inhabited Value := ⟨.null⟩

namespace Value

def field? (name : String) : List (String × Value) → Option Value
  | [] => none
  | (other, value) :: rest => if other = name then some value else field? name rest

def toText? : Value → Option String
  | text value => some value
  | _ => none

def toFlag? : Value → Option Bool
  | flag value => some value
  | _ => none

def toUInt64? : Value → Option UInt64
  | whole value =>
      if 0 ≤ value ∧ value.toNat < UInt64.size then some value.toNat.toUInt64 else none
  | _ => none

end Value

end WikiMarkup.Stored
