import WikiMarkup.Document.Node
import WikiMarkup.Stored.Value

/-!
The stored form of documents. Writing gives every field of every structure. Reading is strict about
types, so that a flag, a whole number and a text come back as what they were; fields without a
meaning are passed over, and each structure may also be stored as the list of its fields in order.
-/

namespace WikiMarkup

def PropertyValue.toStored : PropertyValue → Stored.Value
  | flag value => .flag value
  | number value => .whole value.toInt
  | text value => .text value

/-- Reads a property value: a flag, a whole number of sixty-four bits with sign, or a text. -/
def PropertyValue.ofStored? : Stored.Value → Option PropertyValue
  | .flag value => some (.flag value)
  | .whole value =>
      if Int64.minValue.toInt ≤ value ∧ value ≤ Int64.maxValue.toInt then
        some (.number (Int64.ofInt value))
      else none
  | .text value => some (.text value)
  | _ => none

def Properties.toStored (props : Properties) : Stored.Value :=
  .record (props.toList.map fun entry => (entry.1, entry.2.toStored))

def Properties.ofStored? : Stored.Value → Option Properties
  | .record fields =>
      (fields.mapM fun entry => (PropertyValue.ofStored? entry.2).map (entry.1, ·)).map ofList
  | _ => none

def Span.toStored (span : Span) : Stored.Value :=
  .record [("start", .whole span.start.toNat), ("end", .whole span.stop.toNat)]

def Span.ofStored? : Stored.Value → Option Span
  | .list [start, stop] => return ⟨← start.toUInt64?, ← stop.toUInt64?⟩
  | .record fields => do
      let start ← Stored.Value.field? "start" fields
      let stop ← Stored.Value.field? "end" fields
      return ⟨← start.toUInt64?, ← stop.toUInt64?⟩
  | _ => none

def Span.ofStoredOptional? : Stored.Value → Option (Option Span)
  | .null => some none
  | value => (ofStored? value).map some

namespace Node

mutual

def toStored : Node → Stored.Value
  | mk kind properties children span =>
      .record
        [("kind", .text kind), ("props", properties.toStored),
          ("children", .list (toStoredAll children)),
          ("span", match span with
            | some span => span.toStored
            | none => .null)]

def toStoredAll : List Node → List Stored.Value
  | [] => []
  | n :: rest => toStored n :: toStoredAll rest

end

mutual

/-- Reads a node. Only its span may be missing, and only from a record. -/
def ofStored? : Stored.Value → Option Node
  | .list [kind, properties, children, span] => do
      return mk (← kind.toText?) (← Properties.ofStored? properties) (← ofStoredList? children)
        (← Span.ofStoredOptional? span)
  | .record fields => do
      let kind ← Stored.Value.field? "kind" fields
      let properties ← Stored.Value.field? "props" fields
      return mk (← kind.toText?) (← Properties.ofStored? properties) (← ofStoredChildren? fields)
        (← (Stored.Value.field? "span" fields).elim (some none) Span.ofStoredOptional?)
  | _ => none

/-- Reads the children of a node from the fields of its record. -/
def ofStoredChildren? : List (String × Stored.Value) → Option (List Node)
  | [] => none
  | (name, value) :: rest =>
      if name = "children" then ofStoredList? value else ofStoredChildren? rest

def ofStoredList? : Stored.Value → Option (List Node)
  | .list values => ofStoredAll? values
  | _ => none

def ofStoredAll? : List Stored.Value → Option (List Node)
  | [] => some []
  | value :: rest => do return (← ofStored? value) :: (← ofStoredAll? rest)

end

end Node

def Document.toStored (doc : Document) : Stored.Value :=
  .record [("content", doc.root.toStored)]

def Document.ofStored? : Stored.Value → Option Document
  | .list [root] => (Node.ofStored? root).map (⟨·⟩)
  | .record fields => do return ⟨← Node.ofStored? (← Stored.Value.field? "content" fields)⟩
  | _ => none

end WikiMarkup
