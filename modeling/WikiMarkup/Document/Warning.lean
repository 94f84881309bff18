import WikiMarkup.Document.Node

/-!
What a conversion could not keep. A result carries its value together with warnings in the order of
the steps that raised them.
-/

namespace WikiMarkup

inductive Severity where
  /-- Nothing was lost. -/
  | info
  /-- Some formatting may differ. -/
  | minor
  /-- Content of weight was lost. -/
  | major
  /-- The result may be wrong. -/
  | error
  deriving DecidableEq

namespace Severity

/-- Position in the order of severities, from the mildest. -/
def rank : Severity → Nat
  | info => 0
  | minor => 1
  | major => 2
  | error => 3

instance : LE Severity := ⟨fun a b => a.rank ≤ b.rank⟩

instance (a b : Severity) : Decidable (a ≤ b) := inferInstanceAs (Decidable (a.rank ≤ b.rank))

def sort (severities : List Severity) : List Severity := severities.mergeSort (· ≤ ·)

def gravest? (severities : List Severity) : Option Severity := (sort severities).getLast?

/-- Whether the result should be looked at before it is used. -/
def isGrave (s : Severity) : Bool := s matches .major | .error

end Severity

/-- A warning that nodes of the kind `unsupported` could not be expressed. -/
structure FidelityWarning where
  severity : Severity
  unsupported : String
  message : String
  span : Option Span
  deriving DecidableEq

/-- The message, followed by the source bytes where they are known. -/
def FidelityWarning.display (w : FidelityWarning) : String :=
  match w.span with
  | some span => s!"{w.message} (bytes {span.start}..{span.stop})"
  | none => w.message

/-- A converted value with the warnings of its conversion. -/
structure Converted (α : Type) where
  value : α
  warnings : List FidelityWarning
  deriving DecidableEq

namespace Converted

variable {α β : Type}

def exact (value : α) : Converted α := ⟨value, []⟩

def warn (result : Converted α) (warning : FidelityWarning) : Converted α :=
  ⟨result.value, result.warnings ++ [warning]⟩

/-- Converts the value further and keeps the warnings. -/
def map (f : α → β) (result : Converted α) : Converted β := ⟨f result.value, result.warnings⟩

/-- Puts the warnings of an earlier step before those of this one. -/
def after (result : Converted α) (earlier : List FidelityWarning) : Converted α :=
  ⟨result.value, earlier ++ result.warnings⟩

/-- Whether anything was lost at all. -/
def hasWarnings (result : Converted α) : Bool := !result.warnings.isEmpty

/-- Whether anything of weight was lost. -/
def hasErrors (result : Converted α) : Bool := result.warnings.any (·.severity.isGrave)

end Converted

end WikiMarkup
