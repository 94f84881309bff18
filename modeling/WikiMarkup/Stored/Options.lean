import WikiMarkup.Confluence.Notation
import WikiMarkup.Stored.Value

/-!
The stored form of the choices that a user makes. A choice that is not stored keeps its default.
-/

namespace WikiMarkup.Confluence.Options

def toStored (options : Options) : Stored.Value :=
  .record [("linenumbers", .flag options.lineNumbers)]

/-- Reads options; a choice that is there must be a flag. -/
def ofStored? : Stored.Value → Option Options
  | .list [] => some {}
  | .list [lineNumbers] => (Stored.Value.toFlag? lineNumbers).map (⟨·⟩)
  | .record fields =>
      match Stored.Value.field? "linenumbers" fields with
      | some lineNumbers => (Stored.Value.toFlag? lineNumbers).map (⟨·⟩)
      | none => some {}
  | _ => none

end WikiMarkup.Confluence.Options
