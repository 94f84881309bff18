import WikiMarkup.CommandLine.Program
import WikiMarkup.Proofs.CommandLine.Paths
import WikiMarkup.Proofs.Conversion

/-!
What a conversion leaves behind. Either it can be carried out, and the result reaches one place, the
standard output or a file, while every other file stays; or it fails, and only an error is told. The
input is read and converted before the output is touched, so both may be the same file.
-/

namespace WikiMarkup.CommandLine

namespace Arguments

/-- Stands for a standard stream. -/
def IsStandard (name : Option String) : Prop := name = none ∨ name = some "-"

theorem file?_eq_none_iff {name : Option String} : file? name = none ↔ IsStandard name := by
  cases name <;> simp [file?, IsStandard]

theorem file?_eq_some_iff {name : Option String} {path : String} :
    file? name = some path ↔ name = some path ∧ path ≠ "-" := by
  simp [file?, Option.filter_eq_some_iff]

variable {a : Arguments} {input : List UInt8} {d : Directory}
  {tokenize : String → List Markdown.SourceEvent}

/-- The bytes that the arguments name as input: all of the standard input, or a whole file. -/
inductive Reads (a : Arguments) (input : List UInt8) (d : Directory) : List UInt8 → Prop
  | standard (hname : IsStandard a.input) : Reads a input d input
  | file {path : String} {content : List UInt8} (hname : a.input = some path) (hpath : path ≠ "-")
      (hfile : d.HasFile path content) : Reads a input d content

/-- The arguments name an output that can be written. -/
def HasOutlet (a : Arguments) (d : Directory) : Prop :=
  ∀ path, a.output = some path → path ≠ "-" → ∃ place, d.CanHold path place

/-- The input can be read and is a text, and there is a place for the output. -/
structure CanConvert (a : Arguments) (input : List UInt8) (d : Directory) : Prop where
  source : ∃ text, a.Reads input d (Utf8.encode text)
  outlet : a.HasOutlet d

/-- A run that delivered a result: all of it stands in one place, and no other file is touched. -/
inductive IsDelivered (a : Arguments) (d : Directory) (result : List UInt8) : Outcome → Prop
  | standard (hname : IsStandard a.output) : IsDelivered a d result ⟨0, result, none, d⟩
  | file {path : String} {place : Location} {d' : Directory} (hname : a.output = some path)
      (hpath : path ≠ "-") (hplace : d.LeadsTo path place)
      (hfile : d'.find? place = some (.file result))
      (hothers : ∀ other, other ≠ place → d'.find? other = d.find? other)
      (hlocation : d'.location = d.location) : IsDelivered a d result ⟨0, [], none, d'⟩

/-- Why a conversion fails, in the wording of the error. -/
inductive Fails (a : Arguments) (input : List UInt8) (d : Directory) : String → Prop
  | unread {path : String} {e : FileError} (hname : a.input = some path) (hpath : path ≠ "-")
      (herror : d.readFile path = .error e) : Fails a input d e.message
  | malformed {source : List UInt8} {fault : Utf8.DecodeError} (hreads : a.Reads input d source)
      (hfault : Utf8.IsFault source fault) :
      Fails a input d (ConversionError.encoding fault).message
  | unwritten {path : String} {e : FileError} (hsource : ∃ text, a.Reads input d (Utf8.encode text))
      (hname : a.output = some path) (hpath : path ≠ "-")
      (herror : ∀ content, d.writeFile path content = .error e) : Fails a input d e.message

theorem readInput_eq_ok_iff {source : List UInt8} :
    a.readInput input d = .ok source ↔ a.Reads input d source := by
  unfold readInput
  constructor
  · intro h
    split at h
    next hname =>
      cases h
      exact .standard (file?_eq_none_iff.mp hname)
    next path hname =>
      obtain ⟨hname, hpath⟩ := file?_eq_some_iff.mp hname
      cases hread : d.readFile path with
      | error e => simp [hread, Except.mapError] at h
      | ok content =>
          simp only [hread, Except.mapError, Except.ok.injEq] at h
          exact .file hname hpath (Directory.readFile_eq_ok_iff.mp (h ▸ hread))
  · rintro (hname | ⟨hname, hpath, hfile⟩)
    · rw [file?_eq_none_iff.mpr hname]
    · simp only [file?_eq_some_iff.mpr ⟨hname, hpath⟩, Directory.readFile_eq_ok_iff.mpr hfile]
      rfl

theorem fails_of_readInput {message : String} (h : a.readInput input d = .error message) :
    a.Fails input d message := by
  unfold readInput at h
  split at h
  next => cases h
  next path hname =>
    obtain ⟨hname, hpath⟩ := file?_eq_some_iff.mp hname
    cases hread : d.readFile path with
    | ok content => simp [hread, Except.mapError] at h
    | error e =>
        simp only [hread, Except.mapError, Except.error.injEq] at h
        exact h ▸ .unread hname hpath hread

theorem convert_of_isFault {source : List UInt8} {fault : Utf8.DecodeError}
    (h : Utf8.IsFault source fault) :
    a.convert source tokenize = .error (ConversionError.encoding fault).message := by
  rw [convert, convertBytes_of_isFault a.options h]

theorem convert_encode (a : Arguments) (text : String)
    (tokenize : String → List Markdown.SourceEvent) :
    ∃ markup, WikiMarkup.convert ⟨a.lineNumbers⟩ text tokenize = .ok (.exact markup) ∧
      a.convert (Utf8.encode text) tokenize = .ok (Utf8.encode markup) := by
  obtain ⟨markup, hmarkup, -⟩ := convert_eq_ok ⟨a.lineNumbers⟩ false text tokenize
  refine ⟨markup, hmarkup, ?_⟩
  rw [convert, options, convertBytes_encode, hmarkup]
  rfl

theorem writeOutput_of_hasOutlet (h : a.HasOutlet d) (result : List UInt8) :
    ∃ output d', a.writeOutput result d = .ok (output, d') ∧
      a.IsDelivered d result ⟨0, output, none, d'⟩ := by
  unfold writeOutput
  cases hname : file? a.output with
  | none => exact ⟨result, d, rfl, .standard (file?_eq_none_iff.mp hname)⟩
  | some path =>
      obtain ⟨hname, hpath⟩ := file?_eq_some_iff.mp hname
      obtain ⟨place, hhold⟩ := h path hname hpath
      refine ⟨[], d.put place result, ?_, ?_⟩
      · simp only [Directory.writeFile_of_canHold hhold]
        rfl
      · refine .file hname hpath hhold.1 ?_ ?_ (Directory.location_put ..)
        · rw [Directory.find?_put, if_pos rfl]
        · intro other hother
          rw [Directory.find?_put, if_neg hother]

theorem writeOutput_of_not_hasOutlet (h : ¬a.HasOutlet d)
    (hsource : ∃ text, a.Reads input d (Utf8.encode text)) :
    ∃ message, a.Fails input d message ∧
      ∀ result, a.writeOutput result d = .error message := by
  simp only [HasOutlet, not_forall] at h
  obtain ⟨path, hname, hpath, hnone⟩ := h
  obtain ⟨e, herror⟩ := Directory.exists_writeFile_error hnone
  refine ⟨e.message, .unwritten hsource hname hpath herror, fun result => ?_⟩
  simp only [writeOutput, file?_eq_some_iff.mpr ⟨hname, hpath⟩, herror]
  rfl

/-- A conversion that can be carried out delivers its result. -/
theorem run_of_canConvert (h : a.CanConvert input d)
    (tokenize : String → List Markdown.SourceEvent) :
    ∃ text markup, a.Reads input d (Utf8.encode text) ∧
      WikiMarkup.convert ⟨a.lineNumbers⟩ text tokenize = .ok (.exact markup) ∧
      a.IsDelivered d (Utf8.encode markup) (a.run input d tokenize) := by
  obtain ⟨text, hreads⟩ := h.source
  obtain ⟨markup, hmarkup, hconvert⟩ := convert_encode a text tokenize
  obtain ⟨output, d', hwrite, hdelivered⟩ :=
    writeOutput_of_hasOutlet h.outlet (Utf8.encode markup)
  have hattempt : a.attempt input d tokenize = .ok (output, d') := by
    rw [attempt, readInput_eq_ok_iff.mpr hreads]
    simp only [bind, Except.bind, hconvert, hwrite]
  refine ⟨text, markup, hreads, hmarkup, ?_⟩
  rw [run, hattempt]
  exact hdelivered

/-- An attempt at any other fails, and for one of the reasons there are. -/
theorem attempt_of_not_canConvert (h : ¬a.CanConvert input d)
    (tokenize : String → List Markdown.SourceEvent) :
    ∃ message, a.Fails input d message ∧ a.attempt input d tokenize = .error message := by
  cases hread : a.readInput input d with
  | error message =>
      refine ⟨message, fails_of_readInput hread, ?_⟩
      rw [attempt, hread]
      rfl
  | ok source =>
      have hreads := readInput_eq_ok_iff.mp hread
      by_cases hsource : Utf8.IsWellFormed source
      · obtain ⟨text, rfl⟩ := hsource
        have houtlet : ¬a.HasOutlet d := fun houtlet => h ⟨⟨text, hreads⟩, houtlet⟩
        obtain ⟨message, hfails, hwrite⟩ := writeOutput_of_not_hasOutlet houtlet ⟨text, hreads⟩
        obtain ⟨markup, -, hconvert⟩ := convert_encode a text tokenize
        refine ⟨message, hfails, ?_⟩
        rw [attempt, hread]
        simp only [bind, Except.bind, hconvert, hwrite]
      · obtain ⟨fault, hfault⟩ := Utf8.exists_isFault_iff.mpr hsource
        refine ⟨_, .malformed hreads hfault, ?_⟩
        rw [attempt, hread]
        simp only [bind, Except.bind, convert_of_isFault hfault]

/-- Such a run tells the error and does nothing else. -/
theorem run_of_not_canConvert (h : ¬a.CanConvert input d)
    (tokenize : String → List Markdown.SourceEvent) :
    ∃ message, a.Fails input d message ∧
      a.run input d tokenize = ⟨1, [], some s!"error: {message}", d⟩ := by
  obtain ⟨message, hfails, hattempt⟩ := attempt_of_not_canConvert h tokenize
  exact ⟨message, hfails, by rw [run, hattempt]⟩

end Arguments

open Arguments

/-- A conversion that can be carried out ends well, and the converted input stands in one place as
a whole. One that cannot is told as an error; nothing is printed, and no file changes. -/
theorem conversion_is_all_or_nothing (a : Arguments) (input : List UInt8) (d : Directory)
    (tokenize : String → List Markdown.SourceEvent) :
    (a.CanConvert input d ↔ ∃ text markup, a.Reads input d (Utf8.encode text) ∧
      WikiMarkup.convert ⟨a.lineNumbers⟩ text tokenize = .ok (.exact markup) ∧
      a.IsDelivered d (Utf8.encode markup) (a.run input d tokenize)) ∧
    (¬a.CanConvert input d ↔ ∃ message, a.Fails input d message ∧
      a.run input d tokenize = ⟨1, [], some s!"error: {message}", d⟩) := by
  -- The exit code tells the two apart.
  refine ⟨⟨fun hcan => run_of_canConvert hcan tokenize, ?_⟩,
    ⟨fun hcannot => run_of_not_canConvert hcannot tokenize, ?_⟩⟩
  · rintro ⟨text, markup, -, -, hdelivered⟩
    by_contra hcannot
    obtain ⟨message, -, hrun⟩ := run_of_not_canConvert hcannot tokenize
    rw [hrun] at hdelivered
    cases hdelivered
  · rintro ⟨message, -, hrun⟩ hcan
    obtain ⟨text, markup, -, -, hdelivered⟩ := run_of_canConvert hcan tokenize
    rw [hrun] at hdelivered
    cases hdelivered

/-- A file is converted in place, under two paths that lead to it, with its lines numbered. -/
theorem conversion_is_all_or_nothing_in_place :
    let place : Location := ["home", "notes", "a"]
    let d : Directory := ⟨["home"], [(["home"], .directory), (["home", "notes"], .directory),
      (place, .file (Utf8.encode "    x")), (["b"], .file [])]⟩
    let a : Arguments :=
      { input := some "notes/a", output := some "/home/./notes/../notes/a", lineNumbers := true }
    let block := "{code:language=none|theme=Confluence|linenumbers=true}\nx\n{code}\n\n"
    a.CanConvert [] d ∧ ∃ text markup, a.Reads [] d (Utf8.encode text) ∧
      WikiMarkup.convert ⟨true⟩ text Markdown.eventsOf = .ok (.exact markup) ∧
      a.IsDelivered d (Utf8.encode markup)
        ⟨0, [], none, d.put place (Utf8.encode block)⟩ := by
  intro place d a block
  have hin : d.LeadsTo "notes/a" place := Directory.leadsTo_iff.mpr ⟨rfl, rfl⟩
  have hout : d.LeadsTo "/home/./notes/../notes/a" place := Directory.leadsTo_iff.mpr ⟨rfl, rfl⟩
  have hcan : a.CanConvert [] d := by
    refine ⟨⟨"    x", .file rfl (by decide) ⟨place, hin, rfl⟩⟩, fun path hpath _ => ⟨place, ?_⟩⟩
    cases hpath
    exact ⟨hout, fun h => by cases h⟩
  have hrun : a.run [] d Markdown.eventsOf =
      ⟨0, [], none, d.put place (Utf8.encode block)⟩ := by decide +kernel
  exact ⟨hcan, hrun ▸ (conversion_is_all_or_nothing a [] d Markdown.eventsOf).1.mp hcan⟩

end WikiMarkup.CommandLine
