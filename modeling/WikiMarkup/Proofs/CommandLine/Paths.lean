import WikiMarkup.CommandLine.Directory

/-!
Where paths lead. A path is read from the left: each name up to a slash goes on through a directory,
and the last name is that of the place itself, at which anything or nothing may stand. This is all
that reading and writing a file ask of a path, so both can be told from it without cutting the path
into steps.
-/

namespace WikiMarkup.CommandLine.Directory

/-- A text that names an entry of a directory. -/
structure IsName (text : List Char) : Prop where
  filled : text ≠ []
  notHere : text ≠ ['.']
  notUp : text ≠ ['.', '.']
  whole : '/' ∉ text

/-- A text leads from a directory to a place in a directory. -/
inductive LeadsFrom (d : Directory) : Location → List Char → Location → Prop
  | last {start : Location} {name : List Char} (hname : IsName name) :
      LeadsFrom d start name (start ++ [String.ofList name])
  | slash {start place : Location} {more : List Char} (hmore : LeadsFrom d start more place) :
      LeadsFrom d start ('/' :: more) place
  | stay {start place : Location} {more : List Char} (hmore : LeadsFrom d start more place) :
      LeadsFrom d start ('.' :: '/' :: more) place
  | up {start place : Location} {more : List Char}
      (hmore : LeadsFrom d start.dropLast more place) :
      LeadsFrom d start ('.' :: '.' :: '/' :: more) place
  | through {start place : Location} {name more : List Char} (hname : IsName name)
      (hdirectory : d.find? (start ++ [String.ofList name]) = some .directory)
      (hmore : LeadsFrom d (start ++ [String.ofList name]) more place) :
      LeadsFrom d start (name ++ '/' :: more) place

/-- A path leads to a place: from the root if it begins with a slash, and otherwise from the
directory in which the program runs. -/
inductive LeadsTo (d : Directory) (path : String) (place : Location) : Prop
  | fromRoot (hpath : path.toList.head? = some '/') (h : d.LeadsFrom [] path.toList place) :
      LeadsTo d path place
  | fromHere (hpath : path.toList.head? ≠ some '/')
      (h : d.LeadsFrom d.location path.toList place) : LeadsTo d path place

/-- A path leads to a file with the given content. -/
def HasFile (d : Directory) (path : String) (content : List UInt8) : Prop :=
  ∃ place, d.LeadsTo path place ∧ d.find? place = some (.file content)

/-- A path leads to a place at which a file stands or can be made. -/
def CanHold (d : Directory) (path : String) (place : Location) : Prop :=
  d.LeadsTo path place ∧ d.find? place ≠ some .directory

/-- A path is its last piece, or a piece and a slash in front of another path. -/
theorem slashInduction {motive : List Char → Prop} (last : ∀ name, '/' ∉ name → motive name)
    (piece : ∀ name more, '/' ∉ name → motive more → motive (name ++ '/' :: more))
    (path : List Char) : motive path := by
  induction hlength : path.length using Nat.strongRecOn generalizing path with
  | ind length ih =>
      by_cases hslash : '/' ∈ path
      · obtain ⟨name, more, rfl, hname⟩ := List.eq_append_cons_of_mem hslash
        refine piece name more hname (ih more.length ?_ more rfl)
        rw [← hlength, List.length_append, List.length_cons]
        omega
      · exact last path hslash

theorem piece_cases {name : List Char} (h : '/' ∉ name) :
    name = [] ∨ name = ['.'] ∨ name = ['.', '.'] ∨ IsName name := by
  apply Classical.byContradiction
  intro hnone
  simp only [not_or] at hnone
  obtain ⟨hfilled, hhere, hup, hname⟩ := hnone
  exact hname ⟨hfilled, hhere, hup, h⟩

theorem steps_append_slash (front more : List Char) :
    steps (front ++ '/' :: more) = steps front ++ steps more := by
  rw [steps, Text.pieces_append_break front (decide_eq_true rfl), List.filter_append,
    List.map_append]
  rfl

theorem steps_of_whole {piece : List Char} (h : '/' ∉ piece) (hfilled : piece ≠ []) :
    steps piece = [.ofPiece piece] := by
  have hwhole : ∀ c ∈ piece, decide (c = '/') = false :=
    fun c hc => decide_eq_false fun heq => h (heq ▸ hc)
  simp [steps, Text.pieces_of_unbroken hwhole, hfilled]

theorem IsName.steps_eq {name : List Char} (h : IsName name) :
    steps name = [.enter (String.ofList name)] := by
  rw [steps_of_whole h.whole h.filled, Step.ofPiece]
  · exact h.notHere
  · exact h.notUp

theorem endsInSlash_append_slash (front more : List Char) :
    endsInSlash (front ++ '/' :: more) = (more.isEmpty || endsInSlash more) := by
  cases more with
  | nil => simp [endsInSlash]
  | cons c rest => simp [endsInSlash, List.getLast?_append]

/-- A path without a slash at its end has steps, unless it is empty. -/
theorem steps_ne_nil {path : List Char} (hfilled : path ≠ []) (hslash : endsInSlash path = false) :
    steps path ≠ [] := by
  induction path using slashInduction with
  | last name hname =>
      rw [steps_of_whole hname hfilled]
      exact List.cons_ne_nil _ _
  | piece name more _ ih =>
      rw [endsInSlash_append_slash, Bool.or_eq_false_iff] at hslash
      rw [steps_append_slash]
      have hmore : more ≠ [] := by simpa using hslash.1
      exact List.append_ne_nil_of_right_ne_nil _ (ih hmore hslash.2)

theorem follow_enter (d : Directory) (start : Location) (name : String) {more : List Step}
    (h : more ≠ []) :
    d.follow start (.enter name :: more) =
      match d.find? (start ++ [name]) with
      | some .directory => d.follow (start ++ [name]) more
      | some (.file _) => .error .notDirectory
      | none => .error .notFound := by
  obtain ⟨step, rest, rfl⟩ := List.exists_cons_of_ne_nil h
  rfl

theorem LeadsFrom.noSlash {d : Directory} {start place : Location} {path : List Char}
    (h : d.LeadsFrom start path place) : path ≠ [] ∧ endsInSlash path = false := by
  have hbehind : ∀ (front : List Char) {more : List Char}, more ≠ [] ∧ endsInSlash more = false →
      front ++ '/' :: more ≠ [] ∧ endsInSlash (front ++ '/' :: more) = false := by
    rintro front more ⟨hfilled, hslash⟩
    refine ⟨List.append_ne_nil_of_right_ne_nil _ (List.cons_ne_nil _ _), ?_⟩
    rw [endsInSlash_append_slash, hslash, List.isEmpty_eq_false_iff.mpr hfilled, Bool.or_self]
  induction h with
  | last hname =>
      exact ⟨hname.filled, decide_eq_false fun h => hname.whole (List.mem_of_getLast? h)⟩
  | slash _ ih => exact hbehind [] ih
  | stay _ ih => exact hbehind ['.'] ih
  | up _ ih => exact hbehind ['.', '.'] ih
  | through _ _ _ ih => exact hbehind _ ih

theorem LeadsFrom.follow_eq_ok {d : Directory} {start place : Location} {path : List Char}
    (h : d.LeadsFrom start path place) : d.follow start (steps path) = .ok place := by
  induction h with
  | last hname =>
      rw [hname.steps_eq]
      rfl
  | @slash start place more _ ih =>
      have hsteps : steps ('/' :: more) = steps more := steps_append_slash [] more
      rw [hsteps, ih]
  | @stay start place more _ ih =>
      have hsteps : steps ('.' :: '/' :: more) = .stay :: steps more :=
        steps_append_slash ['.'] more
      rw [hsteps, follow, ih]
  | @up start place more _ ih =>
      have hsteps : steps ('.' :: '.' :: '/' :: more) = .up :: steps more :=
        steps_append_slash ['.', '.'] more
      rw [hsteps, follow, ih]
  | @through start place name more hname hdirectory hmore ih =>
      have hsteps := steps_ne_nil hmore.noSlash.1 hmore.noSlash.2
      rw [steps_append_slash, hname.steps_eq, List.singleton_append, follow_enter _ _ _ hsteps]
      simp only [hdirectory, ih]

theorem leadsFrom_of_follow {d : Directory} {start place : Location} {path : List Char}
    (h : d.follow start (steps path) = .ok place) (hslash : endsInSlash path = false) :
    d.LeadsFrom start path place := by
  induction path using slashInduction generalizing start with
  | last name hwhole =>
      rcases piece_cases hwhole with rfl | rfl | rfl | hname
      · cases h
      · cases h
      · cases h
      · rw [hname.steps_eq] at h
        cases h
        exact .last hname
  | piece name more hwhole ih =>
      rw [endsInSlash_append_slash, Bool.or_eq_false_iff, List.isEmpty_eq_false_iff] at hslash
      rw [steps_append_slash] at h
      rcases piece_cases hwhole with rfl | rfl | rfl | hname
      · exact .slash (ih h hslash.2)
      · exact .stay (ih h hslash.2)
      · exact .up (ih h hslash.2)
      · rw [hname.steps_eq, List.singleton_append,
          follow_enter _ _ _ (steps_ne_nil hslash.1 hslash.2)] at h
        split at h
        next hdirectory => exact .through hname hdirectory (ih h hslash.2)
        next => cases h
        next => cases h

theorem leadsTo_iff_leadsFrom {d : Directory} {path : String} {place : Location} :
    d.LeadsTo path place ↔ d.LeadsFrom (d.startOf path.toList) path.toList place := by
  by_cases hroot : path.toList.head? = some '/'
  · rw [startOf, if_pos hroot]
    refine ⟨?_, .fromRoot hroot⟩
    rintro (⟨-, h⟩ | ⟨hpath, -⟩)
    · exact h
    · exact absurd hroot hpath
  · rw [startOf, if_neg hroot]
    refine ⟨?_, .fromHere hroot⟩
    rintro (⟨hpath, -⟩ | ⟨-, h⟩)
    · exact absurd hpath hroot
    · exact h

theorem leadsTo_iff {d : Directory} {path : String} {place : Location} :
    d.LeadsTo path place ↔
      d.place path.toList = .ok place ∧ endsInSlash path.toList = false := by
  rw [leadsTo_iff_leadsFrom, Directory.place]
  constructor
  · intro h
    obtain ⟨hfilled, hslash⟩ := h.noSlash
    rw [List.isEmpty_eq_false_iff.mpr hfilled]
    exact ⟨h.follow_eq_ok, hslash⟩
  · rintro ⟨hplace, hslash⟩
    split at hplace
    next => cases hplace
    next => exact leadsFrom_of_follow hplace hslash

theorem bind_eq_ok_iff {ε α β : Type} {first : Except ε α} {next : α → Except ε β} {value : β} :
    first >>= next = .ok value ↔ ∃ found, first = .ok found ∧ next found = .ok value := by
  cases first with
  | error e => exact iff_of_false (fun h => by cases h) (fun ⟨_, h, _⟩ => by cases h)
  | ok found =>
      refine ⟨fun h => ⟨found, rfl, h⟩, ?_⟩
      rintro ⟨_, ⟨rfl⟩, h⟩
      exact h

theorem readFile_eq_ok_iff {d : Directory} {path : String} {content : List UInt8} :
    d.readFile path = .ok content ↔ d.HasFile path content := by
  rw [readFile, bind_eq_ok_iff]
  refine exists_congr fun place => ?_
  rw [leadsTo_iff]
  constructor
  · rintro ⟨hplace, hread⟩
    split at hread
    next found hfind =>
      split at hread
      next => cases hread
      next hslash =>
        cases hread
        exact ⟨⟨hplace, Bool.eq_false_iff.mpr hslash⟩, hfind⟩
    next => cases hread
    next => cases hread
  · rintro ⟨⟨hplace, hslash⟩, hfile⟩
    refine ⟨hplace, ?_⟩
    rw [hfile, hslash]
    rfl

theorem placeForFile_eq_ok_iff {d : Directory} {path : String} {place : Location} :
    d.placeForFile path = .ok place ↔ d.CanHold path place := by
  rw [placeForFile, bind_eq_ok_iff, CanHold, leadsTo_iff]
  constructor
  · rintro ⟨found, hfound, hfree⟩
    split at hfree
    next => cases hfree
    next hnone =>
      obtain ⟨hslash, hfind⟩ := not_or.mp hnone
      cases hfree
      exact ⟨⟨hfound, Bool.eq_false_iff.mpr hslash⟩, hfind⟩
  · rintro ⟨⟨hplace, hslash⟩, hfind⟩
    refine ⟨place, hplace, if_neg ?_⟩
    rw [hslash, not_or]
    exact ⟨Bool.false_ne_true, hfind⟩

theorem writeFile_of_canHold {d : Directory} {path : String} {place : Location}
    (h : d.CanHold path place) (content : List UInt8) :
    d.writeFile path content = .ok (d.put place content) := by
  rw [writeFile, placeForFile_eq_ok_iff.mpr h]
  rfl

/-- If a path leads to no place for a file, no content can be written there, for one reason. -/
theorem exists_writeFile_error {d : Directory} {path : String}
    (h : ¬∃ place, d.CanHold path place) :
    ∃ e, ∀ content, d.writeFile path content = .error e := by
  cases hplace : d.placeForFile path with
  | ok place => exact absurd ⟨place, placeForFile_eq_ok_iff.mp hplace⟩ h
  | error e =>
      refine ⟨e, fun content => ?_⟩
      rw [writeFile, hplace]
      rfl

end WikiMarkup.CommandLine.Directory
