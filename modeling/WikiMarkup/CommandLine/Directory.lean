import WikiMarkup.Text.Pieces

/-!
Files, and the directories that they stand in. A path leads from the directory in which the program
runs, or from the root, through directories to a place where something stands or where a file can be
made. There are no links between places, and no place is closed to the program.
-/

namespace WikiMarkup.CommandLine

inductive FileError where
  | notFound
  | notDirectory
  | isDirectory
  deriving DecidableEq

/-- The wording of an error, with the number that the operating system gives it. -/
def FileError.message : FileError → String
  | notFound => "No such file or directory (os error 2)"
  | notDirectory => "Not a directory (os error 20)"
  | isDirectory => "Is a directory (os error 21)"

inductive Entry where
  | file (content : List UInt8)
  | directory
  deriving DecidableEq

/-- The names that lead from the root to a place. -/
abbrev Location := List String

/-- The directory in which the program runs, with all files and directories that there are. -/
structure Directory where
  location : Location
  entries : List (Location × Entry)
  deriving DecidableEq

namespace Directory

/-- A directory that holds just some files, below a root with nothing else in it. -/
def ofFiles (files : List (String × List UInt8)) : Directory :=
  ⟨["home"], (["home"], .directory) :: files.map fun file => (["home", file.1], .file file.2)⟩

/-- The files that stand in the directory itself, by name. -/
def files (d : Directory) : List (String × List UInt8) :=
  d.entries.filterMap fun
    | (place, .file content) =>
        if place.dropLast = d.location then place.getLast?.map (·, content) else none
    | (_, .directory) => none

/-- What stands at a place. -/
def find? (d : Directory) (place : Location) : Option Entry := d.entries.lookup place

/-- Puts a file at a place, instead of what stands there. -/
def put (d : Directory) (place : Location) (content : List UInt8) : Directory :=
  { d with entries := (place, .file content) :: d.entries.filter (·.1 ≠ place) }

@[simp] theorem location_put (d : Directory) (place : Location) (content : List UInt8) :
    (d.put place content).location = d.location := rfl

theorem lookup_without {place other : Location} (hother : other ≠ place)
    (entries : List (Location × Entry)) :
    (entries.filter (·.1 ≠ place)).lookup other = entries.lookup other := by
  induction entries with
  | nil => rfl
  | cons entry rest ih =>
      by_cases hplace : entry.1 = place
      · have hentry : (other == entry.1) = false := by rw [hplace]; exact beq_false_of_ne hother
        rw [List.filter_cons_of_neg (by simpa using hplace), ih, List.lookup_cons, hentry]
      · rw [List.filter_cons_of_pos (by simpa using hplace), List.lookup_cons, List.lookup_cons, ih]

theorem find?_put (d : Directory) (place : Location) (content : List UInt8) (other : Location) :
    (d.put place content).find? other =
      if other = place then some (.file content) else d.find? other := by
  rw [find?, put, List.lookup_cons]
  by_cases hother : other = place
  · rw [if_pos hother, beq_iff_eq.mpr hother]
  · rw [if_neg hother, beq_false_of_ne hother]
    exact lookup_without hother d.entries

/-- A step of a path. -/
inductive Step where
  | stay
  | up
  | enter (name : String)

def Step.ofPiece : List Char → Step
  | ['.'] => .stay
  | ['.', '.'] => .up
  | name => .enter (String.ofList name)

/-- The steps of a path stand between its slashes. -/
def steps (path : List Char) : List Step :=
  ((Text.pieces (· = '/') path).filter (!·.isEmpty)).map .ofPiece

/-- Follows the steps of a path to a place in a directory. Up from the root is the root, and all
names but the last must be those of directories. Steps that do not end with a name lead to no such
place, but to a directory itself. -/
def follow (d : Directory) (start : Location) : List Step → Except FileError Location
  | [] => .error .isDirectory
  | .stay :: more => d.follow start more
  | .up :: more => d.follow start.dropLast more
  | [.enter name] => .ok (start ++ [name])
  | .enter name :: more =>
      match d.find? (start ++ [name]) with
      | some .directory => d.follow (start ++ [name]) more
      | some (.file _) => .error .notDirectory
      | none => .error .notFound

/-- The directory that a path leads from: the root, or the one in which the program runs. -/
def startOf (d : Directory) (path : List Char) : Location :=
  if path.head? = some '/' then [] else d.location

/-- With a slash at its end a path can lead to a directory only. -/
def endsInSlash (path : List Char) : Bool := path.getLast? = some '/'

/-- The place that a path leads to, whether anything stands there or not. -/
def place (d : Directory) (path : List Char) : Except FileError Location :=
  if path.isEmpty then .error .notFound else d.follow (d.startOf path) (steps path)

def readFile (d : Directory) (path : String) : Except FileError (List UInt8) := do
  let place ← d.place path.toList
  match d.find? place with
  | some (.file content) => if endsInSlash path.toList then .error .notDirectory else .ok content
  | some .directory => .error .isDirectory
  | none => .error .notFound

/-- The place at which a path makes or replaces a file. -/
def placeForFile (d : Directory) (path : String) : Except FileError Location := do
  let place ← d.place path.toList
  if endsInSlash path.toList ∨ d.find? place = some .directory then .error .isDirectory
  else .ok place

/-- Writes the file at a path, which is made if there is none. -/
def writeFile (d : Directory) (path : String) (content : List UInt8) : Except FileError Directory :=
  (d.placeForFile path).map (d.put · content)

end Directory

end WikiMarkup.CommandLine
