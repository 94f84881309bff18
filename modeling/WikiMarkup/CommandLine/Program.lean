import WikiMarkup.CommandLine.Arguments
import WikiMarkup.CommandLine.Directory
import WikiMarkup.Conversion

/-!
The program, as a function of its arguments, its standard input and the directory in which it runs.
The input is read and converted before the output is opened, so a run that fails leaves the
directory as it was.
-/

namespace WikiMarkup.CommandLine

/-- What a run leaves behind. -/
structure Outcome where
  /-- The exit code: zero if all went well, one after an error, two if the arguments are faulty. -/
  exit : Nat
  output : List UInt8
  /-- The error of a run that failed. -/
  error : Option String
  directory : Directory
  deriving DecidableEq

namespace Arguments

/-- The file that a name stands for; none for the standard streams. -/
def file? (name : Option String) : Option String := name.filter (· ≠ "-")

def options (a : Arguments) : Confluence.Options := ⟨a.lineNumbers⟩

/-- Converts the bytes of the input to those of the output, or to the wording of an error. -/
def convert (a : Arguments) (source : List UInt8)
    (tokenize : String → List Markdown.SourceEvent := Markdown.eventsOf) :
    Except String (List UInt8) :=
  match convertBytes a.options source tokenize with
  | .ok converted => .ok (Utf8.encode converted.value)
  | .error e => .error e.message

def readInput (a : Arguments) (input : List UInt8) (d : Directory) : Except String (List UInt8) :=
  match file? a.input with
  | none => .ok input
  | some path => (d.readFile path).mapError (·.message)

/-- The bytes for the standard output, and the directory, after the output is written. -/
def writeOutput (a : Arguments) (result : List UInt8) (d : Directory) :
    Except String (List UInt8 × Directory) :=
  match file? a.output with
  | none => .ok (result, d)
  | some path => ((d.writeFile path result).mapError (·.message)).map ([], ·)

/-- Reads the input, converts it and writes the output, up to the first error. -/
def attempt (a : Arguments) (input : List UInt8) (d : Directory)
    (tokenize : String → List Markdown.SourceEvent := Markdown.eventsOf) :
    Except String (List UInt8 × Directory) := do
  let source ← a.readInput input d
  let result ← a.convert source tokenize
  a.writeOutput result d

/-- An error is told, and nothing is left of an attempt that ends with one. -/
def run (a : Arguments) (input : List UInt8) (d : Directory)
    (tokenize : String → List Markdown.SourceEvent := Markdown.eventsOf) : Outcome :=
  match a.attempt input d tokenize with
  | .ok (output, d) => ⟨0, output, none, d⟩
  | .error message => ⟨1, [], some s!"error: {message}", d⟩

end Arguments

def run (arguments : List String) (input : List UInt8) (d : Directory) : Outcome :=
  match Request.ofArguments arguments with
  | .help => ⟨0, Utf8.encode helpText, none, d⟩
  | .version => ⟨0, Utf8.encode versionText, none, d⟩
  | .faulty => ⟨2, [], none, d⟩
  | .convert a => a.run input d

end WikiMarkup.CommandLine
