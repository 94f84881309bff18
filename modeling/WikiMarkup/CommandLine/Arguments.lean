/-!
The arguments of the program. They are judged one by one from the left: a fault ends the reading at
once, and so does a request for help or for the version, whatever follows.
-/

namespace WikiMarkup.CommandLine

/-- What a conversion is asked to do. A missing name, or a single
hyphen, stands for the standard streams. -/
structure Arguments where
  input : Option String := none
  output : Option String := none
  lineNumbers : Bool := false
  verbosity : Nat := 0
  deriving DecidableEq

inductive Request where
  | help
  | version
  | faulty
  | convert (arguments : Arguments)
  deriving DecidableEq

namespace Arguments

/-- Names the input; it must not be empty, and there is only one. -/
def withInput (a : Arguments) (name : String) : Except Request Arguments :=
  if name.isEmpty || a.input.isSome then .error .faulty else .ok { a with input := some name }

/-- Names the output; it must not be empty, and there is only one. -/
def withOutput (a : Arguments) (name : String) : Except Request Arguments :=
  if name.isEmpty || a.output.isSome then .error .faulty else .ok { a with output := some name }

/-- Asks for line numbers, which can be done once. -/
def withLineNumbers (a : Arguments) : Except Request Arguments :=
  if a.lineNumbers then .error .faulty else .ok { a with lineNumbers := true }

def moreVerbose (a : Arguments) : Arguments := { a with verbosity := a.verbosity + 1 }

/-- Reads short options that are written together, after their hyphen. Tells also whether the name
of the output is still to come in the next argument. -/
def readShort (a : Arguments) : List Char → Except Request (Arguments × Bool)
  | [] => .ok (a, false)
  | 'v' :: rest => readShort a.moreVerbose rest
  | 'h' :: _ => .error .help
  | 'V' :: _ => .error .version
  | ['o'] => .ok (a, true)
  | 'o' :: '=' :: name => (a.withOutput (String.ofList name)).map (·, false)
  | 'o' :: name => (a.withOutput (String.ofList name)).map (·, false)
  | _ => .error .faulty

/-- Reads a long option after its hyphens. Tells also whether the name of the output is still to
come in the next argument. -/
def readLong (a : Arguments) (option : List Char) : Except Request (Arguments × Bool) :=
  let name := option.takeWhile (· ≠ '=')
  match String.ofList name, option.drop name.length with
  | "output", [] => .ok (a, true)
  | "output", _ :: value => (a.withOutput (String.ofList value)).map (·, false)
  | "linenumbers", [] => a.withLineNumbers.map (·, false)
  | "verbose", [] => .ok (a.moreVerbose, false)
  | "help", [] => .error .help
  | "version", [] => .error .version
  | _, _ => .error .faulty

/-- Reads arguments after the one that ends the options. -/
def readNames (a : Arguments) : List String → Except Request Arguments
  | [] => .ok a
  | name :: rest => do readNames (← a.withInput name) rest

/-- Reads arguments; `awaitsOutput` says that the first of them must be the name of the output. -/
def read (a : Arguments) (awaitsOutput : Bool) : List String → Except Request Arguments
  | [] => if awaitsOutput then .error .faulty else .ok a
  | argument :: rest =>
      match argument.toList with
      | '-' :: second :: more =>
          if awaitsOutput then .error .faulty
          else if second = '-' then
            if more.isEmpty then readNames a rest
            else do
              let (a, awaits) ← a.readLong more
              read a awaits rest
          else do
            let (a, awaits) ← a.readShort (second :: more)
            read a awaits rest
      | _ => do
          let a ← if awaitsOutput then a.withOutput argument else a.withInput argument
          read a false rest

end Arguments

def Request.ofArguments (arguments : List String) : Request :=
  match Arguments.read {} false arguments with
  | .ok a => .convert a
  | .error request => request

def versionText : String := "md2confluence 0.1.0\n"

def helpLines : List String :=
  ["Convert markdown to Confluence wiki markup",
    "",
    "Usage: md2confluence [OPTIONS] [INPUT]",
    "",
    "Arguments:",
    "  [INPUT]  Input file (use - or omit for stdin)",
    "",
    "Options:",
    "  -o, --output <OUTPUT>  Output file (use - or omit for stdout)",
    "      --linenumbers      Number the lines of every code block",
    "  -v, --verbose...       Log more (-v for info, -vv for debug, -vvv for trace)",
    "  -h, --help             Print help",
    "  -V, --version          Print version"]

def helpText : String := String.join (helpLines.map (· ++ "\n"))

end WikiMarkup.CommandLine
