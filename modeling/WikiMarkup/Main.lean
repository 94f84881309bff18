import WikiMarkup.CommandLine.Program

/-!
The executable: it reads the bytes that the arguments name, converts them and writes the result.
-/

namespace WikiMarkup.CommandLine

partial def readToEnd (stream : IO.FS.Stream) (read : ByteArray) : IO ByteArray := do
  let chunk ← stream.read 65536
  if chunk.isEmpty then return read else readToEnd stream (read ++ chunk)

def describe : IO.Error → String
  | .noFileOrDirectory .. => FileError.notFound.message
  | .inappropriateType _ 20 _ => FileError.notDirectory.message
  | .inappropriateType .. => FileError.isDirectory.message
  | e => toString e

/-- Carries out a conversion; gives the exit code. -/
def perform (a : Arguments) : IO UInt32 := do
  let report (message : String) : IO UInt32 := do
    (← IO.getStderr).putStrLn s!"error: {message}"
    return 1
  try
    let source ←
      match Arguments.file? a.input with
      | none => readToEnd (← IO.getStdin) .empty
      | some path => IO.FS.readBinFile path
    match a.convert source.toList with
    | .error message => report message
    | .ok result =>
        let bytes := ByteArray.mk result.toArray
        match Arguments.file? a.output with
        | none =>
            let stdout ← IO.getStdout
            stdout.write bytes
            stdout.flush
        | some path => IO.FS.writeBinFile path bytes
        return 0
  catch e => report (describe e)

end WikiMarkup.CommandLine

open WikiMarkup.CommandLine in
def main (arguments : List String) : IO UInt32 := do
  match Request.ofArguments arguments with
  | .help =>
      IO.print helpText
      return 0
  | .version =>
      IO.print versionText
      return 0
  | .faulty =>
      (← IO.getStderr).putStrLn "error: faulty arguments; try --help"
      return 2
  | .convert a => perform a
