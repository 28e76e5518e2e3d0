import SchemaBinding.CommandLine.Run

/-! # The program
Reads the files that a command line asks for, and writes the result of its request. -/

namespace SchemaBinding.CommandLine

/-- Reads a file. -/
def readFile (path : String) : IO (Except ReadError String) := do
  try
    return textOfBytes (← IO.FS.readBinFile path)
  catch
    | .noFileOrDirectory .. => return .error .notFound
    | .inappropriateType _ 21 _ => return .error .isDirectory
    | .inappropriateType .. => return .error .notDirectory
    | .invalidArgument _ _ "name too long" => return .error .nameTooLong
    | e => return .error (.failed (toString e))

end SchemaBinding.CommandLine

open SchemaBinding CommandLine in
/-- Runs a command line. -/
def main (args : List String) : IO UInt32 := do
  match Request.ofArguments? args with
  | none =>
    IO.eprint ("error: wrong usage\n\n" ++ helpText .program)
    return 2
  | some request =>
    let read ← request.paths.mapM fun path => return (path, ← readFile path)
    let files : FileStore := fun path => (read.lookup path).getD (.error .notFound)
    let result := request.result files
    IO.print result.output
    IO.eprint result.errors
    return result.exit.toUInt32
