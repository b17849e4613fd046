import PluralRules.Command.Run

/-!
The program on the console: the files that the arguments name are read, and all else is decided by
`Command.runProgram`. Where libraries choose the words there are plain lines in their place.
-/

namespace PluralRules.Console

open Command

def eventText (event : BuildEvent) : String :=
  let fields := event.fields.map fun (name, value) => s!" {name}={value}"
  s!"{event.level} {event.message}{String.join fields}\n"

def reportText (report : Report) : String :=
  String.join (report.messages.map (· ++ "\n"))

/-- Plain words in place of those of the libraries. -/
def plainWording : Wording where
  jsonError _ := ⟨"not a JSON text", ⟨1, 0⟩⟩
  event := eventText
  report := reportText
  usage _ := "Usage: plurals [OPTIONS] <COMMAND>\n"

def failureText : IO.Error → String
  | .noFileOrDirectory .. => "No such file or directory (os error 2)"
  | .permissionDenied .. => "Permission denied (os error 13)"
  | .inappropriateType _ code _ =>
    if code = 21 then "Is a directory (os error 21)" else "Not a directory (os error 20)"
  | error => toString error

def readText (path : String) : IO (Except String String) := do
  match ← (IO.FS.readBinFile path).toBaseIO with
  | .error error => return .error (failureText error)
  | .ok bytes =>
    match String.fromUTF8? bytes with
    | some text => return .ok text
    | none => return .error "stream did not contain valid UTF-8"

end PluralRules.Console

/-- Runs the program on the given arguments; the result is the exit code. -/
def main (arguments : List String) : IO UInt32 := do
  let texts ← (PluralRules.Command.neededFiles arguments).mapM fun path => do
    return (path, ← PluralRules.Console.readText path)
  let terminal ← (← IO.getStdout).isTty
  let files : PluralRules.Command.Files := fun path =>
    (texts.lookup path).getD (.error "file not read")
  let wording := PluralRules.Console.plainWording
  let exit := PluralRules.Command.runProgram wording arguments terminal files
  IO.print exit.stdout
  IO.eprint exit.stderr
  return exit.code
