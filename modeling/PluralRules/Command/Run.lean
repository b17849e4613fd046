import PluralRules.Command.Arguments
import PluralRules.Command.Check
import PluralRules.Command.Eval
import PluralRules.Command.Locales

/-!
Running the program: the arguments are read, the action they ask for is carried out, and what it
leaves is shared out between the two channels and the exit code.
-/

namespace PluralRules.Command

def Color.paints (terminal : Bool) : Color → Bool
  | auto => terminal
  | always => true
  | never => false

namespace Action

def run (wording : Wording) (painted : Bool) (files : Files) : Action → Outcome
  | check paths json => Command.check painted wording files paths json
  | eval locale numbers rules? fallback? operands json =>
    Command.eval wording files locale numbers rules? fallback? operands json
  | locales rules? showRules json => Command.locales wording files rules? showRules json

def paths : Action → List String
  | check paths _ => paths
  | eval _ _ rules? _ _ _ => rules?.toList
  | locales rules? _ _ => rules?.toList

end Action

structure Exit where
  stdout : String
  stderr : String
  code : UInt32
deriving DecidableEq

namespace Wording

def notice (wording : Wording) (verbose : Bool) : Notice → String
  | .event event => if verbose then wording.event event else ""
  | .report report => wording.report report
  | .line text => text ++ "\n"

def written (wording : Wording) (verbose : Bool) (notices : List Notice) : String :=
  String.join (notices.map (wording.notice verbose))

end Wording

def Outcome.exit (wording : Wording) (verbose : Bool) (outcome : Outcome) : Exit :=
  ⟨outcome.stdout, wording.written verbose outcome.errors, outcome.code⟩

def Invocation.run (wording : Wording) (terminal : Bool) (files : Files)
    (invocation : Invocation) : Outcome :=
  invocation.action.run wording (invocation.color.paints terminal) files

def versionText : String := "plurals 0.1.0\n"

def UsageError.exit (wording : Wording) : UsageError → Exit
  | version => ⟨versionText, "", success⟩
  | help => ⟨wording.usage help, "", success⟩
  | error => ⟨"", wording.usage error, usageFailure⟩

def neededFiles (arguments : List String) : List String :=
  match readArguments arguments with
  | .error _ => []
  | .ok invocation => invocation.action.paths

/-- The program as a whole; `terminal` says whether its output is seen on one. -/
def runProgram (wording : Wording) (arguments : List String) (terminal : Bool) (files : Files) :
    Exit :=
  match readArguments arguments with
  | .error error => error.exit wording
  | .ok invocation => (invocation.run wording terminal files).exit wording invocation.verbose

end PluralRules.Command
