import PluralRules.Bundled.Lookup
import PluralRules.Command.Progress
import PluralRules.Report.Diagnostic

/-!
What a command writes and how it ends, and the reading and loading of rule files that commands
share. Commands see files through a function from paths, so that they are functions themselves, and
what libraries put in words is left to them.
-/

namespace PluralRules.Command

/-- The words of the libraries below the program: of the reader of JSON about a text that ends too
early or breaks the grammar, and what is written for an event of the log, for the report of a
failure, and for arguments that ask for no action. -/
structure Wording where
  jsonError : String → JsonError
  event : BuildEvent → String
  report : Report → String
  usage : UsageError → String

inductive Notice where
  | event (event : BuildEvent)
  | report (report : Report)
  | line (text : String)
deriving DecidableEq

inductive Ending where
  | exit (code : UInt32)
  | failed (report : Report)
deriving DecidableEq

def success : UInt32 := 0

def usageFailure : UInt32 := 2

def dataFailure : UInt32 := 65

structure Outcome where
  stdout : String
  notices : List Notice
  ending : Ending
deriving DecidableEq

namespace Outcome

def code (outcome : Outcome) : UInt32 :=
  match outcome.ending with
  | .exit code => code
  | .failed _ => dataFailure

def errors (outcome : Outcome) : List Notice :=
  match outcome.ending with
  | .exit _ => outcome.notices
  | .failed report => outcome.notices ++ [.report report]

end Outcome

abbrev Files : Type := String → Except String String

def readRuleFile (wording : Wording) (files : Files) (path : String) :
    Except Report (List RuleRecord) := do
  let content ← (files path).mapError fun reason =>
    .plain s!"Failed to read rule file {path}: {reason}"
  (readRecords content).mapError fun error =>
    .shown (.ofJsonError path content (error.toJsonError (wording.jsonError content)))

structure Loaded where
  log : List BuildEvent
  table : Except Report RuleTable

def loadTable (wording : Wording) (files : Files) : Option String → Loaded
  | some path =>
    match readRuleFile wording files path with
    | .error report => ⟨[], .error report⟩
    | .ok records =>
      let build := RuleTable.loggedBuild records
      ⟨build.log, build.result.mapError (buildReport path)⟩
  | none =>
    let build := Bundled.loggedTable
    ⟨build.log, build.result.mapError fun error =>
      .plain s!"Bundled CLDR rules are invalid: {error.message}"⟩

end PluralRules.Command
