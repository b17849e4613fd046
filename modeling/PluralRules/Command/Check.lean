import PluralRules.Command.Outcome

/-!
The command `check`: a loop over the files, in which each is read and built on its own, whatever
becomes of the others.
-/

namespace PluralRules.Command

structure CheckResult where
  file : String
  ok : Bool
  locales? : Option Nat
  ruleSets? : Option Nat
  error? : Option String
deriving DecidableEq

def CheckResult.toJson (result : CheckResult) : JsonValue :=
  .object <| [("file", .string result.file), ("ok", .bool result.ok)]
    ++ (result.locales?.map fun count => ("locales", .integer count)).toList
    ++ (result.ruleSets?.map fun count => ("rule_sets", .integer count)).toList
    ++ (result.error?.map fun message => ("error", .string message)).toList

def green : Nat := 32

def red : Nat := 31

def paint (painted : Bool) (color : Nat) (text : String) : String :=
  if painted then s!"\x1b[{color}m{text}\x1b[39m" else text

def checkFile (wording : Wording) (files : Files) (path : String) : Loaded :=
  let read := readRuleFile wording files path
  { log := read.toOption.elim [] fun records => (RuleTable.loggedBuild records).log
    table := read.bind fun records => (RuleTable.build records).mapError (buildReport path) }

/-- The loop over the files, under way. -/
structure CheckRun where
  results : List CheckResult
  failed : Bool
  stdout : String
  notices : List Notice

namespace CheckRun

def start : CheckRun := ⟨[], false, "", []⟩

variable (painted json : Bool) (path : String)

def accept (table : RuleTable) (run : CheckRun) : CheckRun :=
  let line := paint painted green "ok" ++
    s!" {path}: {table.size} locales, {table.ruleSets.length} rule sets\n"
  { run with
    results := run.results ++
      [⟨path, true, some table.size, some table.ruleSets.length, none⟩]
    stdout := if json then run.stdout else run.stdout ++ line }

def refuse (report : Report) (run : CheckRun) : CheckRun :=
  let line := paint painted red "error" ++ s!" {path}\n"
  { results := run.results ++ [⟨path, false, none, none, some report.message⟩]
    failed := true
    stdout := if json then run.stdout else run.stdout ++ line
    notices := if json then run.notices else run.notices ++ [.report report] }

def step (wording : Wording) (files : Files) (run : CheckRun) (path : String) : CheckRun :=
  let outcome := checkFile wording files path
  let run := { run with notices := run.notices ++ outcome.log.map Notice.event }
  match outcome.table with
  | .ok table => run.accept painted json path table
  | .error report => run.refuse painted json path report

end CheckRun

def check (painted : Bool) (wording : Wording) (files : Files) (paths : List String)
    (json : Bool) : Outcome :=
  let run := paths.foldl (CheckRun.step painted json wording files) .start
  let entries := JsonValue.array (run.results.map CheckResult.toJson)
  { stdout := if json then run.stdout ++ entries.indentedText ++ "\n" else run.stdout
    notices := run.notices
    ending := .exit (if run.failed then dataFailure else success) }

end PluralRules.Command
