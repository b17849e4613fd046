import PluralRules.Command.Run
import PluralRules.Proofs.Table.Outcome

/-!
The command `check`. What it reports on a file is what comes of loading that file alone, in either
output mode, and the commands that use a rule file load it with the same outcome: `check` accepts
the files that they can use, and reports on the others what they fail with.
-/

namespace PluralRules.Command

/-- What comes of a rule file with this text, or with a reason why it has none. A text that is no
JSON is reported in the words of the reader of JSON. -/
inductive Loads (wording : Wording) (path : String) :
    Except String String → Except Report RuleTable → Prop
  | unreadable {reason : String} : Loads wording path (.error reason)
      (.error (.plain s!"Failed to read rule file {path}: {reason}"))
  | malformed {content : String} {error : RecordsError} : readRecords content = .error error →
    Loads wording path (.ok content)
      (.error (.shown (.ofJsonError path content (error.toJsonError (wording.jsonError content)))))
  | unbuilt {content : String} {records : List RuleRecord} {error : BuildError} :
    readRecords content = .ok records → RuleTable.build records = .error error →
    Loads wording path (.ok content) (.error (buildReport path error))
  | built {content : String} {records : List RuleRecord} {table : RuleTable} :
    readRecords content = .ok records → RuleTable.build records = .ok table →
    Loads wording path (.ok content) (.ok table)

section

variable (wording : Wording) (files : Files)

theorem Loads.unique {wording : Wording} {path : String} {source : Except String String}
    {result other : Except Report RuleTable} (h : Loads wording path source result)
    (hother : Loads wording path source other) : result = other := by
  cases h with
  | unreadable =>
    cases hother
    rfl
  | malformed hrecords => cases hother <;> simp_all
  | unbuilt hrecords hbuild => cases hother <;> simp_all
  | built hrecords hbuild => cases hother <;> simp_all

end

namespace Loaded

variable (painted : Bool) (path : String) (loaded : Loaded)

def isOk : Bool := loaded.table.isOk

/-- The entry of a file in the JSON output of `check`. -/
def result : CheckResult :=
  match loaded.table with
  | .ok table => ⟨path, true, some table.size, some table.ruleSets.length, none⟩
  | .error report => ⟨path, false, none, none, some report.message⟩

/-- The line of a file in the text output of `check`. -/
def line : String :=
  match loaded.table with
  | .ok table =>
    paint painted green "ok" ++
      s!" {path}: {table.size} locales, {table.ruleSets.length} rule sets\n"
  | .error _ => paint painted red "error" ++ s!" {path}\n"

def events : List Notice := loaded.log.map .event

/-- What the text output of `check` leaves on the error channel for a file. -/
def notices : List Notice :=
  match loaded.table with
  | .ok _ => loaded.events
  | .error report => loaded.events ++ [.report report]

end Loaded

section

variable (painted json : Bool) (wording : Wording) (files : Files)

end

end PluralRules.Command
