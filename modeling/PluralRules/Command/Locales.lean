import PluralRules.Command.Outcome
import PluralRules.Report.Listing

/-!
The command `locales`: the rule sets of a table, as a box or as JSON.
-/

namespace PluralRules.Command

def tableText (table : RuleTable) (showRules : Bool) : String :=
  "\n".intercalate (ruleSetBox table.ruleSets showRules).lines
    ++ s!"\n\n{table.size} locales in {table.ruleSets.length} rule sets\n"

def tableJson (table : RuleTable) : JsonValue :=
  .array (table.ruleSets.map RuleSet.toJson)

def locales (wording : Wording) (files : Files) (rules? : Option String) (showRules json : Bool) :
    Outcome :=
  let loaded := loadTable wording files rules?
  match loaded.table with
  | .error report => ⟨"", loaded.log.map .event, .failed report⟩
  | .ok table =>
    let stdout := if json then (tableJson table).indentedText ++ "\n" else tableText table showRules
    ⟨stdout, loaded.log.map .event, .exit success⟩

end PluralRules.Command
