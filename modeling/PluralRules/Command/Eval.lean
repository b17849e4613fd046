import PluralRules.Command.Outcome
import PluralRules.Selector

/-!
The command `eval`: the category of each number, or why it has none. As text, a locale without rules
fails the command at the first valid number; as JSON it is an entry's fault like any other.
-/

namespace PluralRules.Command

structure EvalResult where
  number : String
  found : Except SelectionError (Operand × Category)

namespace EvalResult

def isOk (result : EvalResult) : Bool := result.found.isOk

def toJson (result : EvalResult) : JsonValue :=
  .object <| ("number", .string result.number) ::
    match result.found with
    | .ok (x, category) => [("category", .string category.name), ("operands", x.toJson)]
    | .error error => [("error", .string error.message)]

def line (showOperands : Bool) (result : EvalResult) : String :=
  match result.found with
  | .ok (x, category) =>
    let operands := if showOperands then "\t" ++ x.text else ""
    s!"{result.number}\t{category.name}{operands}\n"
  | .error _ => ""

def errorLine? (result : EvalResult) : Option String :=
  match result.found with
  | .ok _ => none
  | .error error => some s!"{result.number}\terror: {error.message}"

def unknownLocale? (result : EvalResult) : Option UnknownLocale :=
  match result.found with
  | .error (.unknownLocale unknown) => some unknown
  | _ => none

end EvalResult

def evalNumber (selector : Selector) (number : String) : EvalResult where
  number := number
  found := do
    let x ← (Operand.ofLiteral number).mapError .invalidNumber
    let category ← (selector.categoryFor x).mapError .unknownLocale
    return (x, category)

def evalOutcome (results : List EvalResult) (operands json : Bool) (log : List BuildEvent) :
    Outcome :=
  let events := log.map Notice.event
  let code := if results.all EvalResult.isOk then success else dataFailure
  if json then
    ⟨(JsonValue.array (results.map EvalResult.toJson)).indentedText ++ "\n", events, .exit code⟩
  else
    match results.findSome? EvalResult.unknownLocale? with
    | some unknown => ⟨"", events, .failed (.plain unknown.message)⟩
    | none =>
      ⟨String.join (results.map (EvalResult.line operands)),
        events ++ (results.filterMap EvalResult.errorLine?).map .line, .exit code⟩

def eval (wording : Wording) (files : Files) (locale : String) (numbers : List String)
    (rules? fallback? : Option String) (operands json : Bool) : Outcome :=
  let loaded := loadTable wording files rules?
  match loaded.table with
  | .error report => ⟨"", loaded.log.map .event, .failed report⟩
  | .ok table =>
    evalOutcome (numbers.map (evalNumber ⟨table, locale, fallback?⟩)) operands json loaded.log

end PluralRules.Command
