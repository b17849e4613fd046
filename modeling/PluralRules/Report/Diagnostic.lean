import PluralRules.Record.Json
import PluralRules.Table.Build

/-!
Diagnostics: messages with the stretch of source text they are about, measured in bytes.
-/

namespace PluralRules

structure Diagnostic where
  message : String
  code : String
  help? : Option String
  label : String
  offset : Nat
  length : Nat
  source : String
  text : String
deriving DecidableEq

def textLines : List Char → List (List Char)
  | [] => []
  | '\r' :: '\n' :: rest => [] :: textLines rest
  | '\n' :: rest => [] :: textLines rest
  | c :: rest =>
    match textLines rest with
    | [] => [[c]]
    | line :: lines => (c :: line) :: lines

namespace Diagnostic

def ruleForm : String :=
  "rules have the form `operand [% modulus] (= | !=) ranges`, joined by `and`/`or`"

/-- Underlines the rule from the fault to the next blank. -/
def ofRuleError (source : String) (error : RuleError) : Diagnostic :=
  let rule := error.rule.toList
  let offset := min error.offset (Text.byteLength rule)
  let marked := (Text.dropBytes offset rule).takeWhile fun c => !Text.isBlank c
  { message := "malformed plural rule: " ++ error.fault.detail
    code := "plurals::rule_syntax"
    help? := match error.fault with
      | .unknownOperand _ => none
      | _ => some ruleForm
    label := "here"
    offset := offset
    length := Text.byteLength marked
    source := source
    text := error.rule }

def ofBuildError? (path : String) : BuildError → Option Diagnostic
  | .ruleCompilation locales category _ source =>
    some (ofRuleError s!"{path} [{locales}] {category.name}" source)
  | _ => none

/-- The byte at a position: all earlier lines with one byte for each line end, then the column. -/
def byteAt (content : List Char) (position : Position) : Nat :=
  let earlier := (textLines content).take (position.line - 1)
  let lines := earlier.flatMap (· ++ ['\n'])
  min (Text.byteLength lines + (position.column - 1)) (Text.byteLength content)

def ofJsonError (path content : String) (error : JsonError) : Diagnostic :=
  { message := "invalid rule file: " ++ error.message
    code := "plurals::rule_file"
    help? := none
    label := "error here"
    offset := byteAt content.toList error.position
    length := 1
    source := path
    text := content }

end Diagnostic

/-- A failure is reported by a message, by a diagnostic, or by a message and the diagnostic that is
its cause. -/
inductive Report where
  | plain (message : String)
  | shown (diagnostic : Diagnostic)
  | caused (message : String) (diagnostic : Diagnostic)
deriving DecidableEq

namespace Report

def message : Report → String
  | plain message => message
  | shown diagnostic => diagnostic.message
  | caused message _ => message

def messages : Report → List String
  | plain message => [message]
  | shown diagnostic => [diagnostic.message]
  | caused message diagnostic => [message, diagnostic.message]

end Report

def buildReport (path : String) (error : BuildError) : Report :=
  match Diagnostic.ofBuildError? path error with
  | some diagnostic => .caused error.message diagnostic
  | none => .plain s!"{path}: {error.message}"

end PluralRules
