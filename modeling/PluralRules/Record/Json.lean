import PluralRules.Json.Shape
import PluralRules.Json.Value
import PluralRules.Record.Basic

/-!
Rule records as JSON: a list of objects with the fields `locales` and `rules`, each rule an object
with the fields `category` and `rule`. What is written reads back as the same records.
-/

namespace PluralRules

def RuleEntry.toJson (entry : RuleEntry) : JsonValue :=
  .object [("category", .string entry.category.name), ("rule", .string entry.text)]

def RuleRecord.toJson (record : RuleRecord) : JsonValue :=
  .object [
    ("locales", .array (record.locales.map .string)),
    ("rules", .array (record.rules.map RuleEntry.toJson))]

def recordsJson (records : List RuleRecord) : JsonValue :=
  .array (records.map RuleRecord.toJson)

namespace Json

def categoryName : Reader Fault Char Category := fun text => do
  let name ← stringRest text
  match Category.ofName name.value with
  | .ok category => .ok (name.map fun _ => category)
  | .error _ =>
    .error (.mismatch (.unknownVariant name.value (Category.all.map Category.name)) name.rest)

def null : Reader Fault Char Unit :=
  skipping fun
    | [] => .error .endOfText
    | 'n' :: text => wordBehind 'n' ['u', 'l', 'l'] text
    | text => .error (wrongType "unit" text)

/-- The category in an object, from behind the opening brace: its name, with null as the value. A
name that is no string, as in `{1:null}`, is a fault of syntax, as any other key that is none. -/
def taggedCategory : Reader Fault Char Category := fun text => do
  let category ← quotedName categoryName text
  let colon ← colon category.rest
  let null ← null colon.rest
  let brace ← closing '\x7d' null.rest
  .ok (category.join (colon.join (null.join brace ()) ()) category.value)

def category : Reader Fault Char Category :=
  skipping fun
    | [] => .error .endOfText
    | '"' :: text => do .ok ((← categoryName text).behind '"')
    | '\x7b' :: text => do .ok ((← taggedCategory text).behind '\x7b')
    | _ => .error .grammar

def entry : Reader Fault Char RuleEntry := fun text => do
  let pair ← pairOf ⟨"struct RuleEntry", "category", "rule"⟩ category string text
  .ok (pair.map fun (category, rule) => ⟨category, rule⟩)

def record : Reader Fault Char RuleRecord := fun text => do
  let pair ← pairOf ⟨"struct RuleRecord", "locales", "rules"⟩ (listOf string) (listOf entry) text
  .ok (pair.map fun (locales, rules) => ⟨locales, rules⟩)

def records (text : List Char) : Except Fault (List RuleRecord) := do
  let records ← listOf record text
  if (skipSpaces records.rest).isEmpty then .ok records.value else .error .grammar

end Json

/-- A place in a text: the line from 1 on, and how many bytes of the line lie before the place. -/
structure Position where
  line : Nat
  column : Nat
deriving DecidableEq

def Position.ofUnread (text unread : List Char) : Position :=
  let read := text.take (text.length - unread.length)
  ⟨read.count '\n' + 1, Text.byteLength (read.reverse.takeWhile (· != '\n'))⟩

inductive RecordsError where
  | endOfText
  | grammar
  | mismatch (cause : Json.Mismatch) (position : Position)
deriving DecidableEq

/-- What a reader of JSON says of a text that it refuses: why, and how far it has come. -/
structure JsonError where
  reason : String
  position : Position
deriving DecidableEq

def JsonError.message (error : JsonError) : String :=
  s!"{error.reason} at line {error.position.line} column {error.position.column}"

/-- What is said of the error; `syntactic` is said of a text that ends too early or breaks the
grammar. -/
def RecordsError.toJsonError (syntactic : JsonError) : RecordsError → JsonError
  | endOfText => syntactic
  | grammar => syntactic
  | mismatch cause position => ⟨cause.text, position⟩

def readRecords (text : String) : Except RecordsError (List RuleRecord) :=
  (Json.records text.toList).mapError fun
    | .endOfText => .endOfText
    | .grammar => .grammar
    | .mismatch cause unread => .mismatch cause (.ofUnread text.toList unread)

end PluralRules
