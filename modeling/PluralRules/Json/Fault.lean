import PluralRules.Number.Decimal
import PluralRules.Text.Quoted

/-!
Why a text cannot be read as JSON of a given shape: it ends too early, it breaks the grammar, or it
holds something else than expected. Only the last has a text and a place of its own.
-/

namespace PluralRules.Json

inductive Number where
  | integer (k : Int)
  | double (negative : Bool) (x : Double)
deriving DecidableEq

inductive Found where
  | null
  | bool (b : Bool)
  | number (value : Number)
  | string (s : String)
  | sequence
  | map
deriving DecidableEq

def Found.text : Found → String
  | null => "null"
  | bool b => s!"boolean `{b}`"
  | number (.integer k) => s!"integer `{k}`"
  | number (.double negative x) =>
    let sign := if negative then "-" else ""
    s!"floating point `{sign}{x.text .json}`"
  | string s => s!"string {Text.quoted s}"
  | sequence => "sequence"
  | map => "map"

inductive Mismatch where
  | wrongType (found : Found) (expected : String)
  -- The array form of a value with two fields has fewer elements.
  | tooShort (length : Nat) (expected : String)
  | missingField (name : String)
  | duplicateField (name : String)
  | unknownVariant (name : String) (known : List String)
deriving DecidableEq

def Mismatch.text : Mismatch → String
  | wrongType found expected => s!"invalid type: {found.text}, expected {expected}"
  | tooShort length expected => s!"invalid length {length}, expected {expected} with 2 elements"
  | missingField name => s!"missing field `{name}`"
  | duplicateField name => s!"duplicate field `{name}`"
  | unknownVariant name known =>
    let choices := ", ".intercalate (known.map fun choice => s!"`{choice}`")
    s!"unknown variant `{name}`, expected one of {choices}"

/-- A mismatch is reported at the text that is then still unread. -/
inductive Fault where
  | endOfText
  | grammar
  | mismatch (cause : Mismatch) (unread : List Char)

end PluralRules.Json
