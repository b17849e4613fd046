import PluralRules.RuleText.Token

/-!
Why a rule text has no condition. Offsets count UTF-8 bytes of the complete text, samples included.
-/

namespace PluralRules

inductive Expected where
  | operand
  | relationSign
  | value
  | connective
deriving DecidableEq

def Expected.text : Expected → String
  | operand => "operand"
  | relationSign => "'=' or '!='"
  | value => "value"
  | connective => "'and' or 'or'"

inductive RuleFault where
  | strayCharacter (c : Char)
  -- Another token than expected, or none because the condition ends.
  | unexpected (expected : Expected) (found? : Option Token.Kind)
  | emptyRange (low high : UInt64)
  | modulusOutOfRange (value : UInt64)
  | valueTooLarge (digits : List Char)
  | unknownOperand (letter : Char)
deriving DecidableEq

structure RuleError where
  rule : String
  offset : Nat
  fault : RuleFault
deriving DecidableEq

def RuleFault.detail : RuleFault → String
  | strayCharacter c => s!"unexpected character '{c}'"
  | unexpected expected (some found) =>
    s!"expected {expected.text}, found '{String.ofList found.text}'"
  | unexpected expected none => s!"expected {expected.text}, found end of rule"
  | emptyRange low high => s!"empty range {low}..{high}"
  | modulusOutOfRange value => s!"modulus must be between 1 and 4294967295, found {value}"
  | valueTooLarge digits => s!"value {String.ofList digits} does not fit in 64 bits"
  | unknownOperand letter =>
    s!"unknown operand symbol '{letter}', expected one of: n, i, v, w, f, t, e"

def RuleError.message (error : RuleError) : String :=
  match error.fault with
  | .unknownOperand letter =>
    s!"unknown operand symbol '{letter}' at offset {error.offset} in rule '{error.rule}'"
  | fault => s!"malformed rule '{error.rule}' at offset {error.offset}: {fault.detail}"

end PluralRules
