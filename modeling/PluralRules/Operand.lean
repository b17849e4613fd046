import PluralRules.Json.Value

/-!
Plural operands: what a rule can ask about a number as it is written. They come from the decimal
text and not from a binary number, because zeros at the end of the fraction count.
-/

namespace PluralRules

/-- The absolute value `n`, the integer part `i`, and the fraction digits: their number and value
with zeros at the end (`v`, `f`) and without them (`w`, `t`). -/
structure Operand where
  n : Double
  i : Int
  v : Nat
  w : Nat
  f : Int
  t : Int
deriving DecidableEq

inductive Literal.Fault where
  | missingFraction
  | missingInteger
  | notDecimal
  | integerTooLarge
  | tooManyFractionDigits
  | fractionTooLarge
deriving DecidableEq

def Literal.Fault.reason : Literal.Fault → String
  | missingFraction => "missing digits after the decimal point"
  | missingInteger => "missing integer digits"
  | notDecimal => "expected only ASCII digits and one decimal point"
  | integerTooLarge => "integer part does not fit in 64 bits"
  | tooManyFractionDigits => "too many fraction digits"
  | fractionTooLarge => "fraction digits do not fit in 64 bits"

structure Literal.Error where
  input : String
  fault : Literal.Fault
deriving DecidableEq

def Literal.Error.message (error : Literal.Error) : String :=
  s!"invalid number format '{error.input}': {error.fault.reason}"

namespace Operand

def maxPart : Nat := 9223372036854775807

def maxPlaces : Nat := 4294967295

def dropSign : List Char → List Char
  | '-' :: text => text
  | '+' :: text => text
  | text => text

def significant (digits : List Char) : List Char :=
  (digits.reverse.dropWhile (· == '0')).reverse

def ofDigits (integer fraction : List Char) : Operand :=
  let i := Nat.ofDigitChars 10 integer 0
  let f := Nat.ofDigitChars 10 fraction 0
  { n := Double.nearest (i + f / (10 : Rat) ^ fraction.length)
    i := i
    v := fraction.length
    w := (significant fraction).length
    f := f
    t := Nat.ofDigitChars 10 (significant fraction) 0 }

def checkDigits (integer fraction : List Char) : Except Literal.Fault Operand :=
  if integer.isEmpty then .error .missingInteger
  else if !(integer ++ fraction).all Char.isDigit then .error .notDecimal
  else if maxPart < Nat.ofDigitChars 10 integer 0 then .error .integerTooLarge
  else if maxPlaces < fraction.length then .error .tooManyFractionDigits
  else if maxPart < Nat.ofDigitChars 10 fraction 0 then .error .fractionTooLarge
  else .ok (ofDigits integer fraction)

def readLiteral (text : List Char) : Except Literal.Fault Operand :=
  let unsigned := dropSign text
  let integer := unsigned.takeWhile (· != '.')
  match unsigned.dropWhile (· != '.') with
  | [] => checkDigits integer []
  | [_] => .error .missingFraction
  | _ :: fraction => checkDigits integer fraction

/-- The operands of a literal such as `-12.50`. -/
def ofLiteral (input : String) : Except Literal.Error Operand :=
  (readLiteral input.toList).mapError fun fault => ⟨input, fault⟩

/-- The operands of an integer; a magnitude above `maxPart` keeps only its nearest double. -/
def ofInt (x : Int) : Operand :=
  { n := Double.nearest (x.natAbs : Rat)
    i := min x.natAbs maxPart
    v := 0
    w := 0
    f := 0
    t := 0 }

def text (x : Operand) : String :=
  s!"n={x.n.text .display} i={x.i} v={x.v} w={x.w} f={x.f} t={x.t} e=0"

def toJson (x : Operand) : JsonValue :=
  .object [("n", .double x.n), ("i", .integer x.i), ("v", .integer x.v), ("w", .integer x.w),
    ("f", .integer x.f), ("t", .integer x.t)]

end Operand

inductive Numeral where
  | literal (text : String)
  | integer (value : Int)
deriving DecidableEq

def Numeral.operand : Numeral → Except Literal.Error Operand
  | literal text => Operand.ofLiteral text
  | integer value => .ok (Operand.ofInt value)

end PluralRules
