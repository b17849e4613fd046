import PluralRules.Json.Fault
import PluralRules.Reading

/-!
Numbers in JSON text. An integer that 64 bits hold is exact. Any other number becomes a double in
steps: the leading digits as an integer below 2⁶⁴, then powers of ten, each step rounded.
-/

namespace PluralRules.Json

structure NumberText where
  negative : Bool
  whole : List Char
  fraction : List Char
  exponent? : Option (Bool × List Char)

def digits (atEnd : Fault) : Reader Fault Char (List Char)
  | [] => .error atEnd
  | c :: text =>
    if c.isDigit then
      .ok ⟨c :: text.takeWhile Char.isDigit, text.dropWhile Char.isDigit,
        Nat.lt_succ_of_le (length_dropWhile_le _ _)⟩
    else .error .grammar

def exponent (atEnd : Fault) : Reader Fault Char (Bool × List Char)
  | '-' :: text => do .ok (((← digits atEnd text).map (true, ·)).behind '-')
  | '+' :: text => do .ok (((← digits atEnd text).map (false, ·)).behind '+')
  | text => do .ok ((← digits atEnd text).map (false, ·))

def unsignedText (atEnd : Fault) (negative : Bool) : Reader Fault Char NumberText := fun text => do
  let whole ← digits atEnd text
  if whole.value.head? = some '0' ∧ 1 < whole.value.length then .error .grammar
  else
    let decimal ← whole.optionally (· == '.') (digits atEnd)
    let number ← decimal.optionally (fun c => c == 'e' || c == 'E') (exponent atEnd)
    .ok (number.map fun ((whole, fraction?), exponent?) =>
      ⟨negative, whole, fraction?.getD [], exponent?⟩)

def numberText (atEnd : Fault) : Reader Fault Char NumberText
  | '-' :: text => do .ok ((← unsignedText atEnd true text).behind '-')
  | text => unsignedText atEnd false text

def gather (significand : Nat) : List Char → Nat × Nat
  | [] => (significand, 0)
  | c :: rest =>
    let more := Nat.ofDigitChars 10 [c] significand
    if more < UInt64.size then gather more rest else (significand, rest.length + 1)

def maxPower : Nat := 308

def powerOfTen (k : Nat) : Double := Double.nearest ((10 : Rat) ^ k)

def scaleUp? (x : Double) (k : Nat) : Option Double :=
  if k ≤ maxPower then
    let product := x.mul (powerOfTen k)
    if product = .infinite then none else some product
  else if x = .finite 0 then some x else none

def scaleDown (x : Double) (k : Nat) : Double :=
  if k ≤ maxPower then x.div (powerOfTen k)
  else if x = .finite 0 then x
  else scaleDown (x.div (powerOfTen maxPower)) (k - maxPower)
termination_by k
decreasing_by simp only [maxPower] at *; omega

def scale? (significand : Nat) (power : Int) : Option Double :=
  let x := Double.nearest significand
  if power < 0 then some (scaleDown x power.natAbs) else scaleUp? x power.natAbs

def applyExponent? (significand : Nat) (power : Int) : Option (Bool × List Char) → Option Double
  | none => scale? significand power
  | some (negative, written) =>
    let size := Nat.ofDigitChars 10 written 0
    if size < 2147483648 then scale? significand (if negative then power - size else power + size)
    else if significand = 0 ∨ negative then some (.finite 0) else none

def NumberText.value? (number : NumberText) : Option Number :=
  let (whole, dropped) := gather 0 number.whole
  if number.fraction.isEmpty ∧ number.exponent?.isNone ∧ dropped = 0 then
    if ¬number.negative then some (.integer whole)
    else if 0 < whole ∧ whole ≤ 9223372036854775808 then some (.integer (-whole))
    else some (.double true (Double.nearest whole))
  else
    let (significand, surplus) := gather whole number.fraction
    let places := number.fraction.length - surplus
    (applyExponent? significand ((dropped : Int) - places) number.exponent?).map
      (.double number.negative)

end PluralRules.Json
