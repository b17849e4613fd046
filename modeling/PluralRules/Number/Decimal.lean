import PluralRules.Number.Double

/-!
Decimal texts of doubles: the fewest digits from which rounding to the nearest double gives the
number back, laid out either without an exponent or with one outside a window of magnitudes.
-/

namespace PluralRules

structure Decimal where
  digits : Nat
  exponent : Int
deriving DecidableEq

namespace Decimal

def value (d : Decimal) : Rat :=
  d.digits * (10 : Rat) ^ d.exponent

def digitCount (n : Nat) : Nat :=
  (Nat.toDigits 10 n).length

def leadingExponent (q : Rat) : Int :=
  let estimate := (digitCount q.num.natAbs : Int) - digitCount q.den
  if (10 : Rat) ^ estimate ≤ q then estimate else estimate - 1

inductive Tie where
  | upper
  | even
deriving DecidableEq

def normalize (d : Decimal) : Decimal :=
  go d.digits d.exponent
where
  go (digits : Nat) (exponent : Int) : Decimal :=
    if digits ≠ 0 ∧ digits % 10 = 0 then go (digits / 10) (exponent + 1) else ⟨digits, exponent⟩
  termination_by digits

def onGrid? (tie : Tie) (q : Rat) (place : Int) : Option Decimal :=
  let scaled := q / (10 : Rat) ^ place
  let below := scaled.floor.toNat
  let lower : Decimal := ⟨below, place⟩
  let upper : Decimal := ⟨below + 1, place⟩
  let excess := scaled - below
  let preferUpper :=
    1 / 2 < excess || (excess == 1 / 2 && (tie == .upper || below % 2 == 1))
  -- If a decimal of this step reads back as `q`, one of the two next to `q` does.
  let readsBack (d : Decimal) := Double.nearest d.value == .finite q
  if preferUpper then
    if readsBack upper then some upper else if readsBack lower then some lower else none
  else
    if readsBack lower then some lower else if readsBack upper then some upper else none

/-- The fewest digits that read back as `q`, a positive double. Seventeen always do. -/
def shortest (tie : Tie) (q : Rat) : Decimal :=
  let leading := leadingExponent q
  let found := (List.range 17).findSome? fun (more : Nat) => onGrid? tie q (leading - more)
  (found.getD ⟨(q / (10 : Rat) ^ (leading - 16)).floor.toNat, leading - 16⟩).normalize

def plain (d : Decimal) : String :=
  let digits := Nat.toDigits 10 d.digits
  let places := (-d.exponent).toNat
  if 0 ≤ d.exponent then
    String.ofList (digits ++ List.replicate d.exponent.toNat '0')
  else if places < digits.length then
    let whole := digits.length - places
    String.ofList (digits.take whole ++ '.' :: digits.drop whole)
  else
    String.ofList ('0' :: '.' :: List.replicate (places - digits.length) '0' ++ digits)

def scientific (d : Decimal) : String :=
  let digits := Nat.toDigits 10 d.digits
  let power := d.exponent + ((digits.length - 1 : Nat) : Int)
  let mantissa := digits.take 1 ++ (if digits.length = 1 then [] else '.' :: digits.drop 1)
  let sign := if power < 0 then '-' else '+'
  String.ofList (mantissa ++ 'e' :: sign :: Nat.toDigits 10 power.natAbs)

end Decimal

/-- How a double is written: the tie rule of its digits, whether a whole number keeps a point with
a zero behind it, and from which magnitudes on the exponent is written out. -/
structure Double.Layout where
  tie : Decimal.Tie
  pointZero : Bool
  -- The least and the first too great magnitude without an exponent.
  window? : Option (Rat × Rat)
  infinite : String

namespace Double.Layout

def display : Double.Layout := ⟨.upper, false, none, "inf"⟩

def json : Double.Layout := ⟨.even, true, some (1 / 100000, 10 ^ (16 : Nat)), "null"⟩

end Double.Layout

def Double.text (layout : Double.Layout) : Double → String
  | infinite => layout.infinite
  | finite q =>
    let d := if q = 0 then ⟨0, 0⟩ else Decimal.shortest layout.tie q
    let plain := if layout.pointZero && 0 ≤ d.exponent then d.plain ++ ".0" else d.plain
    match layout.window? with
    | none => plain
    | some (low, high) => if q = 0 || (low ≤ q && q < high) then plain else d.scientific

end PluralRules
