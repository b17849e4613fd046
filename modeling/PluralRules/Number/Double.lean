/-!
Binary64 numbers without a sign, as the exact rational values they stand for. Every operation is
the exact one followed by a single rounding to the nearest double, ties to the even neighbour.
-/

namespace PluralRules

inductive Double where
  | finite (value : Rat)
  | infinite
deriving DecidableEq

namespace Double

def roundHalfEven (q : Rat) : Int :=
  let lower := q.floor
  let excess := q - lower
  if excess < 1 / 2 then lower
  else if 1 / 2 < excess then lower + 1
  else if lower % 2 = 0 then lower else lower + 1

def binaryExponent (q : Rat) : Int :=
  let estimate := (Nat.log2 q.num.natAbs : Int) - Nat.log2 q.den
  if (2 : Rat) ^ estimate ≤ q then estimate else estimate - 1

/-- The exponent of the last of the 53 binary places kept of `q`; small numbers keep fewer, since
no place below 2⁻¹⁰⁷⁴ exists. -/
def lastPlace (q : Rat) : Int :=
  let place := binaryExponent q - 52
  if place < -1074 then -1074 else place

def nearest (q : Rat) : Double :=
  let unit := (2 : Rat) ^ lastPlace q
  let rounded := roundHalfEven (q / unit) * unit
  if rounded < (2 : Rat) ^ (1024 : Nat) then finite rounded else infinite

def add : Double → Double → Double
  | finite a, finite b => nearest (a + b)
  | _, _ => infinite

def mul : Double → Double → Double
  | finite a, finite b => nearest (a * b)
  | _, _ => infinite

def div : Double → Double → Double
  | finite a, finite b => nearest (a / b)
  | finite _, infinite => finite 0
  | infinite, _ => infinite

def pow (base : Double) (exponent : Nat) : Double :=
  go base exponent (finite 1)
where
  go (base : Double) (exponent : Nat) (product : Double) : Double :=
    let product := if exponent % 2 = 1 then product.mul base else product
    if exponent < 2 then product else go (base.mul base) (exponent / 2) product
  termination_by exponent

def le : Double → Double → Bool
  | finite a, finite b => a ≤ b
  | _, infinite => true
  | infinite, finite _ => false

end Double

end PluralRules
