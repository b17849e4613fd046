import PluralRules.Condition.Basic
import PluralRules.Operand

/-!
When a condition holds for an operand. All operands are integers but one: `n` of a number with a
nonzero fraction digit is a double, and meets the ranges as a double.
-/

namespace PluralRules

inductive Quantity where
  | integer (k : Int)
  | real (x : Double)
deriving DecidableEq

/-- The modulus reduces the integer part, which is exact; the fraction is added back to it. -/
def Operand.fractional (x : Operand) : Option UInt32 → Double
  | none => x.n
  | some modulus =>
    let whole := Double.nearest (x.i % modulus.toNat : Int)
    let scale := (Double.finite 10).pow x.w
    whole.add ((Double.nearest x.t).div scale)

def Operand.integer (x : Operand) : Symbol → Int
  | .n => x.i
  | .i => x.i
  | .v => x.v
  | .w => x.w
  | .f => x.f
  | .t => x.t
  | .e => 0

def Expression.quantity (expression : Expression) (x : Operand) : Quantity :=
  if expression.symbol = .n ∧ x.t ≠ 0 then .real (x.fractional expression.modulus?)
  else
    match expression.modulus? with
    | none => .integer (x.integer expression.symbol)
    | some modulus => .integer (x.integer expression.symbol % modulus.toNat)

/-- Whether the quantity lies in the range. The bounds of a range are rounded to doubles before a
double is compared with them. -/
def RangeItem.contains : RangeItem → Quantity → Bool
  | single value, .integer k => k == value.toNat
  | range low high, .integer k => (low.toNat : Int) ≤ k && k ≤ high.toNat
  | single value, .real x => x == Double.nearest value.toNat
  | range low high, .real x =>
    (Double.nearest low.toNat).le x && x.le (Double.nearest high.toNat)

def Relation.holds (relation : Relation) (x : Operand) : Bool :=
  let quantity := relation.expression.quantity x
  relation.ranges.any (fun item => item.contains quantity) != relation.negated

def Condition.holds (condition : Condition) (x : Operand) : Bool :=
  condition.isAlwaysTrue ||
    condition.alternatives.any fun relations => relations.all fun relation => relation.holds x

end PluralRules
