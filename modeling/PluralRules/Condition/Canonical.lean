import PluralRules.Condition.Basic

/-!
The canonical text of a condition: single blanks around words and signs, none in a list of ranges.
-/

namespace PluralRules

def Expression.canonical (expression : Expression) : List Char :=
  match expression.modulus? with
  | none => [expression.symbol.toChar]
  | some modulus => expression.symbol.toChar :: " % ".toList ++ Nat.toDigits 10 modulus.toNat

def RangeItem.canonical : RangeItem → List Char
  | single value => Nat.toDigits 10 value.toNat
  | range low high => Nat.toDigits 10 low.toNat ++ '.' :: '.' :: Nat.toDigits 10 high.toNat

def Relation.canonical (relation : Relation) : List Char :=
  relation.expression.canonical ++ (if relation.negated then " != " else " = ").toList
    ++ [','].intercalate (relation.ranges.map RangeItem.canonical)

def conjunctionText (relations : List Relation) : List Char :=
  " and ".toList.intercalate (relations.map Relation.canonical)

def Condition.canonical (condition : Condition) : List Char :=
  " or ".toList.intercalate (condition.alternatives.map conjunctionText)

def Condition.text (condition : Condition) : String :=
  String.ofList condition.canonical

end PluralRules
