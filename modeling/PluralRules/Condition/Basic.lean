/-!
Conditions as trees: alternatives joined by `or`, each a list of relations joined by `and`, each a
relation between an operand, possibly reduced by a modulus, and a list of ranges.
-/

namespace PluralRules

/-- The letters by which a rule names an operand. The compact exponent `e` is always zero. -/
inductive Symbol where
  | n
  | i
  | v
  | w
  | f
  | t
  | e
deriving DecidableEq

namespace Symbol

def toChar : Symbol → Char
  | n => 'n'
  | i => 'i'
  | v => 'v'
  | w => 'w'
  | f => 'f'
  | t => 't'
  | e => 'e'

def ofChar? : Char → Option Symbol
  | 'n' => some n
  | 'i' => some i
  | 'v' => some v
  | 'w' => some w
  | 'f' => some f
  | 't' => some t
  | 'e' => some e
  | _ => none

theorem ofChar?_toChar (symbol : Symbol) : ofChar? symbol.toChar = some symbol := by
  cases symbol <;> rfl

theorem toChar_of_ofChar? {c : Char} {symbol : Symbol} (h : ofChar? c = some symbol) :
    symbol.toChar = c := by
  unfold ofChar? at h
  split at h <;> cases h <;> rfl

end Symbol

structure Expression where
  symbol : Symbol
  modulus? : Option UInt32
deriving DecidableEq

inductive RangeItem where
  | single (value : UInt64)
  | range (low high : UInt64)
deriving DecidableEq

structure Relation where
  expression : Expression
  negated : Bool
  ranges : List RangeItem
deriving DecidableEq

/-- Without alternatives a condition holds always; rule text never reads as such a one. -/
structure Condition where
  alternatives : List (List Relation)
deriving DecidableEq

namespace Condition

def isAlwaysTrue (condition : Condition) : Bool :=
  condition.alternatives.isEmpty

def relations (condition : Condition) : List Relation :=
  condition.alternatives.flatten

end Condition

end PluralRules
