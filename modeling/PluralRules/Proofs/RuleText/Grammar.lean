import PluralRules.Condition.Basic
import PluralRules.RuleText.Token

/-!
The grammar of rule text, as derivations over tokens that carry what they denote:

    condition   := conjunction ('or' conjunction)*
    conjunction := relation ('and' relation)*
    relation    := expression ('=' | '!=') item (',' item)*
    item        := value | value '..' value
    expression  := operand ('%' value)?

A value denotes a number that 64 bits hold, a modulus one from 1 to 2³² - 1, and the first value of
a range is at most the second.
-/

namespace PluralRules.Grammar

open Token (Kind)

def Value (digits : List Char) (value : UInt64) : Prop :=
  value.toNat = Nat.ofDigitChars 10 digits 0

def Modulus (digits : List Char) (modulus : UInt32) : Prop :=
  modulus.toNat = Nat.ofDigitChars 10 digits 0 ∧ 0 < modulus.toNat

inductive Item : List Kind → RangeItem → Prop where
  | single {digits : List Char} {value : UInt64} :
    Value digits value → Item [.number digits] (.single value)
  | range {first last : List Char} {low high : UInt64} :
    Value first low → Value last high → low.toNat ≤ high.toNat →
    Item [.number first, .range, .number last] (.range low high)

inductive Expression : List Kind → PluralRules.Expression → Prop where
  | plain (symbol : Symbol) : Expression [.word [symbol.toChar]] ⟨symbol, none⟩
  | reduced (symbol : Symbol) {digits : List Char} {modulus : UInt32} : Modulus digits modulus →
    Expression [.word [symbol.toChar], .modulo, .number digits] ⟨symbol, some modulus⟩

inductive Separated {α : Type} (separator : Kind) (Phrase : List Kind → α → Prop) :
    List Kind → List α → Prop where
  | last {kinds : List Kind} {a : α} : Phrase kinds a → Separated separator Phrase kinds [a]
  | more {kinds rest : List Kind} {a : α} {others : List α} :
    Phrase kinds a → Separated separator Phrase rest others →
    Separated separator Phrase (kinds ++ separator :: rest) (a :: others)

inductive Sign : Kind → Bool → Prop where
  | equal : Sign .equal false
  | notEqual : Sign .notEqual true

inductive Relation : List Kind → PluralRules.Relation → Prop where
  | mk {left right : List Kind} {sign : Kind} {expression : PluralRules.Expression}
    {negated : Bool} {ranges : List RangeItem} :
    Expression left expression → Sign sign negated → Separated .comma Item right ranges →
    Relation (left ++ sign :: right) ⟨expression, negated, ranges⟩

def Conjunction : List Kind → List PluralRules.Relation → Prop :=
  Separated (.word ['a', 'n', 'd']) Relation

def Condition (kinds : List Kind) (condition : PluralRules.Condition) : Prop :=
  Separated (.word ['o', 'r']) Conjunction kinds condition.alternatives

end PluralRules.Grammar
