import Mathlib.Algebra.Order.Ring.Rat
import Mathlib.Data.Int.ModEq
import Mathlib.Data.Nat.ModEq
import PluralRules.Condition.Holds
import PluralRules.Proofs.Condition.WellFormed
import PluralRules.Proofs.Operand.Digits

/-!
What a condition says of a number, in exact arithmetic. Where no relation asks for the `n` of a
number with a nonzero fraction digit, all values are natural numbers and a condition holds exactly
if what it says is true.
-/

namespace PluralRules

def RangeItem.Covers : RangeItem → ℚ → Prop
  | single value, q => q = value.toNat
  | range low high, q => low.toNat ≤ q ∧ q ≤ high.toNat

/-- Some item covers the number, or, if the relation is negated, none does. -/
def Relation.Meets (relation : Relation) (q : ℚ) : Prop :=
  (∃ item ∈ relation.ranges, item.Covers q) ↔ relation.negated = false

inductive Operand.Names (x : Operand) : Symbol → ℕ → Prop
  | n {k : ℕ} : x.i = k → x.Names .n k
  | i {k : ℕ} : x.i = k → x.Names .i k
  | v : x.Names .v x.v
  | w : x.Names .w x.w
  | f {k : ℕ} : x.f = k → x.Names .f k
  | t {k : ℕ} : x.t = k → x.Names .t k
  | e : x.Names .e 0

/-- The natural number that an expression stands for; a modulus leaves the residue below it. -/
inductive Expression.Denotes (x : Operand) : Expression → ℕ → Prop
  | plain {symbol : Symbol} {k : ℕ} : x.Names symbol k → Denotes x ⟨symbol, none⟩ k
  | reduced {symbol : Symbol} {modulus : UInt32} {k residue : ℕ} : x.Names symbol k →
    residue < modulus.toNat → residue ≡ k [MOD modulus.toNat] →
    Denotes x ⟨symbol, some modulus⟩ residue

def Condition.Meets (condition : Condition) (x : Operand) : Prop :=
  condition.alternatives = [] ∨ ∃ relations ∈ condition.alternatives, ∀ relation ∈ relations,
    ∃ k : ℕ, relation.expression.Denotes x k ∧ relation.Meets k

namespace Operand

variable {x : Operand} {symbol : Symbol} {k : ℕ}

theorem Names.integer_eq (h : x.Names symbol k) : x.integer symbol = k := by
  cases h with
  | n h | i h | f h | t h => exact h
  | v | w | e => rfl

theorem Regular.exists_names (h : x.Regular) (symbol : Symbol) : ∃ k, x.Names symbol k := by
  cases symbol with
  | n => exact ⟨x.i.toNat, .n (Int.toNat_of_nonneg h.i_nonneg).symm⟩
  | i => exact ⟨x.i.toNat, .i (Int.toNat_of_nonneg h.i_nonneg).symm⟩
  | v => exact ⟨_, .v⟩
  | w => exact ⟨_, .w⟩
  | f => exact ⟨x.f.toNat, .f (Int.toNat_of_nonneg h.f_nonneg).symm⟩
  | t => exact ⟨x.t.toNat, .t (Int.toNat_of_nonneg h.t_nonneg).symm⟩
  | e => exact ⟨0, .e⟩

end Operand

namespace Expression

variable {x : Operand} {expression : Expression}

theorem Denotes.eq {k l : ℕ} (hk : expression.Denotes x k) (hl : expression.Denotes x l) :
    k = l := by
  cases hk with
  | plain hk =>
    cases hl with
    | plain hl => exact Nat.cast_injective (hk.integer_eq.symm.trans hl.integer_eq)
  | @reduced symbol modulus value _ hk hlt hmod =>
    cases hl with
    | @reduced _ _ value' _ hl hlt' hmod' =>
      have hvalue : value = value' := Nat.cast_injective (hk.integer_eq.symm.trans hl.integer_eq)
      have hresidue : k ≡ l [MOD modulus.toNat] := hmod.trans (hvalue ▸ hmod'.symm)
      exact hresidue.eq_of_lt_of_lt hlt hlt'

theorem quantity_eq_integer {k : ℕ} (h : expression.Denotes x k)
    (hexact : x.t = 0 ∨ expression.symbol ≠ .n) : expression.quantity x = .integer k := by
  have hinteger : ¬(expression.symbol = .n ∧ x.t ≠ 0) := by tauto
  rw [quantity, if_neg hinteger]
  cases h with
  | plain h => exact congrArg _ h.integer_eq
  | @reduced symbol modulus value _ h hlt hmod =>
    have hresidue : x.integer symbol % modulus.toNat = k := by
      rw [h.integer_eq, ← Int.natCast_mod, ← hmod, Nat.mod_eq_of_lt hlt]
    exact congrArg _ hresidue

theorem exists_denotes (hx : x.Regular) (h : expression.WellFormed) :
    ∃ k, expression.Denotes x k := by
  obtain ⟨symbol, modulus?⟩ := expression
  obtain ⟨value, hvalue⟩ := hx.exists_names symbol
  cases modulus? with
  | none => exact ⟨value, .plain hvalue⟩
  | some modulus =>
    have hpos : 0 < modulus.toNat := h modulus rfl
    exact ⟨value % modulus.toNat, .reduced hvalue (Nat.mod_lt _ hpos) (Nat.mod_modEq ..)⟩

end Expression

theorem RangeItem.contains_integer_iff (item : RangeItem) (k : ℕ) :
    item.contains (.integer k) = true ↔ item.Covers k := by
  cases item with
  | single value => simp [contains, Covers]
  | range low high => simp [contains, Covers]

theorem Relation.holds_iff_of_contains {relation : Relation} {x : Operand} {P : RangeItem → Prop}
    (h : ∀ item, item.contains (relation.expression.quantity x) = true ↔ P item) :
    relation.holds x = true ↔ ((∃ item ∈ relation.ranges, P item) ↔ relation.negated = false) := by
  have hany : relation.ranges.any (fun item => item.contains (relation.expression.quantity x))
      = true ↔ ∃ item ∈ relation.ranges, P item := by
    simp only [List.any_eq_true, h]
  rw [← hany]
  unfold holds
  dsimp only
  cases relation.negated <;> simp

theorem Relation.holds_iff_meets_of_denotes {relation : Relation} {x : Operand} {k : ℕ}
    (h : relation.expression.Denotes x k) (hexact : x.t = 0 ∨ relation.expression.symbol ≠ .n) :
    relation.holds x = true ↔ relation.Meets k := by
  apply Relation.holds_iff_of_contains
  intro item
  rw [Expression.quantity_eq_integer h hexact, RangeItem.contains_integer_iff]

theorem Condition.holds_iff_of_relations {condition : Condition} {x : Operand}
    {P : Relation → Prop}
    (h : ∀ relation ∈ condition.relations, relation.holds x = true ↔ P relation) :
    condition.holds x = true ↔ condition.alternatives = [] ∨
      ∃ relations ∈ condition.alternatives, ∀ relation ∈ relations, P relation := by
  rw [holds, isAlwaysTrue, Bool.or_eq_true, List.isEmpty_iff, List.any_eq_true]
  refine or_congr_right (exists_congr fun relations => and_congr_right fun hrelations => ?_)
  rw [List.all_eq_true]
  refine forall₂_congr fun relation hrelation => h relation ?_
  exact List.mem_flatten_of_mem hrelations hrelation

theorem Relation.holds_withN (relation : Relation) (x : Operand) (n : Double)
    (hexact : x.t = 0 ∨ relation.expression.symbol ≠ .n) :
    relation.holds { x with n := n } = relation.holds x := by
  have hinteger : ¬(relation.expression.symbol = .n ∧ x.t ≠ 0) := by tauto
  have hvalue (symbol : Symbol) : Operand.integer { x with n := n } symbol = x.integer symbol := by
    cases symbol <;> rfl
  simp only [holds, Expression.quantity, if_neg hinteger, hvalue]

namespace Condition

/-- Every expression stands for one natural number, the condition holds exactly if these numbers
meet it, and the double `n` plays no part. -/
theorem holds_iff_meets {numeral : Numeral} {x : Operand} (hx : numeral.operand = .ok x)
    {condition : Condition}
    (hmoduli : ∀ relation ∈ condition.relations, relation.expression.WellFormed)
    (hexact : x.t = 0 ∨ ∀ relation ∈ condition.relations, relation.expression.symbol ≠ .n) :
    (∀ relation ∈ condition.relations, ∃! k, relation.expression.Denotes x k) ∧
      (condition.holds x = true ↔ condition.Meets x) ∧
      ∀ n, condition.holds { x with n := n } = condition.holds x := by
  have hregular := Operand.regular_of_numeral hx
  have hsymbol (relation : Relation) (h : relation ∈ condition.relations) :
      x.t = 0 ∨ relation.expression.symbol ≠ .n :=
    hexact.imp_right fun hn => hn relation h
  refine ⟨fun relation h => ?_, ?_, fun n => ?_⟩
  · obtain ⟨k, hk⟩ := Expression.exists_denotes hregular (hmoduli relation h)
    exact ⟨k, hk, fun l hl => hl.eq hk⟩
  · apply holds_iff_of_relations
    intro relation h
    obtain ⟨k, hk⟩ := Expression.exists_denotes hregular (hmoduli relation h)
    rw [Relation.holds_iff_meets_of_denotes hk (hsymbol relation h)]
    constructor
    · intro hmeets
      exact ⟨k, hk, hmeets⟩
    · rintro ⟨l, hl, hmeets⟩
      rwa [hk.eq hl]
  · rw [Bool.eq_iff_iff, holds_iff_of_relations fun relation h => by
      rw [Relation.holds_withN relation x n (hsymbol relation h)]]
    exact (holds_iff_of_relations fun _ _ => Iff.rfl).symm

theorem holds_iff_meets_beyond_double :
    let x := Operand.ofInt 9007199254740993
    let neighbour : Condition := ⟨[[⟨⟨.n, none⟩, false, [.single 9007199254740992]⟩]]⟩
    let itself : Condition :=
      ⟨[[⟨⟨.n, some 100⟩, true, [.range 94 92]⟩, ⟨⟨.n, none⟩, false, [.single 9007199254740993]⟩]]⟩
    ¬neighbour.Meets x ∧ itself.Meets x ∧ Condition.Meets ⟨[[]]⟩ x := by
  intro x neighbour itself
  have hx : (Numeral.integer 9007199254740993).operand = .ok x := rfl
  refine ⟨?_, ?_, ?_⟩
  · have hmoduli : ∀ relation ∈ neighbour.relations, relation.expression.WellFormed := by decide
    rw [← (holds_iff_meets hx hmoduli (.inl rfl)).2.1]
    decide +kernel
  · have hmoduli : ∀ relation ∈ itself.relations, relation.expression.WellFormed := by decide
    exact (holds_iff_meets hx hmoduli (.inl rfl)).2.1.mp (by decide +kernel)
  · have hmoduli : ∀ relation ∈ Condition.relations ⟨[[]]⟩, relation.expression.WellFormed := by
      decide
    exact (holds_iff_meets hx hmoduli (.inl rfl)).2.1.mp (by decide +kernel)

end Condition

end PluralRules
