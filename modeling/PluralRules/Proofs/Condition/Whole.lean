import Mathlib.Data.List.Basic
import PluralRules.Condition.Holds
import PluralRules.Proofs.Condition.WellFormed
import PluralRules.Proofs.Operand.Literal

/-!
Conditions on whole numbers: those that have no fraction digit but zeros. Such a number is its
integer part and the number of its zeros. A coarse condition, one with small bounds whose moduli
divide 100, cannot tell it from one of finitely many samples; a modulus of one million may ask for
the multiples.
-/

namespace PluralRules

namespace Operand

structure IsWhole (x : Operand) (k v : ℕ) : Prop where
  i_eq : x.i = k
  v_eq : x.v = v
  w_eq : x.w = 0
  f_eq : x.f = 0
  t_eq : x.t = 0

theorem exists_isWhole {numeral : Numeral} {x : Operand} (h : numeral.operand = .ok x)
    (ht : x.t = 0) : ∃ k, x.IsWhole k x.v := by
  have hcoherent := coherent_of_numeral h
  have hi : x.i = x.i.toNat := (Int.toNat_of_nonneg hcoherent.i_nonneg).symm
  have hf : x.f = 0 := by rw [hcoherent.f_eq, ht, zero_mul]
  exact ⟨x.i.toNat, hi, rfl, hcoherent.t_eq_zero_iff.mp ht, hf, ht⟩

theorem t_eq_zero_of_v {numeral : Numeral} {x : Operand} (h : numeral.operand = .ok x)
    (hv : x.v = 0) : x.t = 0 := by
  have hcoherent := coherent_of_numeral h
  have hw := hcoherent.w_le
  exact hcoherent.t_eq_zero_iff.mpr (by omega)

end Operand

def Symbol.wholeValue (k v : ℕ) : Symbol → ℕ
  | .n | .i => k
  | .v => v
  | .w | .f | .t | .e => 0

def Expression.wholeValue (k v : ℕ) (expression : Expression) : ℕ :=
  match expression.modulus? with
  | none => expression.symbol.wholeValue k v
  | some modulus => expression.symbol.wholeValue k v % modulus.toNat

def RangeItem.admits (k : ℕ) : RangeItem → Bool
  | single value => Nat.beq k value.toNat
  | range low high => Nat.ble low.toNat k && Nat.ble k high.toNat

def Relation.admits (k v : ℕ) (relation : Relation) : Bool :=
  relation.ranges.any (RangeItem.admits (relation.expression.wholeValue k v)) != relation.negated

def Condition.admits (k v : ℕ) (condition : Condition) : Bool :=
  condition.alternatives.any fun relations => relations.all (Relation.admits k v)

section

variable {x : Operand} {k v : ℕ}

theorem Symbol.integer_eq_wholeValue (h : x.IsWhole k v) (symbol : Symbol) :
    x.integer symbol = symbol.wholeValue k v := by
  cases symbol <;> simp [Operand.integer, wholeValue, h.i_eq, h.v_eq, h.w_eq, h.f_eq, h.t_eq]

theorem Expression.quantity_eq_wholeValue (h : x.IsWhole k v) (expression : Expression) :
    expression.quantity x = .integer (expression.wholeValue k v) := by
  have hinteger : ¬(expression.symbol = .n ∧ x.t ≠ 0) := fun hreal => hreal.2 h.t_eq
  rw [quantity, if_neg hinteger, wholeValue, Symbol.integer_eq_wholeValue h]
  cases expression.modulus? with
  | none => rfl
  | some modulus => exact congrArg _ (Int.natCast_mod _ _).symm

theorem RangeItem.contains_eq_admits (item : RangeItem) :
    item.contains (.integer k) = item.admits k := by
  rw [Bool.eq_iff_iff]
  cases item <;> simp [contains, admits]

theorem Relation.holds_eq_admits (h : x.IsWhole k v) (relation : Relation) :
    relation.holds x = relation.admits k v := by
  simp only [holds, admits, Expression.quantity_eq_wholeValue h, RangeItem.contains_eq_admits]

theorem Condition.holds_eq_admits (h : x.IsWhole k v) {condition : Condition}
    (hcondition : condition.WellFormed) : condition.holds x = condition.admits k v := by
  have hnot : condition.isAlwaysTrue = false := by simpa [isAlwaysTrue] using hcondition.1
  simp only [holds, admits, hnot, Bool.false_or, Relation.holds_eq_admits h]

end

def integerSamples : List ℕ :=
  List.range 100 ++ (List.range 101).map (1000000 + ·)

def zeroSamples : List ℕ :=
  List.range 4

/-- The sample that has the same residue modulo 100 and is a multiple of one million if the number
is one. -/
def representative (k : ℕ) : ℕ :=
  if k < 100 then k else if k % 1000000 = 0 then 1000000 else 1000001 + (k - 1) % 100

theorem representative_mem (k : ℕ) : representative k ∈ integerSamples := by
  have hlt : (k - 1) % 100 < 100 := Nat.mod_lt _ (by decide)
  rw [integerSamples, List.mem_append, List.mem_range, List.mem_map, representative]
  split
  · exact .inl ‹_›
  · split
    · exact .inr ⟨0, List.mem_range.mpr (by decide), rfl⟩
    · exact .inr ⟨1 + (k - 1) % 100, List.mem_range.mpr (by omega), by omega⟩

theorem min_mem_zeroSamples (v : ℕ) : min v 3 ∈ zeroSamples :=
  List.mem_range.mpr (by omega)

theorem min_eq_or (v : ℕ) : min v 3 = v ∨ 3 ≤ min v 3 ∧ 3 ≤ v := by
  omega

theorem representative_eq_or (k : ℕ) :
    representative k = k ∨ 100 ≤ representative k ∧ 100 ≤ k := by
  unfold representative
  split_ifs <;> omega

theorem representative_mod (k : ℕ) : representative k % 100 = k % 100 := by
  unfold representative
  split_ifs <;> omega

theorem representative_mod_million (k : ℕ) :
    representative k % 1000000 = k % 1000000 ∨
      1 ≤ representative k % 1000000 ∧ 1 ≤ k % 1000000 := by
  unfold representative
  split_ifs <;> omega

def RangeItem.top : RangeItem → ℕ
  | single value => value.toNat
  | range _ high => high.toNat

def Relation.onInteger (relation : Relation) : Bool :=
  match relation.expression.symbol with
  | .n | .i => true
  | .v | .w | .f | .t | .e => false

/-- Whether the relation cannot tell a whole number from its sample. -/
def Relation.isCoarse (relation : Relation) : Bool :=
  match relation.expression.symbol, relation.expression.modulus? with
  | .n, none | .i, none => relation.ranges.all fun item => item.top < 100
  | .n, some modulus | .i, some modulus =>
    100 % modulus.toNat = 0 ||
      modulus.toNat = 1000000 && relation.ranges.all fun item => item.top < 1
  | .v, none => relation.ranges.all fun item => item.top < 3
  | .v, some _ => false
  | .w, _ | .f, _ | .t, _ | .e, _ => true

def Condition.isCoarse (condition : Condition) : Bool :=
  condition.alternatives.all fun relations => relations.all Relation.isCoarse

theorem RangeItem.admits_eq_false {item : RangeItem} {k : ℕ} (h : item.top < k) :
    item.admits k = false := by
  rw [← Bool.not_eq_true]
  cases item <;> simp [admits, top] at h ⊢ <;> omega

section

-- A test that no number above the top of an item passes does not tell samples from the numbers
-- that they stand for.
variable {test : ℕ → RangeItem → Bool} {items : List RangeItem}

theorem any_congr_above (htest : ∀ {k item}, RangeItem.top item < k → test k item = false)
    {bound k l : ℕ} (hitems : items.all (fun item => item.top < bound) = true)
    (h : k = l ∨ bound ≤ k ∧ bound ≤ l) : items.any (test k) = items.any (test l) := by
  rcases h with rfl | ⟨hk, hl⟩
  · rfl
  · have hnone {m : ℕ} (hm : bound ≤ m) : items.any (test m) = false := by
      rw [List.any_eq_false]
      intro item hitem
      have htop : item.top < bound := of_decide_eq_true (List.all_eq_true.mp hitems item hitem)
      rw [htest (htop.trans_le hm)]
      exact Bool.false_ne_true
    rw [hnone hk, hnone hl]

theorem any_mod_representative (htest : ∀ {k item}, RangeItem.top item < k → test k item = false)
    {modulus : ℕ}
    (h : (100 % modulus = 0 || modulus = 1000000 && items.all fun item => item.top < 1) = true)
    (k : ℕ) : items.any (test (representative k % modulus)) = items.any (test (k % modulus)) := by
  simp only [Bool.or_eq_true, Bool.and_eq_true, decide_eq_true_eq] at h
  rcases h with hdvd | ⟨rfl, hitems⟩
  · have hmod (l : ℕ) : l % 100 % modulus = l % modulus :=
      Nat.mod_mod_of_dvd l (Nat.dvd_of_mod_eq_zero hdvd)
    rw [← hmod, representative_mod, hmod]
  · exact any_congr_above htest hitems (representative_mod_million k)

end

theorem Relation.admits_congr {relation : Relation} {k v l w : ℕ}
    (h : relation.ranges.any (RangeItem.admits (relation.expression.wholeValue k v)) =
      relation.ranges.any (RangeItem.admits (relation.expression.wholeValue l w))) :
    relation.admits k v = relation.admits l w := by
  rw [admits, admits, h]

theorem Relation.admits_representative {relation : Relation} (h : relation.isCoarse = true)
    (k v : ℕ) : relation.admits (representative k) (min v 3) = relation.admits k v := by
  apply admits_congr
  obtain ⟨⟨symbol, modulus?⟩, negated, ranges⟩ := relation
  cases symbol with
  | n | i =>
    cases modulus? with
    | none => exact any_congr_above RangeItem.admits_eq_false h (representative_eq_or k)
    | some modulus => exact any_mod_representative RangeItem.admits_eq_false h k
  | v =>
    cases modulus? with
    | none => exact any_congr_above RangeItem.admits_eq_false h (min_eq_or v)
    | some modulus => cases h
  | w | f | t | e => rfl

theorem Condition.isCoarse_of_mem_relations {condition : Condition}
    (h : condition.isCoarse = true) {relation : Relation}
    (hrelation : relation ∈ condition.relations) : relation.isCoarse = true := by
  obtain ⟨relations, hrelations, hmem⟩ := List.mem_flatten.mp hrelation
  exact List.all_eq_true.mp (List.all_eq_true.mp h relations hrelations) relation hmem

theorem Condition.any_all_congr {condition : Condition} {test other : Relation → Bool}
    (h : ∀ relation ∈ condition.relations, test relation = other relation) :
    (condition.alternatives.any fun relations => relations.all test) =
      condition.alternatives.any fun relations => relations.all other := by
  rw [Bool.eq_iff_iff, List.any_eq_true, List.any_eq_true]
  refine exists_congr fun relations => and_congr_right fun hrelations => ?_
  rw [List.all_eq_true, List.all_eq_true]
  refine forall₂_congr fun relation hrelation => ?_
  rw [h relation (List.mem_flatten_of_mem hrelations hrelation)]

theorem Condition.admits_representative {condition : Condition} (h : condition.isCoarse = true)
    (k v : ℕ) : condition.admits (representative k) (min v 3) = condition.admits k v :=
  any_all_congr fun relation hrelation =>
    relation.admits_representative (isCoarse_of_mem_relations h hrelation) k v

def compatible (relations : List Relation) : Bool :=
  zeroSamples.any (fun v => relations.all fun relation =>
    relation.onInteger || relation.admits 0 v) &&
  integerSamples.any fun k => relations.all fun relation =>
    !relation.onInteger || relation.admits k 0

def Condition.apart (condition other : Condition) : Bool :=
  condition.alternatives.all fun relations => other.alternatives.all fun others =>
    !compatible (relations ++ others)

theorem Relation.admits_of_onInteger {relation : Relation} (h : relation.onInteger = true)
    (k v w : ℕ) : relation.admits k v = relation.admits k w := by
  apply admits_congr
  obtain ⟨⟨symbol, modulus?⟩, negated, ranges⟩ := relation
  cases symbol with
  | n | i => rfl
  | v | w | f | t | e => cases h

theorem Relation.admits_of_not_onInteger {relation : Relation} (h : relation.onInteger = false)
    (k l v : ℕ) : relation.admits k v = relation.admits l v := by
  apply admits_congr
  obtain ⟨⟨symbol, modulus?⟩, negated, ranges⟩ := relation
  cases symbol with
  | n | i => cases h
  | v | w | f | t | e => rfl

theorem compatible_of_admits {relations : List Relation} {k v : ℕ}
    (hcoarse : ∀ relation ∈ relations, relation.isCoarse = true)
    (h : ∀ relation ∈ relations, relation.admits k v = true) : compatible relations = true := by
  have hsample : ∀ relation ∈ relations, relation.admits (representative k) (min v 3) = true := by
    intro relation hrelation
    rw [relation.admits_representative (hcoarse relation hrelation)]
    exact h relation hrelation
  rw [compatible, Bool.and_eq_true, List.any_eq_true, List.any_eq_true]
  refine ⟨⟨min v 3, min_mem_zeroSamples v, List.all_eq_true.mpr fun relation hrelation => ?_⟩,
    representative k, representative_mem k, List.all_eq_true.mpr fun relation hrelation => ?_⟩
  · cases honInteger : relation.onInteger with
    | true => rfl
    | false =>
      rw [relation.admits_of_not_onInteger honInteger 0 (representative k)]
      exact hsample relation hrelation
  · cases honInteger : relation.onInteger with
    | true =>
      rw [relation.admits_of_onInteger honInteger _ 0 (min v 3)]
      exact hsample relation hrelation
    | false => rfl

theorem Condition.not_admits_of_apart {condition other : Condition}
    (h : condition.apart other = true) (hcondition : condition.isCoarse = true)
    (hother : other.isCoarse = true) {k v : ℕ} (hadmits : condition.admits k v = true) :
    other.admits k v = false := by
  rw [← Bool.not_eq_true]
  intro hadmits'
  obtain ⟨relations, hrelations, hall⟩ := List.any_eq_true.mp hadmits
  obtain ⟨others, hothers, hall'⟩ := List.any_eq_true.mp hadmits'
  have hcompatible : compatible (relations ++ others) = true := by
    apply compatible_of_admits
    · exact List.forall_mem_append.mpr
        ⟨List.all_eq_true.mp (List.all_eq_true.mp hcondition relations hrelations),
          List.all_eq_true.mp (List.all_eq_true.mp hother others hothers)⟩
    · exact List.forall_mem_append.mpr
        ⟨List.all_eq_true.mp hall, List.all_eq_true.mp hall'⟩
  have hnot := List.all_eq_true.mp (List.all_eq_true.mp h relations hrelations) others hothers
  rw [hcompatible] at hnot
  cases hnot

end PluralRules
