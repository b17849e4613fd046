import PluralRules.Proofs.Condition.Meaning
import PluralRules.Proofs.Operand.Literal
import PluralRules.Proofs.Table.Invariant

/-!
The rules of a table are evaluated within the domains of the operations that they use. No modulus in
them is zero, since no rule text with one has a condition, and all operands that are integers are
natural numbers of at most 63 bits, since integers beyond are cut and literals beyond are refused.
-/

namespace PluralRules

/-- The expression divides by no zero, and an integer that it gives is a natural number, one of 64
bits, and less than the modulus. -/
structure Expression.Defined (expression : Expression) (x : Operand) : Prop where
  divisor : ∀ modulus ∈ expression.modulus?, 1 ≤ modulus.toNat
  integer : ∀ k, expression.quantity x = .integer k → 0 ≤ k ∧
    (∃ word : UInt64, k = word.toNat) ∧ ∀ modulus ∈ expression.modulus?, k < modulus.toNat

namespace Operand

structure Bounded (x : Operand) : Prop extends x.Regular where
  i_le : x.i ≤ maxPart
  v_le : x.v ≤ maxPlaces
  w_le : x.w ≤ x.v
  f_le : x.f ≤ maxPart

theorem bounded_of_numeral {numeral : Numeral} {x : Operand} (h : numeral.operand = .ok x) :
    x.Bounded := by
  have hcoherent := coherent_of_numeral h
  cases numeral with
  | literal text =>
    obtain ⟨integer, fraction, hliteral, rfl⟩ := exists_of_ofLiteral_eq_ok h
    exact ⟨hcoherent.toRegular, Nat.cast_le.mpr hliteral.integer_le, hliteral.places_le,
      hcoherent.w_le, Nat.cast_le.mpr hliteral.fraction_le⟩
  | integer value =>
    cases h
    exact ⟨hcoherent.toRegular, min_le_right _ _, Nat.zero_le _, le_rfl,
      Int.natCast_nonneg _⟩

theorem Bounded.integer_mem_Icc {x : Operand} (h : x.Bounded) (symbol : Symbol) :
    0 ≤ x.integer symbol ∧ x.integer symbol ≤ maxPart := by
  have hplaces : maxPlaces ≤ maxPart := by decide
  have hv := h.v_le
  have hw := h.w_le
  cases symbol with
  | n | i => exact ⟨h.i_nonneg, h.i_le⟩
  | v => exact ⟨Int.natCast_nonneg _, Nat.cast_le.mpr (by omega)⟩
  | w => exact ⟨Int.natCast_nonneg _, Nat.cast_le.mpr (by omega)⟩
  | f => exact ⟨h.f_nonneg, h.f_le⟩
  | t => exact ⟨h.t_nonneg, h.t_le⟩
  | e => exact ⟨le_rfl, Int.natCast_nonneg _⟩

end Operand

namespace Expression

variable {x : Operand} {expression : Expression} {k : ℤ}

theorem eq_integer_or_residue (h : expression.quantity x = .integer k) :
    (expression.modulus? = none ∧ k = x.integer expression.symbol) ∨
      ∃ modulus, expression.modulus? = some modulus ∧
        k = x.integer expression.symbol % modulus.toNat := by
  unfold quantity at h
  split at h
  · cases h
  · cases hmodulus : expression.modulus? with
    | none =>
      rw [hmodulus] at h
      cases h
      exact .inl ⟨rfl, rfl⟩
    | some modulus =>
      rw [hmodulus] at h
      cases h
      exact .inr ⟨modulus, rfl, rfl⟩

theorem exists_word (hnonneg : 0 ≤ k) (hlt : k < UInt64.size) :
    ∃ word : UInt64, k = word.toNat := by
  refine ⟨.ofNat k.toNat, ?_⟩
  rw [UInt64.toNat_ofNat_of_lt' (by omega), Int.toNat_of_nonneg hnonneg]

theorem defined_of_wellFormed (hx : x.Bounded) (h : expression.WellFormed) :
    expression.Defined x := by
  obtain ⟨hnonneg, hle⟩ := hx.integer_mem_Icc expression.symbol
  refine ⟨h, fun k hk => ?_⟩
  rcases eq_integer_or_residue hk with ⟨hnone, rfl⟩ | ⟨modulus, hmodulus, rfl⟩
  · have hbits : Operand.maxPart < UInt64.size := by decide
    rw [hnone]
    exact ⟨hnonneg, exists_word hnonneg (by omega), nofun⟩
  · have hpos : 0 < (modulus.toNat : ℤ) := Nat.cast_pos.mpr (h modulus hmodulus)
    have hresidue := Int.emod_nonneg (x.integer expression.symbol) hpos.ne'
    have hlt := Int.emod_lt_of_pos (x.integer expression.symbol) hpos
    have hbits : modulus.toNat < UInt64.size := modulus.toNat_lt.trans (by decide)
    refine ⟨hresidue, exists_word hresidue (by omega), fun other hother => ?_⟩
    obtain rfl := Option.some.inj (hmodulus.symm.trans hother)
    exact hlt

end Expression

namespace RuleTable

/-- All relations of a table that is built are evaluated where their operations are defined, for
every number, whichever way it is given. -/
theorem defined_of_build {records : List RuleRecord} {table : RuleTable}
    (h : build records = .ok table) {ruleSet : RuleSet} (hruleSet : ruleSet ∈ table.ruleSets)
    {rule : Rule} (hrule : rule ∈ ruleSet.rules) {numeral : Numeral} {x : Operand}
    (hx : numeral.operand = .ok x) :
    ∀ relation ∈ rule.condition.relations, relation.expression.Defined x := by
  intro relation hrelation
  have hwellFormed := (proper_of_build h hruleSet).wellFormed rule hrule
  have hexpression := (hwellFormed.of_mem_relations hrelation).1
  exact Expression.defined_of_wellFormed (Operand.bounded_of_numeral hx) hexpression

theorem defined_of_build_saturated :
    let record : RuleRecord := ⟨["en"], [⟨.one, "n % 4294967295 = 1..2 or i != 3"⟩]⟩
    let expression : Expression := ⟨.n, some 4294967295⟩
    let x := Operand.ofInt (-9223372036854775808)
    ∃ table, build [record] = .ok table ∧ ∃ ruleSet ∈ table.ruleSets, ∃ rule ∈ ruleSet.rules,
      (∃ relation ∈ rule.condition.relations, relation.expression = expression) ∧
        expression.quantity x = .integer 2147483647 ∧ expression.Defined x := by
  intro record expression x
  let reduced : Relation := ⟨expression, false, [.range 1 2]⟩
  let rule : Rule := ⟨.one, ⟨[[reduced], [⟨⟨.i, none⟩, true, [.single 3]⟩]]⟩⟩
  have hruleSets : (build [record]).map ruleSets = .ok [⟨["en"], [rule]⟩] := by decide +kernel
  cases hbuild : build [record] with
  | error e =>
    rw [hbuild] at hruleSets
    cases hruleSets
  | ok table =>
    rw [hbuild] at hruleSets
    have hmem : ⟨["en"], [rule]⟩ ∈ table.ruleSets := by
      rw [Except.ok.inj hruleSets]
      exact List.mem_singleton_self _
    have hrule : rule ∈ [rule] := List.mem_singleton_self _
    have hrelation : reduced ∈ rule.condition.relations := by decide
    have hx : (Numeral.integer (-9223372036854775808)).operand = .ok x := rfl
    exact ⟨table, rfl, _, hmem, rule, hrule, ⟨reduced, hrelation, rfl⟩, by decide +kernel,
      defined_of_build hbuild hmem hrule hx reduced hrelation⟩

end RuleTable

end PluralRules
