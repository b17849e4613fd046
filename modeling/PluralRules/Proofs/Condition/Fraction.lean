import PluralRules.Proofs.Condition.Meaning
import PluralRules.Proofs.Number.Fraction

/-!
Relations on the `n` of a number with a nonzero fraction digit. The double that stands for the
number is never on the wrong side of the double of a bound, but it may be the double of a bound
itself. It is not if the digits are few enough for a double to keep all of them.
-/

namespace PluralRules

namespace Operand

def whole (x : Operand) : Option UInt32 → ℤ
  | none => x.i
  | some modulus => x.i % modulus.toNat

/-- The number that `n` stands for behind a modulus, in exact arithmetic. -/
def exact (x : Operand) (modulus? : Option UInt32) : ℚ :=
  x.whole modulus? + x.t / 10 ^ x.w

end Operand

/-- Covers the number if each bound whose double is `y` counts as equal to it. -/
def RangeItem.CoversRounded (y : Double) : RangeItem → ℚ → Prop
  | single value, q => q = value.toNat ∨ y = .nearest value.toNat
  | range low high, q =>
    (low.toNat ≤ q ∨ y = .nearest low.toNat) ∧ (q ≤ high.toNat ∨ y = .nearest high.toNat)

def RangeItem.bounds : RangeItem → List UInt64
  | single value => [value]
  | range low high => [low, high]

namespace Operand

variable {x : Operand} {modulus? : Option UInt32} {whole digits : ℕ}

structure HasParts (x : Operand) (modulus? : Option UInt32) (whole digits : ℕ) : Prop where
  n_eq : x.n = .nearest (x.i + x.t / 10 ^ x.w)
  whole_eq : x.whole modulus? = whole
  whole_lt : modulus? ≠ none → whole < 2 ^ 32
  t_eq : x.t = digits
  pos : 0 < digits
  lt : digits < 10 ^ x.w
  le : digits ≤ 10 ^ 22

theorem exists_hasParts {text : String} (hx : ofLiteral text = .ok x) (ht : x.t ≠ 0)
    (hm : ∀ modulus ∈ modulus?, 0 < modulus.toNat) :
    ∃ whole digits, x.HasParts modulus? whole digits := by
  have hnumeral : (Numeral.literal text).operand = .ok x := hx
  have hregular := regular_of_numeral hnumeral
  obtain ⟨digits, hdigits⟩ := Int.eq_ofNat_of_zero_le hregular.t_nonneg
  have hlt := hregular.t_lt
  have hle := hregular.t_le
  rw [hdigits] at hlt hle
  have hwhole : 0 ≤ x.whole modulus? ∧ (modulus? ≠ none → x.whole modulus? < 2 ^ 32) := by
    cases modulus? with
    | none => exact ⟨hregular.i_nonneg, fun h => absurd rfl h⟩
    | some modulus =>
      have hpos : (0 : ℤ) < modulus.toNat := mod_cast hm modulus rfl
      have hsize : modulus.toNat < 2 ^ 32 := modulus.toNat_lt
      have hmod := Int.emod_lt_of_pos x.i hpos
      exact ⟨Int.emod_nonneg x.i hpos.ne', fun _ => hmod.trans (mod_cast hsize)⟩
  obtain ⟨whole, hnat⟩ := Int.eq_ofNat_of_zero_le hwhole.1
  refine ⟨whole, digits, n_of_ofLiteral_eq_ok hx, hnat, ?_, hdigits, by omega, mod_cast hlt, ?_⟩
  · intro h
    have hsize := hwhole.2 h
    omega
  · unfold maxPart at hle
    omega

namespace HasParts

theorem exact_eq (h : x.HasParts modulus? whole digits) :
    x.exact modulus? = whole + digits / 10 ^ x.w := by
  rw [exact, h.whole_eq, h.t_eq, Int.cast_natCast, Int.cast_natCast]

theorem fractional_none (h : x.HasParts none whole digits) :
    x.fractional none = .nearest (whole + digits / 10 ^ x.w) := by
  rw [← h.exact_eq]
  exact h.n_eq

theorem fractional_some {modulus : UInt32} (h : x.HasParts (some modulus) whole digits) :
    x.fractional (some modulus) = (Double.finite whole).add (.fraction digits x.w) := by
  have hwhole : x.i % modulus.toNat = whole := h.whole_eq
  have hlt := h.whole_lt (Option.some_ne_none modulus)
  rw [fractional, hwhole, h.t_eq, Int.cast_natCast, Int.cast_natCast,
    Double.nearest_natCast (by omega), Double.fraction]

theorem fraction_pos (h : x.HasParts modulus? whole digits) : (0 : ℚ) < digits / 10 ^ x.w := by
  have hdigits : (0 : ℚ) < digits := mod_cast h.pos
  positivity

theorem fraction_lt_one (h : x.HasParts modulus? whole digits) :
    (digits / 10 ^ x.w : ℚ) < 1 := by
  rw [div_lt_one (by positivity)]
  exact mod_cast h.lt

theorem fractional_mem_Icc (h : x.HasParts modulus? whole digits) :
    .nearest whole ≤ x.fractional modulus? ∧ x.fractional modulus? ≤ .nearest (whole + 1) := by
  have hwhole : (0 : ℚ) ≤ whole := Nat.cast_nonneg whole
  have hpos := h.fraction_pos
  have hlt := h.fraction_lt_one
  cases modulus? with
  | none =>
    rw [h.fractional_none]
    exact ⟨Double.nearest_mono hwhole (by linarith),
      Double.nearest_mono (by linarith) (by linarith)⟩
  | some modulus =>
    have hsize := h.whole_lt (Option.some_ne_none modulus)
    have hlow : Double.nearest (whole + 0) = .finite (whole + 0) := by
      rw [add_zero, Double.nearest_natCast (by omega)]
    have hhigh : Double.nearest (whole + 1) = .finite (whole + 1) :=
      mod_cast Double.nearest_natCast (k := whole + 1) (by omega)
    obtain ⟨hzero, hone⟩ := Double.fraction_mem_Icc h.lt h.le
    have hsum := Double.add_mem_Icc hlow hhigh (by linarith) hzero hone
    rw [← hlow, ← hhigh, add_zero] at hsum
    rwa [h.fractional_some]

theorem exists_binary_places (h : x.HasParts modulus? whole digits)
    (hfew : (whole + 1) * 10 ^ x.w ≤ 2 ^ 52) :
    ∃ s, 1 ≤ s ∧ (whole + 1) * 2 ^ s ≤ 2 ^ 53 ∧ (1 : ℚ) / 2 ^ s ≤ digits / 10 ^ x.w ∧
      (digits / 10 ^ x.w : ℚ) ≤ 1 - 1 / 2 ^ s := by
  have hlog := Nat.log2_self_le (n := 10 ^ x.w) (by positivity)
  refine ⟨Nat.log2 (10 ^ x.w) + 1, by omega, ?_, ?_⟩
  · calc (whole + 1) * 2 ^ (Nat.log2 (10 ^ x.w) + 1) ≤ (whole + 1) * (10 ^ x.w * 2) :=
          Nat.mul_le_mul_left _ (Nat.mul_le_mul_right 2 hlog)
      _ = (whole + 1) * 10 ^ x.w * 2 := (mul_assoc ..).symm
      _ ≤ 2 ^ 53 := Nat.mul_le_mul_right 2 hfew
  · have hscale : (0 : ℚ) < 10 ^ x.w := by positivity
    have hfine : (10 : ℚ) ^ x.w ≤ 2 ^ (Nat.log2 (10 ^ x.w) + 1) := by
      have hlt := Nat.lt_log2_self (n := 10 ^ x.w)
      exact mod_cast hlt.le
    have hunit := one_div_le_one_div_of_le hscale hfine
    have hpos : (1 : ℚ) ≤ digits := mod_cast h.pos
    have hlt : (digits + 1 : ℚ) / 10 ^ x.w ≤ 1 := (div_le_one hscale).mpr (mod_cast h.lt)
    have hone := div_le_div_of_nonneg_right hpos hscale.le
    rw [add_div] at hlt
    constructor <;> linarith

theorem fractional_mem_Ioo (h : x.HasParts modulus? whole digits)
    (hfew : (whole + 1) * 10 ^ x.w ≤ 2 ^ 52) :
    .nearest whole < x.fractional modulus? ∧ x.fractional modulus? < .nearest (whole + 1) := by
  obtain ⟨s, hs, hplaces, hlow, hhigh⟩ := h.exists_binary_places hfew
  obtain ⟨hsumLow, hsumHigh⟩ := Double.nearest_inside hs hplaces
  have hunit : (0 : ℚ) < 1 / 2 ^ s := by positivity
  have hwhole : (0 : ℚ) ≤ whole := Nat.cast_nonneg whole
  have hmem : .finite (whole + 1 / 2 ^ s) ≤ x.fractional modulus? ∧
      x.fractional modulus? ≤ .finite (whole + (1 - 1 / 2 ^ s)) := by
    cases modulus? with
    | none =>
      rw [h.fractional_none]
      apply Double.nearest_mem_Icc hsumLow hsumHigh <;> linarith
    | some modulus =>
      -- Here the fraction is rounded once before it is added, on the same grid.
      have hscale : 10 ^ x.w ≤ 2 ^ 52 :=
        (Nat.le_mul_of_pos_left _ (Nat.succ_pos whole)).trans hfew
      have hw : x.w ≤ 22 := by
        by_contra hw
        have hlarge : 10 ^ 23 ≤ 10 ^ x.w := Nat.pow_le_pow_right (by norm_num) (by omega)
        omega
      have hdigits := h.lt
      have hunitPlaces : (0 + 1) * 2 ^ s ≤ 2 ^ 53 :=
        (Nat.mul_le_mul_right _ (by omega)).trans hplaces
      have hgrid := Double.nearest_inside hs hunitPlaces
      rw [Nat.cast_zero, zero_add, zero_add] at hgrid
      have hfraction := Double.nearest_mem_Icc hgrid.1 hgrid.2 hunit.le hlow hhigh
      rw [← Double.fraction_eq_nearest (by omega) hw] at hfraction
      rw [h.fractional_some]
      exact Double.add_mem_Icc hsumLow hsumHigh (by linarith) hfraction.1 hfraction.2
  have hsize : whole + 1 < 2 ^ 53 :=
    (Nat.le_mul_of_pos_right _ (by positivity)).trans_lt (hfew.trans_lt (by norm_num))
  have hnext : Double.nearest (whole + 1) = .finite (whole + 1) :=
    mod_cast Double.nearest_natCast hsize
  rw [hnext, Double.nearest_natCast (by omega)]
  constructor
  · exact lt_of_lt_of_le (Double.finite_lt_finite.mpr (by linarith)) hmem.1
  · exact lt_of_le_of_lt hmem.2 (Double.finite_lt_finite.mpr (by linarith))

end HasParts

end Operand

section

variable {x : Operand} {modulus? : Option UInt32} {whole digits : ℕ}

theorem Operand.HasParts.nearest_le (h : x.HasParts modulus? whole digits) {bound : ℕ}
    (hle : (bound : ℚ) ≤ x.exact modulus?) : .nearest bound ≤ x.fractional modulus? := by
  have hlt := h.fraction_lt_one
  rw [h.exact_eq] at hle
  have hbound : (bound : ℚ) ≤ whole := by
    have : (bound : ℚ) < whole + 1 := by linarith
    exact mod_cast Nat.lt_succ_iff.mp (mod_cast this)
  exact (Double.nearest_mono (Nat.cast_nonneg bound) hbound).trans h.fractional_mem_Icc.1

theorem Operand.HasParts.le_nearest (h : x.HasParts modulus? whole digits) {bound : ℕ}
    (hle : x.exact modulus? ≤ bound) : x.fractional modulus? ≤ .nearest bound := by
  have hpos := h.fraction_pos
  rw [h.exact_eq] at hle
  have hbound : (whole + 1 : ℚ) ≤ bound := by
    have : (whole : ℚ) < bound := by linarith
    exact mod_cast Nat.succ_le_iff.mpr (mod_cast this)
  have hnonneg : (0 : ℚ) ≤ whole + 1 := by positivity
  exact h.fractional_mem_Icc.2.trans (Double.nearest_mono hnonneg hbound)

theorem Operand.HasParts.fractional_ne_nearest (h : x.HasParts modulus? whole digits)
    (hfew : (whole + 1) * 10 ^ x.w ≤ 2 ^ 52) (bound : ℕ) :
    x.fractional modulus? ≠ .nearest bound := by
  obtain ⟨hlow, hhigh⟩ := h.fractional_mem_Ioo hfew
  rcases Nat.lt_or_ge whole bound with hlt | hge
  · have hbound : (whole + 1 : ℚ) ≤ bound := mod_cast hlt
    exact (hhigh.trans_le (Double.nearest_mono (by positivity) hbound)).ne
  · have hbound : (bound : ℚ) ≤ whole := mod_cast hge
    exact ((Double.nearest_mono (Nat.cast_nonneg bound) hbound).trans_lt hlow).ne'

theorem RangeItem.contains_real_iff (h : x.HasParts modulus? whole digits) (item : RangeItem) :
    item.contains (.real (x.fractional modulus?)) = true ↔
      item.CoversRounded (x.fractional modulus?) (x.exact modulus?) := by
  cases item with
  | single value =>
    rw [contains, beq_iff_eq]
    constructor
    · exact .inr
    · rintro (heq | htie)
      · exact le_antisymm (h.le_nearest heq.le) (h.nearest_le heq.ge)
      · exact htie
  | range low high =>
    rw [contains, Bool.and_eq_true, Double.le_eq_true_iff, Double.le_eq_true_iff]
    apply and_congr
    · constructor
      · intro hle
        rcases le_total (low.toNat : ℚ) (x.exact modulus?) with hlow | hlow
        · exact .inl hlow
        · exact .inr (le_antisymm (h.le_nearest hlow) hle)
      · rintro (hlow | htie)
        · exact h.nearest_le hlow
        · exact htie.ge
    · constructor
      · intro hle
        rcases le_total (x.exact modulus?) (high.toNat : ℚ) with hhigh | hhigh
        · exact .inl hhigh
        · exact .inr (le_antisymm hle (h.nearest_le hhigh))
      · rintro (hhigh | htie)
        · exact h.le_nearest hhigh
        · exact htie.le

theorem RangeItem.coversRounded_iff {item : RangeItem} {y : Double} {q : ℚ}
    (h : ∀ bound ∈ item.bounds, y ≠ .nearest bound.toNat) :
    item.CoversRounded y q ↔ item.Covers q := by
  cases item with
  | single value =>
    have hvalue := h value (List.mem_singleton_self value)
    exact or_iff_left hvalue
  | range low high =>
    have hlow := h low List.mem_cons_self
    have hhigh := h high (List.mem_cons_of_mem low (List.mem_singleton_self high))
    exact and_congr (or_iff_left hlow) (or_iff_left hhigh)

end

namespace Relation

/-- The relation is decided as on the exact number, but for bounds that have the same double as the
number: these count as equal to it. There are none if the digits are few, and then no single value
is met. -/
theorem holds_iff_meets_exact_unless_tied {text : String} {x : Operand}
    (hx : Operand.ofLiteral text = .ok x) (ht : x.t ≠ 0) {relation : Relation}
    (hn : relation.expression.symbol = .n) (hm : relation.expression.WellFormed) :
    let modulus? := relation.expression.modulus?
    let y := x.fractional modulus?
    let q := x.exact modulus?
    (relation.holds x = true ↔
        ((∃ item ∈ relation.ranges, item.CoversRounded y q) ↔ relation.negated = false)) ∧
      ((∀ item ∈ relation.ranges, ∀ bound ∈ item.bounds, y ≠ .nearest bound.toNat) →
        (relation.holds x = true ↔ relation.Meets q)) ∧
      ((x.whole modulus? + 1) * 10 ^ x.w ≤ 2 ^ 52 →
        (relation.holds x = true ↔ relation.Meets q) ∧
          ∀ value, relation.ranges = [.single value] → relation.holds x = relation.negated) := by
  intro modulus? y q
  obtain ⟨whole, digits, h⟩ := Operand.exists_hasParts hx ht hm
  have hquantity : relation.expression.quantity x = .real y := if_pos ⟨hn, ht⟩
  have hrounded : relation.holds x = true ↔
      ((∃ item ∈ relation.ranges, item.CoversRounded y q) ↔ relation.negated = false) := by
    apply holds_iff_of_contains
    intro item
    rw [hquantity, RangeItem.contains_real_iff h]
  have hexact (hties : ∀ item ∈ relation.ranges, ∀ bound ∈ item.bounds,
      y ≠ .nearest bound.toNat) : relation.holds x = true ↔ relation.Meets q := by
    have hcovers : (∃ item ∈ relation.ranges, item.CoversRounded y q) ↔
        ∃ item ∈ relation.ranges, item.Covers q :=
      exists_congr fun item => and_congr_right fun hitem =>
        RangeItem.coversRounded_iff (hties item hitem)
    rw [hrounded, hcovers, Meets]
  refine ⟨hrounded, hexact, fun hfew => ?_⟩
  have hsmall : (whole + 1) * 10 ^ x.w ≤ 2 ^ 52 := by
    rw [h.whole_eq] at hfew
    exact mod_cast hfew
  have hties (bound : UInt64) : y ≠ .nearest bound.toNat :=
    mod_cast h.fractional_ne_nearest hsmall bound.toNat
  refine ⟨hexact fun item _ bound _ => hties bound, fun value hvalue => ?_⟩
  have hmiss : RangeItem.contains (.single value) (.real y) = false :=
    beq_false_of_ne (hties value)
  rw [holds, hvalue, hquantity]
  simp [hmiss]

theorem holds_iff_meets_exact_behind_modulus :
    ∃ x, Operand.ofLiteral "10000000000000001.5" = .ok x ∧
      Relation.Meets ⟨⟨.n, some 10⟩, false, [.range 1 2]⟩ (x.exact (some 10)) ∧
      Relation.holds ⟨⟨.n, some 10⟩, true, [.single 1]⟩ x = true := by
  let x : Operand := ⟨.finite 10000000000000002, 10000000000000001, 1, 1, 5, 5⟩
  let between : Relation := ⟨⟨.n, some 10⟩, false, [.range 1 2]⟩
  let other : Relation := ⟨⟨.n, some 10⟩, true, [.single 1]⟩
  have hx : Operand.ofLiteral "10000000000000001.5" = .ok x := by decide +kernel
  have ht : x.t ≠ 0 := by decide
  refine ⟨x, hx, ?_, ?_⟩
  · have hn : between.expression.symbol = .n := rfl
    have h := holds_iff_meets_exact_unless_tied hx ht hn (by decide)
    exact (h.2.2 (by decide +kernel)).1.mp (by decide +kernel)
  · have hn : other.expression.symbol = .n := rfl
    have h := holds_iff_meets_exact_unless_tied hx ht hn (by decide)
    exact (h.2.2 (by decide +kernel)).2 1 rfl

/-- An exact half that the double drops, and a fraction that it rounds up to one. -/
theorem holds_though_tied :
    (∃ x, Operand.ofLiteral "10000000000000000.5" = .ok x ∧ x.t ≠ 0 ∧
      Relation.holds ⟨⟨.n, none⟩, false, [.single 10000000000000000]⟩ x = true ∧
      ¬Relation.Meets ⟨⟨.n, none⟩, false, [.single 10000000000000000]⟩ (x.exact none)) ∧
    ∃ x, Operand.ofLiteral "0.99999999999999999" = .ok x ∧ x.t ≠ 0 ∧
      Relation.holds ⟨⟨.n, some 10⟩, false, [.single 1]⟩ x = true ∧
      ¬Relation.Meets ⟨⟨.n, some 10⟩, false, [.single 1]⟩ (x.exact (some 10)) := by
  constructor
  · refine ⟨⟨.finite 10000000000000000, 10000000000000000, 1, 1, 5, 5⟩, by decide +kernel,
      by decide, by decide +kernel, ?_⟩
    have hvalue : UInt64.toNat 10000000000000000 = 10000000000000000 := rfl
    norm_num [Meets, RangeItem.Covers, Operand.exact, Operand.whole, hvalue]
  · refine ⟨⟨.finite 1, 0, 17, 17, 99999999999999999, 99999999999999999⟩, by decide +kernel,
      by decide, by decide +kernel, ?_⟩
    have hvalue : UInt64.toNat 1 = 1 := rfl
    norm_num [Meets, RangeItem.Covers, Operand.exact, Operand.whole, hvalue]

end Relation

end PluralRules
