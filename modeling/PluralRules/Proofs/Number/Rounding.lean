import Mathlib.Algebra.Order.Field.Power
import Mathlib.Algebra.Order.Floor.Ring
import Mathlib.Data.Int.Log
import Mathlib.Data.Rat.Floor
import Mathlib.Order.WithBot
import Mathlib.Tactic.Linarith
import Mathlib.Tactic.NormNum
import Mathlib.Tactic.Positivity
import Mathlib.Tactic.Ring
import PluralRules.Number.Double

/-!
Rounding to the nearest double keeps the order, and it leaves a number alone that is a double
already. With these two facts the result of an operation lies between any two doubles between which
the exact result lies.
-/

namespace PluralRules.Double

theorem roundHalfEven_def (q : ℚ) :
    roundHalfEven q =
      if q - ⌊q⌋ < 1 / 2 then ⌊q⌋
      else if 1 / 2 < q - ⌊q⌋ then ⌊q⌋ + 1
      else if ⌊q⌋ % 2 = 0 then ⌊q⌋ else ⌊q⌋ + 1 :=
  rfl

theorem roundHalfEven_bounds (q : ℚ) : ⌊q⌋ ≤ roundHalfEven q ∧ roundHalfEven q ≤ ⌊q⌋ + 1 := by
  rw [roundHalfEven_def]
  split_ifs <;> omega

theorem roundHalfEven_intCast (k : ℤ) : roundHalfEven k = k := by
  rw [roundHalfEven_def, Int.floor_intCast, sub_self, if_pos (by norm_num)]

theorem roundHalfEven_mono {a b : ℚ} (h : a ≤ b) : roundHalfEven a ≤ roundHalfEven b := by
  rcases (Int.floor_le_floor h).lt_or_eq with hfloor | hfloor
  · have ha := (roundHalfEven_bounds a).2
    have hb := (roundHalfEven_bounds b).1
    omega
  · -- With one floor for both, the greater number has the greater excess over it.
    rw [roundHalfEven_def, roundHalfEven_def, ← hfloor]
    split_ifs <;> first | omega | linarith

theorem two_zpow_sub (a b : ℕ) : (2 : ℚ) ^ ((a : ℤ) - b) = 2 ^ a / 2 ^ b := by
  rw [zpow_sub₀ two_ne_zero, zpow_natCast, zpow_natCast]

theorem eq_log_of_bounds {q : ℚ} (hq : 0 < q) {e : ℤ} (hle : (2 : ℚ) ^ e ≤ q)
    (hlt : q < (2 : ℚ) ^ (e + 1)) : e = Int.log 2 q := by
  have hlow := (Int.zpow_le_iff_le_log one_lt_two hq).mp (mod_cast hle)
  have hhigh := (Int.lt_zpow_iff_log_lt one_lt_two hq).mp (mod_cast hlt)
  omega

theorem binaryExponent_eq_log {q : ℚ} (hq : 0 < q) : binaryExponent q = Int.log 2 q := by
  let num := q.num.natAbs
  have hnum : num ≠ 0 := Int.natAbs_ne_zero.mpr (Rat.num_pos.mpr hq).ne'
  have hden : (0 : ℚ) < q.den := Nat.cast_pos.mpr q.den_pos
  have hquot : q = (num : ℚ) / q.den := by
    rw [Nat.cast_natAbs, abs_of_pos (Rat.num_pos.mpr hq), Rat.num_div_den]
  have hnumLow : (2 : ℚ) ^ num.log2 ≤ num := mod_cast Nat.log2_self_le hnum
  have hnumHigh : (num : ℚ) < 2 ^ (num.log2 + 1) := mod_cast Nat.lt_log2_self
  have hdenLow : (2 : ℚ) ^ q.den.log2 ≤ q.den := mod_cast Nat.log2_self_le q.den_nz
  have hdenHigh : (q.den : ℚ) < 2 ^ (q.den.log2 + 1) := mod_cast Nat.lt_log2_self
  -- The estimate is a difference of two logarithms, so it is at most one too great.
  have hlow : (2 : ℚ) ^ ((num.log2 : ℤ) - q.den.log2 - 1) ≤ q := by
    rw [sub_sub, ← Nat.cast_add_one, two_zpow_sub]
    exact (div_le_div₀ (Nat.cast_nonneg num) hnumLow hden hdenHigh.le).trans_eq hquot.symm
  have hhigh : q < (2 : ℚ) ^ ((num.log2 : ℤ) - q.den.log2 + 1) := by
    rw [sub_add_eq_add_sub, ← Nat.cast_add_one, two_zpow_sub]
    exact hquot.trans_lt (div_lt_div₀ hnumHigh hdenLow (by positivity) (by positivity))
  unfold binaryExponent
  dsimp only
  split
  case isTrue h => exact eq_log_of_bounds hq h hhigh
  case isFalse h =>
    apply eq_log_of_bounds hq hlow
    rw [sub_add_cancel]
    exact not_le.mp h

theorem lastPlace_eq_max {q : ℚ} (hq : 0 < q) : lastPlace q = max (Int.log 2 q - 52) (-1074) := by
  rw [← binaryExponent_eq_log hq]
  unfold lastPlace
  dsimp only
  split_ifs <;> omega

theorem exists_two_zpow_eq_mul {place p : ℤ} (h : place ≤ p) :
    ∃ k : ℤ, (2 : ℚ) ^ p = k * (2 : ℚ) ^ place := by
  refine ⟨2 ^ (p - place).toNat, ?_⟩
  have hp : p = ((p - place).toNat : ℤ) + place := by omega
  rw [Int.cast_pow, Int.cast_ofNat, ← zpow_natCast, ← zpow_add₀ two_ne_zero, ← hp]

def rounded (q : ℚ) : ℚ :=
  roundHalfEven (q / (2 : ℚ) ^ lastPlace q) * (2 : ℚ) ^ lastPlace q

theorem nearest_eq_ite (q : ℚ) :
    nearest q = if rounded q < (2 : ℚ) ^ 1024 then finite (rounded q) else infinite :=
  rfl

theorem rounded_le_mul {q : ℚ} {k : ℤ} (h : q ≤ k * (2 : ℚ) ^ lastPlace q) :
    rounded q ≤ k * (2 : ℚ) ^ lastPlace q := by
  have hunit : (0 : ℚ) < 2 ^ lastPlace q := by positivity
  have hround := roundHalfEven_mono ((div_le_iff₀ hunit).mpr h)
  rw [roundHalfEven_intCast] at hround
  exact mul_le_mul_of_nonneg_right (mod_cast hround) hunit.le

theorem mul_le_rounded {q : ℚ} {k : ℤ} (h : k * (2 : ℚ) ^ lastPlace q ≤ q) :
    k * (2 : ℚ) ^ lastPlace q ≤ rounded q := by
  have hunit : (0 : ℚ) < 2 ^ lastPlace q := by positivity
  have hround := roundHalfEven_mono ((le_div_iff₀ hunit).mpr h)
  rw [roundHalfEven_intCast] at hround
  exact mul_le_mul_of_nonneg_right (mod_cast hround) hunit.le

theorem rounded_nonneg {q : ℚ} (hq : 0 ≤ q) : 0 ≤ rounded q := by
  simpa using mul_le_rounded (q := q) (k := 0) (by simpa using hq)

theorem rounded_zero : rounded 0 = 0 :=
  le_antisymm (by simpa using rounded_le_mul (q := 0) (k := 0) (by simp)) (rounded_nonneg le_rfl)

theorem rounded_mono {a b : ℚ} (ha : 0 ≤ a) (h : a ≤ b) : rounded a ≤ rounded b := by
  rcases ha.eq_or_lt with rfl | hpos
  · rw [rounded_zero]
    exact rounded_nonneg h
  have hposb : 0 < b := hpos.trans_le h
  have hlog := Int.log_mono_right (b := 2) hpos h
  have hplaceA := lastPlace_eq_max hpos
  have hplaceB := lastPlace_eq_max hposb
  rcases (show lastPlace a ≤ lastPlace b by omega).eq_or_lt with hplace | hplace
  · have hunit : (0 : ℚ) < 2 ^ lastPlace b := by positivity
    unfold rounded
    rw [hplace]
    have hround := roundHalfEven_mono (div_le_div_of_nonneg_right h hunit.le)
    exact mul_le_mul_of_nonneg_right (mod_cast hround) hunit.le
  · -- A power of two lies between the two numbers and has no place behind either last one.
    have hbetween : a ≤ (2 : ℚ) ^ Int.log 2 b := by
      have hlt := Int.lt_zpow_succ_log_self one_lt_two a
      have hexp : Int.log 2 a + 1 ≤ Int.log 2 b := by omega
      exact (mod_cast hlt.le : a ≤ (2 : ℚ) ^ (Int.log 2 a + 1)).trans
        (zpow_le_zpow_right₀ one_le_two hexp)
    have hself : (2 : ℚ) ^ Int.log 2 b ≤ b := mod_cast Int.zpow_log_le_self one_lt_two hposb
    obtain ⟨k, hk⟩ := exists_two_zpow_eq_mul (show lastPlace a ≤ Int.log 2 b by omega)
    obtain ⟨k', hk'⟩ := exists_two_zpow_eq_mul (show lastPlace b ≤ Int.log 2 b by omega)
    calc rounded a ≤ k * (2 : ℚ) ^ lastPlace a := rounded_le_mul (hk ▸ hbetween)
      _ = k' * (2 : ℚ) ^ lastPlace b := by rw [← hk, ← hk']
      _ ≤ rounded b := mul_le_rounded (hk' ▸ hself)

def OnGrid (q : ℚ) : Prop :=
  ∃ (m : ℕ) (p : ℤ), m < 2 ^ 53 ∧ -1074 ≤ p ∧ q = m * (2 : ℚ) ^ p

theorem rounded_of_onGrid {q : ℚ} (h : OnGrid q) : rounded q = q := by
  obtain ⟨m, p, hm, hp, rfl⟩ := h
  rcases Nat.eq_zero_or_pos m with rfl | hpos
  · simp [rounded_zero]
  have hq : (0 : ℚ) < m * 2 ^ p := by positivity
  have hlog : Int.log 2 (m * (2 : ℚ) ^ p) < 53 + p := by
    apply (Int.lt_zpow_iff_log_lt one_lt_two hq).mp
    push_cast
    rw [zpow_add₀ two_ne_zero]
    exact mul_lt_mul_of_pos_right (mod_cast hm) (by positivity)
  have hplace := lastPlace_eq_max hq
  obtain ⟨k, hk⟩ := exists_two_zpow_eq_mul (show lastPlace (m * (2 : ℚ) ^ p) ≤ p by omega)
  have heq : m * (2 : ℚ) ^ p = ((m * k : ℤ) : ℚ) * (2 : ℚ) ^ lastPlace (m * (2 : ℚ) ^ p) := by
    rw [Int.cast_mul, Int.cast_natCast, mul_assoc, ← hk]
  exact le_antisymm ((rounded_le_mul heq.le).trans_eq heq.symm)
    (heq.trans_le (mul_le_rounded heq.ge))

def extended : Double → WithTop ℚ
  | finite q => q
  | infinite => ⊤

theorem extended_injective : Function.Injective extended := by
  intro x y h
  cases x <;> cases y <;> simp_all [extended]

instance : PartialOrder Double :=
  PartialOrder.lift extended extended_injective

@[simp] theorem finite_le_finite {a b : ℚ} : finite a ≤ finite b ↔ a ≤ b :=
  WithTop.coe_le_coe

@[simp] theorem finite_lt_finite {a b : ℚ} : finite a < finite b ↔ a < b :=
  WithTop.coe_lt_coe

theorem le_infinite (x : Double) : x ≤ infinite :=
  show x.extended ≤ ⊤ from le_top

theorem exists_eq_finite_of_le {x : Double} {b : ℚ} (h : x ≤ finite b) :
    ∃ a, x = finite a ∧ a ≤ b := by
  cases x with
  | finite a => exact ⟨a, rfl, finite_le_finite.mp h⟩
  | infinite => exact absurd h (WithTop.not_top_le_coe b)

theorem le_eq_true_iff {x y : Double} : x.le y = true ↔ x ≤ y := by
  cases x with
  | finite a =>
    cases y with
    | finite b => exact decide_eq_true_iff.trans finite_le_finite.symm
    | infinite => exact iff_of_true rfl (le_infinite _)
  | infinite =>
    cases y with
    | finite b => exact iff_of_false nofun (WithTop.not_top_le_coe b)
    | infinite => exact iff_of_true rfl le_rfl

theorem nearest_mono {a b : ℚ} (ha : 0 ≤ a) (h : a ≤ b) : nearest a ≤ nearest b := by
  have hround := rounded_mono ha h
  rw [nearest_eq_ite, nearest_eq_ite b]
  split_ifs with hlta hltb
  · exact finite_le_finite.mpr hround
  · exact le_infinite _
  · exact absurd (hround.trans_lt ‹_›) hlta
  · exact le_rfl

theorem nearest_of_onGrid {q : ℚ} (h : OnGrid q) (hlt : q < 2 ^ 1024) : nearest q = finite q := by
  rw [nearest_eq_ite, rounded_of_onGrid h, if_pos hlt]

end PluralRules.Double
