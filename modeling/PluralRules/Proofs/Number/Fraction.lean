import PluralRules.Proofs.Number.Rounding

/-!
Decimal fractions as quotients of doubles. Powers of ten are doubles up to the twenty-second, and
the rounded power stays above that one from there on, so a rounded fraction never exceeds one.
-/

namespace PluralRules.Double

theorem onGrid_natCast {k : ℕ} (h : k < 2 ^ 53) : OnGrid k :=
  ⟨k, 0, h, by norm_num, by simp⟩

theorem onGrid_div_two_pow {m s : ℕ} (hm : m < 2 ^ 53) (hs : s ≤ 1074) : OnGrid (m / 2 ^ s) :=
  ⟨m, -s, hm, by omega, by rw [zpow_neg, zpow_natCast, div_eq_mul_inv]⟩

theorem onGrid_ten_pow {k : ℕ} (h : k ≤ 22) : OnGrid (10 ^ k) := by
  refine ⟨5 ^ k, k, ?_, by omega, ?_⟩
  · exact (Nat.pow_le_pow_right (by norm_num) h).trans_lt (by norm_num)
  · rw [zpow_natCast, Nat.cast_pow, ← mul_pow]
    norm_num

theorem lt_bound_of_le {q : ℚ} (h : q ≤ 2 ^ 100) : q < 2 ^ 1024 :=
  h.trans_lt (pow_lt_pow_right₀ one_lt_two (by norm_num))

theorem nearest_natCast {k : ℕ} (h : k < 2 ^ 53) : nearest k = finite k := by
  apply nearest_of_onGrid (onGrid_natCast h)
  apply lt_bound_of_le
  have hk : (k : ℚ) < 2 ^ 53 := mod_cast h
  exact hk.le.trans (by norm_num)

theorem nearest_div_two_pow {m s : ℕ} (hm : m < 2 ^ 53) (hs : s ≤ 53) :
    nearest (m / 2 ^ s) = finite (m / 2 ^ s) := by
  apply nearest_of_onGrid (onGrid_div_two_pow hm (by omega))
  apply lt_bound_of_le
  have hm' : (m : ℚ) < 2 ^ 53 := mod_cast hm
  have hdiv : (m : ℚ) / 2 ^ s ≤ m := div_le_self (Nat.cast_nonneg m) (one_le_pow₀ one_le_two)
  exact (hdiv.trans hm'.le).trans (by norm_num)

theorem nearest_inside {k s : ℕ} (hs : 1 ≤ s) (h : (k + 1) * 2 ^ s ≤ 2 ^ 53) :
    nearest (k + 1 / 2 ^ s) = finite (k + 1 / 2 ^ s) ∧
      nearest (k + (1 - 1 / 2 ^ s)) = finite (k + (1 - 1 / 2 ^ s)) := by
  have hpow : 2 ^ 1 ≤ 2 ^ s := Nat.pow_le_pow_right (by norm_num) hs
  have hsize : s ≤ 53 := (Nat.pow_le_pow_iff_right one_lt_two).mp
    ((Nat.le_mul_of_pos_left _ (Nat.succ_pos k)).trans h)
  have hsplit : (k + 1) * 2 ^ s = k * 2 ^ s + 2 ^ s := Nat.succ_mul ..
  have hunit : (2 : ℚ) ^ s ≠ 0 := by positivity
  have hlow : ((k * 2 ^ s + 1 : ℕ) : ℚ) / 2 ^ s = k + 1 / 2 ^ s := by
    push_cast
    rw [add_div, mul_div_cancel_right₀ _ hunit]
  have hhigh : ((k * 2 ^ s + (2 ^ s - 1) : ℕ) : ℚ) / 2 ^ s = k + (1 - 1 / 2 ^ s) := by
    push_cast [Nat.cast_sub (show 1 ≤ 2 ^ s by omega)]
    rw [add_div, mul_div_cancel_right₀ _ hunit, sub_div, div_self hunit]
  rw [← hlow, ← hhigh]
  exact ⟨nearest_div_two_pow (by omega) hsize, nearest_div_two_pow (by omega) hsize⟩

theorem nearest_ten_pow {k : ℕ} (h : k ≤ 22) : nearest (10 ^ k) = finite (10 ^ k) := by
  apply nearest_of_onGrid (onGrid_ten_pow h)
  apply lt_bound_of_le
  exact (pow_le_pow_right₀ (by norm_num) h).trans (by norm_num)

theorem nearest_mem_Icc {a b q : ℚ} (ha : nearest a = finite a) (hb : nearest b = finite b)
    (h0 : 0 ≤ a) (haq : a ≤ q) (hqb : q ≤ b) :
    finite a ≤ nearest q ∧ nearest q ≤ finite b := by
  rw [← ha, ← hb]
  exact ⟨nearest_mono h0 haq, nearest_mono (h0.trans haq) hqb⟩

structure TenPower (k : ℕ) (x : Double) : Prop where
  exact : k ≤ 22 → x = finite (10 ^ k)
  large : 22 ≤ k → finite (10 ^ 22) ≤ x

namespace TenPower

variable {a b k : ℕ} {x y : Double}

theorem finite_le (h : TenPower k x) : finite (10 ^ min k 22) ≤ x := by
  rcases Nat.le_total k 22 with hk | hk
  · rw [min_eq_left hk, h.exact hk]
  · rw [min_eq_right hk]
    exact h.large hk

theorem one : TenPower 0 (finite 1) :=
  ⟨fun _ => by rw [pow_zero], nofun⟩

theorem ten : TenPower 1 (finite 10) :=
  ⟨fun _ => by rw [pow_one], nofun⟩

theorem mul (hx : TenPower a x) (hy : TenPower b y) : TenPower (a + b) (x.mul y) where
  exact h := by
    rw [hx.exact (by omega), hy.exact (by omega), Double.mul, ← pow_add, nearest_ten_pow h]
  large h := by
    have hlowx := hx.finite_le
    have hlowy := hy.finite_le
    cases x with
    | infinite => exact le_infinite _
    | finite p =>
      cases y with
      | infinite => exact le_infinite _
      | finite q =>
        rw [finite_le_finite] at hlowx hlowy
        rw [Double.mul, ← nearest_ten_pow le_rfl]
        apply nearest_mono (by positivity)
        calc (10 : ℚ) ^ 22 ≤ 10 ^ (min a 22 + min b 22) :=
              pow_le_pow_right₀ (by norm_num) (by omega)
          _ = 10 ^ min a 22 * 10 ^ min b 22 := pow_add ..
          _ ≤ p * q := mul_le_mul hlowx hlowy (by positivity) (le_trans (by positivity) hlowx)

theorem pow_go {base product : Double} {exponent : ℕ} (hbase : TenPower a base)
    (hproduct : TenPower b product) :
    TenPower (a * exponent + b) (pow.go base exponent product) := by
  induction exponent using Nat.strong_induction_on generalizing a b base product with
  | _ exponent ih =>
    have hodd : TenPower (a * (exponent % 2) + b)
        (if exponent % 2 = 1 then product.mul base else product) := by
      split_ifs with h
      · rw [h, mul_one, add_comm]
        exact hproduct.mul hbase
      · rwa [show exponent % 2 = 0 by omega, mul_zero, zero_add]
    rw [pow.go]
    by_cases h : exponent < 2
    · rw [if_pos h]
      rwa [Nat.mod_eq_of_lt h] at hodd ⊢
    · have hhalf := ih (exponent / 2) (by omega) (hbase.mul hbase) hodd
      have hsum : a * exponent + b = (a + a) * (exponent / 2) + (a * (exponent % 2) + b) := by
        nth_rewrite 1 [← Nat.div_add_mod exponent 2]
        ring
      rwa [if_neg h, hsum]

theorem pow (w : ℕ) : TenPower w ((finite 10).pow w) := by
  have h : TenPower (1 * w + 0) (Double.pow.go (finite 10) w (finite 1)) := ten.pow_go one
  rwa [one_mul, add_zero] at h

end TenPower

def fraction (t w : ℕ) : Double :=
  (nearest t).div ((finite 10).pow w)

theorem fraction_eq_nearest {t w : ℕ} (ht : t < 2 ^ 53) (hw : w ≤ 22) :
    fraction t w = nearest (t / 10 ^ w) := by
  rw [fraction, nearest_natCast ht, (TenPower.pow w).exact hw, Double.div]

theorem fraction_mem_Icc {t w : ℕ} (ht : t < 10 ^ w) (hmax : t ≤ 10 ^ 22) :
    finite 0 ≤ fraction t w ∧ fraction t w ≤ finite 1 := by
  have hscale := (TenPower.pow w).finite_le
  have hdigits : (t : ℚ) ≤ 10 ^ min w 22 := by
    rcases Nat.le_total w 22 with hw | hw
    · rw [min_eq_left hw]
      exact mod_cast ht.le
    · rw [min_eq_right hw]
      exact mod_cast hmax
  have hnearest : nearest t ≤ finite (10 ^ min w 22) := by
    rw [← nearest_ten_pow (min_le_right w 22)]
    exact nearest_mono (Nat.cast_nonneg t) hdigits
  obtain ⟨p, hp, -⟩ := exists_eq_finite_of_le hnearest
  have hzero : nearest 0 = finite 0 := mod_cast nearest_natCast (k := 0) (by norm_num)
  have hone : nearest 1 = finite 1 := mod_cast nearest_natCast (k := 1) (by norm_num)
  have hnonneg : 0 ≤ p := by
    rw [← finite_le_finite, ← hp, ← hzero]
    exact nearest_mono le_rfl (Nat.cast_nonneg t)
  rw [fraction, hp]
  rw [hp] at hnearest
  cases hq : (finite 10).pow w with
  | infinite => exact ⟨le_rfl, finite_le_finite.mpr zero_le_one⟩
  | finite q =>
    rw [hq] at hscale
    have hpq : p ≤ q := finite_le_finite.mp (hnearest.trans hscale)
    exact nearest_mem_Icc hzero hone le_rfl (div_nonneg hnonneg (hnonneg.trans hpq))
      (div_le_one_of_le₀ hpq (hnonneg.trans hpq))

theorem add_mem_Icc {a low high : ℚ} {x : Double} (hlow : nearest (a + low) = finite (a + low))
    (hhigh : nearest (a + high) = finite (a + high)) (h0 : 0 ≤ a + low) (hlx : finite low ≤ x)
    (hxh : x ≤ finite high) :
    finite (a + low) ≤ (finite a).add x ∧ (finite a).add x ≤ finite (a + high) := by
  obtain ⟨q, rfl, hq⟩ := exists_eq_finite_of_le hxh
  apply nearest_mem_Icc hlow hhigh h0
  · exact add_le_add_right (finite_le_finite.mp hlx) a
  · exact add_le_add_right hq a

end PluralRules.Double
