import PluralRules.Proofs.Condition.Fraction
import PluralRules.Proofs.Condition.Whole

/-!
Another reading of ranges, by which a range stands for the integers between its bounds. A number
with a nonzero fraction digit is none of them. A range that is compared with its bounds may hold
such a number all the same, and if no bound has the same double as the number, it does so exactly
if the integer part and its successor both lie in it.
-/

namespace PluralRules

def RangeItem.lists (q : ℚ) : RangeItem → Bool
  | single value => q = value.toNat
  | range low high => q.isInt && low.toNat ≤ q && q ≤ high.toNat

/-- Whether the relation holds if its ranges stand for integers. -/
def Relation.holdsOnIntegers (x : Operand) (relation : Relation) : Bool :=
  if relation.expression.symbol = .n ∧ x.t ≠ 0 then
    relation.ranges.any (RangeItem.lists (x.exact relation.expression.modulus?)) != relation.negated
  else relation.holds x

/-- The relation compares the double of the number with that of a bound, and the two are one. -/
def Relation.Tied (x : Operand) (relation : Relation) : Prop :=
  relation.expression.symbol = .n ∧ ∃ item ∈ relation.ranges, ∃ bound ∈ item.bounds,
    x.fractional relation.expression.modulus? = .nearest bound.toNat

def RangeItem.spans (k : ℕ) : RangeItem → Bool
  | single _ => false
  | range low high => Nat.ble low.toNat k && Nat.blt k high.toNat

theorem RangeItem.spans_eq_false {item : RangeItem} {k : ℕ} (h : item.top < k) :
    item.spans k = false := by
  cases item with
  | single value => rfl
  | range low high =>
    have hhigh : Nat.blt k high.toNat = false := by
      rw [← Bool.not_eq_true, Nat.blt_eq]
      exact h.not_gt
    rw [spans, hhigh, Bool.and_false]

theorem Operand.natCast_part {text : String} {x : Operand} (hx : ofLiteral text = .ok x) :
    (x.i.toNat : ℤ) = x.i := by
  have hnumeral : (Numeral.literal text).operand = .ok x := hx
  exact Int.toNat_of_nonneg (regular_of_numeral hnumeral).i_nonneg

namespace Operand.HasParts

variable {x : Operand} {modulus? : Option UInt32} {whole digits : ℕ}

theorem lt_exact (h : x.HasParts modulus? whole digits) : (whole : ℚ) < x.exact modulus? := by
  rw [h.exact_eq]
  linarith [h.fraction_pos]

theorem exact_lt (h : x.HasParts modulus? whole digits) : x.exact modulus? < (whole + 1 : ℕ) := by
  rw [h.exact_eq, Nat.cast_add, Nat.cast_one]
  linarith [h.fraction_lt_one]

theorem natCast_le_exact_iff (h : x.HasParts modulus? whole digits) (bound : ℕ) :
    (bound : ℚ) ≤ x.exact modulus? ↔ bound ≤ whole := by
  constructor
  · intro hle
    exact Nat.lt_succ_iff.mp (Nat.cast_lt.mp (hle.trans_lt h.exact_lt))
  · intro hle
    exact (Nat.cast_le.mpr hle).trans h.lt_exact.le

theorem exact_le_natCast_iff (h : x.HasParts modulus? whole digits) (bound : ℕ) :
    x.exact modulus? ≤ bound ↔ whole < bound := by
  constructor
  · intro hle
    exact Nat.cast_lt.mp (h.lt_exact.trans_le hle)
  · intro hlt
    exact h.exact_lt.le.trans (Nat.cast_le.mpr hlt)

theorem exact_ne_intCast (h : x.HasParts modulus? whole digits) (k : ℤ) :
    x.exact modulus? ≠ k := by
  intro heq
  have hlow := h.lt_exact
  have hhigh := h.exact_lt
  rw [heq] at hlow hhigh
  have hlow : (whole : ℤ) < k := mod_cast hlow
  have hhigh : k < (whole : ℤ) + 1 := mod_cast hhigh
  omega

end Operand.HasParts

section

variable {x : Operand} {modulus? : Option UInt32} {whole digits : ℕ}

theorem RangeItem.lists_eq_false (h : x.HasParts modulus? whole digits) (item : RangeItem) :
    item.lists (x.exact modulus?) = false := by
  cases item with
  | single value => exact decide_eq_false (mod_cast h.exact_ne_intCast value.toNat)
  | range low high =>
    have hint : (x.exact modulus?).isInt = false := by
      rw [← Bool.not_eq_true, Rat.isInt, beq_iff_eq]
      intro hden
      exact h.exact_ne_intCast _ (Rat.den_eq_one_iff _ |>.mp hden).symm
    rw [lists, hint, Bool.false_and, Bool.false_and]

theorem RangeItem.covers_exact_iff (h : x.HasParts modulus? whole digits) (item : RangeItem) :
    item.Covers (x.exact modulus?) ↔ item.spans whole = true := by
  cases item with
  | single value =>
    simp only [Covers, spans, Bool.false_eq_true, iff_false]
    exact mod_cast h.exact_ne_intCast value.toNat
  | range low high =>
    rw [Covers, spans, h.natCast_le_exact_iff, h.exact_le_natCast_iff, Bool.and_eq_true,
      Nat.ble_eq, Nat.blt_eq]

end

namespace Relation

variable {text : String} {x : Operand} {relation : Relation}

theorem exists_hasParts_wholeValue (hx : Operand.ofLiteral text = .ok x) (ht : x.t ≠ 0)
    (hn : relation.expression.symbol = .n) (hm : relation.expression.WellFormed) :
    ∃ digits, x.HasParts relation.expression.modulus?
      (relation.expression.wholeValue x.i.toNat 0) digits := by
  obtain ⟨whole, digits, h⟩ := Operand.exists_hasParts hx ht hm
  have hi := Operand.natCast_part hx
  have hwhole : relation.expression.wholeValue x.i.toNat 0 = whole := by
    have hvalue := h.whole_eq
    obtain ⟨⟨symbol, modulus?⟩, negated, ranges⟩ := relation
    obtain rfl : symbol = .n := hn
    cases modulus? with
    | none => exact Nat.cast_injective (hi.trans hvalue)
    | some modulus =>
      rw [Operand.whole, ← hi] at hvalue
      exact mod_cast hvalue
  exact ⟨digits, hwhole ▸ h⟩

theorem holdsOnIntegers_eq_negated (hx : Operand.ofLiteral text = .ok x) (ht : x.t ≠ 0)
    (hn : relation.expression.symbol = .n) (hm : relation.expression.WellFormed) :
    relation.holdsOnIntegers x = relation.negated := by
  obtain ⟨whole, digits, h⟩ := Operand.exists_hasParts hx ht hm
  have hnone : relation.ranges.any (RangeItem.lists (x.exact relation.expression.modulus?)) =
      false := by
    rw [List.any_eq_false]
    intro item _
    rw [item.lists_eq_false h]
    exact Bool.false_ne_true
  rw [holdsOnIntegers, if_pos ⟨hn, ht⟩, hnone, Bool.false_bne]

theorem holdsOnIntegers_of_ne (hn : relation.expression.symbol ≠ .n) :
    relation.holdsOnIntegers x = relation.holds x :=
  if_neg fun h => hn h.1

theorem holds_eq_spans (hx : Operand.ofLiteral text = .ok x) (ht : x.t ≠ 0)
    (hn : relation.expression.symbol = .n) (hm : relation.expression.WellFormed)
    (hfree : ¬relation.Tied x) :
    relation.holds x =
      (relation.ranges.any (RangeItem.spans (relation.expression.wholeValue x.i.toNat 0)) !=
        relation.negated) := by
  obtain ⟨digits, h⟩ := exists_hasParts_wholeValue hx ht hn hm
  have hquantity : relation.expression.quantity x =
      .real (x.fractional relation.expression.modulus?) := if_pos ⟨hn, ht⟩
  have hany : relation.ranges.any (fun item => item.contains (relation.expression.quantity x)) =
      relation.ranges.any
        (RangeItem.spans (relation.expression.wholeValue x.i.toNat 0)) := by
    rw [Bool.eq_iff_iff, List.any_eq_true, List.any_eq_true]
    refine exists_congr fun item => and_congr_right fun hitem => ?_
    have hbounds : ∀ bound ∈ item.bounds,
        x.fractional relation.expression.modulus? ≠ .nearest bound.toNat :=
      fun bound hbound htie => hfree ⟨hn, item, hitem, bound, hbound, htie⟩
    rw [hquantity, RangeItem.contains_real_iff h, RangeItem.coversRounded_iff hbounds,
      RangeItem.covers_exact_iff h]
  rw [holds, hany]

def hasSmallBounds (relation : Relation) : Bool :=
  match relation.expression.modulus? with
  | none => relation.ranges.all fun item => item.bounds.all fun bound => bound.toNat < 100
  | some modulus => modulus.toNat ≤ 100

theorem not_tied (hx : Operand.ofLiteral text = .ok x) (ht : x.t ≠ 0)
    (hm : relation.expression.WellFormed) (hsmall : relation.hasSmallBounds = true)
    (hfew : (min x.i 99 + 1) * 10 ^ x.w ≤ 2 ^ 52) : ¬relation.Tied x := by
  rintro ⟨hn, item, hitem, bound, hbound, htie⟩
  obtain ⟨⟨symbol, modulus?⟩, negated, ranges⟩ := relation
  obtain rfl : symbol = .n := hn
  obtain ⟨whole, digits, h⟩ := Operand.exists_hasParts hx ht hm
  dsimp only at h htie hsmall hitem
  have hfree (hle : (whole : ℤ) ≤ min x.i 99) :
      x.fractional modulus? ≠ .nearest bound.toNat := by
    have hscale : (0 : ℤ) < 10 ^ x.w := by positivity
    have hparts : ((whole : ℤ) + 1) * 10 ^ x.w ≤ 2 ^ 52 :=
      (mul_le_mul_of_nonneg_right (by omega) hscale.le).trans hfew
    exact mod_cast h.fractional_ne_nearest (mod_cast hparts) bound.toNat
  have hvalue := h.whole_eq
  cases modulus? with
  | none =>
    have hi : x.i = whole := hvalue
    -- From 100 on the double is above those of the bounds, however many digits there are.
    by_cases hlarge : 100 ≤ whole
    · have hsize : bound.toNat < 100 :=
        of_decide_eq_true (List.all_eq_true.mp (List.all_eq_true.mp hsmall item hitem) bound hbound)
      have hbelow : Double.nearest bound.toNat < .nearest (100 : ℕ) := by
        rw [Double.nearest_natCast (by omega), Double.nearest_natCast (by norm_num),
          Double.finite_lt_finite]
        exact mod_cast hsize
      have habove : Double.nearest (100 : ℕ) ≤ x.fractional none :=
        (Double.nearest_mono (by positivity) (mod_cast hlarge)).trans h.fractional_mem_Icc.1
      exact (hbelow.trans_le habove).ne htie.symm
    · exact hfree (by omega) htie
  | some modulus =>
    have hle : modulus.toNat ≤ 100 := of_decide_eq_true hsmall
    have hpos : 0 < modulus.toNat := hm modulus rfl
    have hi := Operand.natCast_part hx
    have hresidue : x.i.toNat % modulus.toNat = whole := by
      rw [Operand.whole, ← hi] at hvalue
      exact mod_cast hvalue
    have hlt : x.i.toNat % modulus.toNat < modulus.toNat := Nat.mod_lt _ hpos
    have hself : x.i.toNat % modulus.toNat ≤ x.i.toNat := Nat.mod_le ..
    exact hfree (by omega) htie

end Relation

end PluralRules
