import PluralRules.Proofs.Operand.Literal
import PluralRules.RuleSet

/-!
The decimal text of an integer. It is a literal as long as the magnitude has at most 63 bits, and
then it has the operands of the integer. Beyond that it is refused, while the integer is cut.
-/

namespace PluralRules.Operand

theorem exists_toList_toString_eq (x : ℤ) :
    ∃ sign ∈ signs, (toString x).toList = spelling sign (Nat.toDigits 10 x.natAbs) [] := by
  have hdigits (k : ℕ) : (toString k).toList = Nat.toDigits 10 k := by
    rw [Nat.toString_eq_repr, Nat.toList_repr]
  cases x with
  | ofNat k =>
    refine ⟨[], by decide, ?_⟩
    rw [spelling, if_pos rfl, List.append_nil, List.nil_append]
    exact hdigits k
  | negSucc k =>
    refine ⟨['-'], by decide, ?_⟩
    rw [spelling, if_pos rfl, List.append_nil, List.singleton_append]
    exact (String.toList_append (s := "-")).trans (congrArg _ (hdigits (k + 1)))

theorem checkDigits_toDigits (k : ℕ) :
    checkDigits (Nat.toDigits 10 k) [] =
      if maxPart < k then .error .integerTooLarge else .ok (ofDigits (Nat.toDigits 10 k) []) := by
  have hempty : ¬(Nat.toDigits 10 k).isEmpty = true := by simp
  have hall : (Nat.toDigits 10 k ++ []).all Char.isDigit = true := by
    rw [List.append_nil, List.all_eq_true]
    exact fun c hc => Nat.isDigit_of_mem_toDigits (by decide) (by decide) hc
  rw [checkDigits, if_neg hempty, hall, if_neg (by decide), Nat.ofDigitChars_ten_toDigits]
  rfl

theorem ofLiteral_toString (x : ℤ) :
    ofLiteral (toString x) =
      if maxPart < x.natAbs then .error ⟨toString x, .integerTooLarge⟩
      else .ok (ofDigits (Nat.toDigits 10 x.natAbs) []) := by
  obtain ⟨sign, hsign, htext⟩ := exists_toList_toString_eq x
  have hread : readLiteral (toString x).toList = checkDigits (Nat.toDigits 10 x.natAbs) [] := by
    rw [htext]
    exact readLiteral_spelling_eq_checkDigits hsign Nat.toDigits_ne_nil
      (fun c hc => Nat.isDigit_of_mem_toDigits (by decide) (by decide) hc) []
  rw [ofLiteral, hread, checkDigits_toDigits]
  split <;> rfl

theorem ofDigits_toDigits {x : ℤ} (h : x.natAbs ≤ maxPart) :
    ofDigits (Nat.toDigits 10 x.natAbs) [] = ofInt x := by
  have hsum : (x.natAbs : ℚ) + (0 : ℕ) / 10 ^ 0 = x.natAbs := by
    rw [Nat.cast_zero, zero_div, add_zero]
  have hcut : min (x.natAbs : ℤ) maxPart = x.natAbs := min_eq_left (Nat.cast_le.mpr h)
  simp only [ofDigits, ofInt, Nat.ofDigitChars_ten_toDigits, Nat.ofDigitChars_nil, significant,
    List.reverse_nil, List.dropWhile_nil, List.length_nil, hsum, hcut]
  rfl

/-- The text of an integer gives the operands of the integer, and so the same category by any rules,
if the magnitude is below 2⁶³. From there on the text is no literal, and the integer part is the
greatest one there is, with no fraction. -/
theorem ofLiteral_toString_eq_ofInt_or_refused (x : ℤ) :
    (x.natAbs < 2 ^ 63 →
      ofLiteral (toString x) = .ok (ofInt x) ∧
        ∀ ruleSet : RuleSet,
          (ofLiteral (toString x)).map ruleSet.categoryFor = .ok (ruleSet.categoryFor (ofInt x))) ∧
    (2 ^ 63 ≤ x.natAbs →
      ofLiteral (toString x) = .error ⟨toString x, .integerTooLarge⟩ ∧
        (ofInt x).i = 2 ^ 63 - 1 ∧ (ofInt x).v = 0 ∧ (ofInt x).w = 0 ∧ (ofInt x).f = 0 ∧
        (ofInt x).t = 0) := by
  have hmax : maxPart + 1 = 2 ^ 63 := by decide
  refine ⟨fun hsmall => ?_, fun hlarge => ?_⟩
  · have hle : x.natAbs ≤ maxPart := by omega
    have hread : ofLiteral (toString x) = .ok (ofInt x) := by
      rw [ofLiteral_toString, if_neg (by omega), ofDigits_toDigits hle]
    refine ⟨hread, fun ruleSet => ?_⟩
    rw [hread]
    rfl
  · have hi : (ofInt x).i = maxPart := min_eq_right (Nat.cast_le.mpr (by omega))
    rw [ofLiteral_toString, if_pos (by omega)]
    exact ⟨rfl, by rw [hi]; rfl, rfl, rfl, rfl, rfl⟩

theorem ofLiteral_toString_eq_ofInt_or_refused_bounds :
    ofLiteral "-9007199254740993" = .ok (ofInt (-9007199254740993)) ∧
      ofLiteral "9223372036854775807" = .ok (ofInt 9223372036854775807) ∧
      ofLiteral "-9223372036854775808" = .error ⟨"-9223372036854775808", .integerTooLarge⟩ ∧
      (ofInt (-9223372036854775808)).i = 9223372036854775807 ∧
      (ofInt 18446744073709551615).i = 9223372036854775807 := by
  have hodd := ofLiteral_toString_eq_ofInt_or_refused (-9007199254740993)
  have hgreatest := ofLiteral_toString_eq_ofInt_or_refused 9223372036854775807
  have hlowest := ofLiteral_toString_eq_ofInt_or_refused (-9223372036854775808)
  have hunsigned := ofLiteral_toString_eq_ofInt_or_refused 18446744073709551615
  exact ⟨(hodd.1 (by decide)).1, (hgreatest.1 (by decide)).1, (hlowest.2 (by decide)).1,
    (hlowest.2 (by decide)).2.1, (hunsigned.2 (by decide)).2.1⟩

end PluralRules.Operand
