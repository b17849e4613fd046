import PluralRules.Proofs.Condition.Partial
import PluralRules.Proofs.Operand.Identity

/-!
Zeros at the end of a fraction. A number written with more of them has other operands `v` and `f`,
and all else in common with the shorter one, the double `n` included. So what asks for neither `v`
nor `f` cannot tell the two apart.
-/

namespace PluralRules

namespace Operand

def padded (text : String) (zeros : ℕ) : String :=
  text ++ (if '.' ∈ text.toList then "" else ".") ++ String.ofList (List.replicate zeros '0')

theorem significant_append_replicate (digits : List Char) (zeros : ℕ) :
    significant (digits ++ List.replicate zeros '0') = significant digits := by
  rw [significant, List.reverse_append, List.reverse_replicate, dropWhile_replicate_append,
    significant]

theorem ofDigitChars_append_replicate (digits : List Char) (zeros : ℕ) :
    Nat.ofDigitChars 10 (digits ++ List.replicate zeros '0') 0 =
      Nat.ofDigitChars 10 digits 0 * 10 ^ zeros := by
  rw [Nat.ofDigitChars_append, Nat.ofDigitChars_replicate_zero, Nat.mul_comm]

theorem ofDigits_append_replicate (integer fraction : List Char) (zeros : ℕ) :
    ofDigits integer (fraction ++ List.replicate zeros '0') =
      { ofDigits integer fraction with
        v := (ofDigits integer fraction).v + zeros
        f := (ofDigits integer fraction).f * 10 ^ zeros } := by
  have hvalue (f : ℕ) : ((f * 10 ^ zeros : ℕ) : ℚ) / 10 ^ (fraction.length + zeros) =
      f / 10 ^ fraction.length := by
    push_cast
    rw [pow_add, mul_div_mul_right _ _ (by positivity)]
  simp only [ofDigits, significant_append_replicate, ofDigitChars_append_replicate,
    List.length_append, List.length_replicate, hvalue]
  push_cast
  rfl

section

variable {text : String} {front behind : List Char}

theorem digits_of_split (htext : text.toList = front ++ '.' :: behind) (hfront : '.' ∉ front) :
    integerDigits text = front.filter Char.isDigit ∧
      fractionDigits text = behind.filter Char.isDigit := by
  have hno : ∀ c ∈ front, (c != '.') = true := fun c hc =>
    bne_iff_ne.mpr fun hpoint => hfront (hpoint ▸ hc)
  rw [integerDigits, fractionDigits, htext, List.takeWhile_append_of_pos hno,
    List.dropWhile_append_of_pos hno, List.takeWhile_cons_of_neg (by decide), List.append_nil,
    List.dropWhile_cons_of_neg (by decide), List.filter_cons_of_neg (by decide)]
  exact ⟨rfl, rfl⟩

theorem digits_of_notMem (htext : '.' ∉ text.toList) :
    integerDigits text = text.toList.filter Char.isDigit ∧ fractionDigits text = [] := by
  have hno : ∀ c ∈ text.toList, (c != '.') = true := fun c hc =>
    bne_iff_ne.mpr fun hpoint => htext (hpoint ▸ hc)
  rw [integerDigits, fractionDigits, List.takeWhile_eq_self_iff.mpr hno,
    List.dropWhile_eq_nil_iff.mpr hno]
  exact ⟨rfl, rfl⟩

theorem digits_padded (text : String) (zeros : ℕ) :
    integerDigits (padded text zeros) = integerDigits text ∧
      fractionDigits (padded text zeros) = fractionDigits text ++ List.replicate zeros '0' := by
  have hzeros : (List.replicate zeros '0').filter Char.isDigit = List.replicate zeros '0' :=
    List.filter_replicate_of_pos (by decide)
  have htoList : (padded text zeros).toList =
      text.toList ++ (if '.' ∈ text.toList then [] else ['.']) ++ List.replicate zeros '0' := by
    unfold padded
    split <;> simp
  by_cases hpoint : '.' ∈ text.toList
  · obtain ⟨front, behind, htext, hfront⟩ := List.eq_append_cons_of_mem hpoint
    have hpadded : (padded text zeros).toList =
        front ++ '.' :: (behind ++ List.replicate zeros '0') := by
      rw [htoList, if_pos hpoint, htext, List.append_nil, List.append_assoc, List.cons_append]
    obtain ⟨hinteger, hfraction⟩ := digits_of_split htext hfront
    obtain ⟨hinteger', hfraction'⟩ := digits_of_split hpadded hfront
    rw [hinteger, hinteger', hfraction, hfraction', List.filter_append, hzeros]
    exact ⟨rfl, rfl⟩
  · have hpadded : (padded text zeros).toList = text.toList ++ '.' :: List.replicate zeros '0' := by
      rw [htoList, if_neg hpoint, List.append_assoc, List.singleton_append]
    obtain ⟨hinteger, hfraction⟩ := digits_of_notMem hpoint
    obtain ⟨hinteger', hfraction'⟩ := digits_of_split hpadded hpoint
    rw [hinteger, hinteger', hfraction, hfraction', hzeros]
    exact ⟨rfl, rfl⟩

end

theorem eq_of_ofLiteral_padded {text : String} {zeros : ℕ} {x y : Operand}
    (hx : ofLiteral text = .ok x) (hy : ofLiteral (padded text zeros) = .ok y) :
    y = { x with v := x.v + zeros, f := x.f * 10 ^ zeros } := by
  obtain ⟨-, rfl⟩ := eq_ofDigits_of_ofLiteral hx
  obtain ⟨-, rfl⟩ := eq_ofDigits_of_ofLiteral hy
  obtain ⟨hinteger, hfraction⟩ := digits_padded text zeros
  rw [hinteger, hfraction, ofDigits_append_replicate]

end Operand

/-- Some relation of the condition asks for the operand. -/
def Condition.Mentions (condition : Condition) (symbol : Symbol) : Prop :=
  ∃ relation ∈ condition.relations, relation.expression.symbol = symbol

instance (condition : Condition) (symbol : Symbol) : Decidable (condition.Mentions symbol) :=
  inferInstanceAs
    (Decidable (∃ relation ∈ condition.relations, relation.expression.symbol = symbol))

theorem Relation.holds_withVF {relation : Relation} (hv : relation.expression.symbol ≠ .v)
    (hf : relation.expression.symbol ≠ .f) (x : Operand) (v : ℕ) (f : ℤ) :
    relation.holds { x with v := v, f := f } = relation.holds x := by
  have hinteger : Operand.integer { x with v := v, f := f } relation.expression.symbol =
      x.integer relation.expression.symbol := by
    generalize relation.expression.symbol = symbol at hv hf
    cases symbol <;> first | rfl | contradiction
  have hfractional (modulus? : Option UInt32) :
      Operand.fractional { x with v := v, f := f } modulus? = x.fractional modulus? := by
    cases modulus? <;> rfl
  simp only [holds, Expression.quantity, hinteger, hfractional]

theorem Condition.holds_withVF {condition : Condition} (hv : ¬condition.Mentions .v)
    (hf : ¬condition.Mentions .f) (x : Operand) (v : ℕ) (f : ℤ) :
    condition.holds { x with v := v, f := f } = condition.holds x :=
  holdsBy_congr fun relation hrelation =>
    Relation.holds_withVF (fun h => hv ⟨relation, hrelation, h⟩)
      (fun h => hf ⟨relation, hrelation, h⟩) x v f

theorem RuleSet.categoryFor_withVF {ruleSet : RuleSet}
    (hv : ∀ rule ∈ ruleSet.rules, ¬rule.condition.Mentions .v)
    (hf : ∀ rule ∈ ruleSet.rules, ¬rule.condition.Mentions .f) (x : Operand) (v : ℕ) (f : ℤ) :
    ruleSet.categoryFor { x with v := v, f := f } = ruleSet.categoryFor x := by
  rw [← categoryBy_holds, ← categoryBy_holds]
  exact categoryBy_congr fun rule hrule =>
    Condition.holds_withVF (hv rule hrule) (hf rule hrule) x v f

/-- More zeros at the end of a literal are seen in `v` and `f` alone. A condition that mentions
neither, of whatever shape, has the same result for both spellings, and rules with such conditions
select the same category. -/
theorem Operand.padding_shows_only_in_v_and_f {text : String} {zeros : ℕ} {x y : Operand}
    (hx : ofLiteral text = .ok x) (hy : ofLiteral (padded text zeros) = .ok y) :
    y = { x with v := x.v + zeros, f := x.f * 10 ^ zeros } ∧
      (∀ condition : Condition, ¬condition.Mentions .v → ¬condition.Mentions .f →
        condition.holds y = condition.holds x) ∧
      ∀ ruleSet : RuleSet, (∀ rule ∈ ruleSet.rules, ¬rule.condition.Mentions .v) →
        (∀ rule ∈ ruleSet.rules, ¬rule.condition.Mentions .f) →
          ruleSet.categoryFor y = ruleSet.categoryFor x := by
  obtain rfl := eq_of_ofLiteral_padded hx hy
  refine ⟨rfl, fun condition hv hf => ?_, fun ruleSet hv hf => ?_⟩
  · exact Condition.holds_withVF hv hf x _ _
  · exact RuleSet.categoryFor_withVF hv hf x _ _

theorem Operand.padding_shows_only_in_v_and_f_rounded :
    let condition : Condition :=
      ⟨[[⟨⟨.n, some 100⟩, false, [.range 93 94]⟩, ⟨⟨.w, none⟩, true, [.single 2]⟩]]⟩
    let ruleSet : RuleSet := ⟨["fr"], [⟨.one, ⟨[[⟨⟨.i, some 10⟩, false, [.range 0 1]⟩]]⟩⟩]⟩
    (∃ x y, ofLiteral "-9007199254740993.50" = .ok x ∧
      ofLiteral "-9007199254740993.5000" = .ok y ∧ y.v = 4 ∧
        condition.holds y = condition.holds x) ∧
    ∃ x y, ofLiteral "71" = .ok x ∧ ofLiteral "71.0" = .ok y ∧ y.v = 1 ∧
      ruleSet.categoryFor y = ruleSet.categoryFor x := by
  intro condition ruleSet
  have hlong : ofLiteral "-9007199254740993.50" =
      .ok (ofDigits "9007199254740993".toList ['5', '0']) := by decide +kernel
  have hlonger : ofLiteral (padded "-9007199254740993.50" 2) =
      .ok (ofDigits "9007199254740993".toList ['5', '0', '0', '0']) := by decide +kernel
  have hinteger : ofLiteral "71" = .ok (ofDigits ['7', '1'] []) := by decide +kernel
  have hdecimal : ofLiteral (padded "71" 1) = .ok (ofDigits ['7', '1'] ['0']) := by decide +kernel
  obtain ⟨-, hholds, -⟩ := padding_shows_only_in_v_and_f hlong hlonger
  obtain ⟨-, -, hcategory⟩ := padding_shows_only_in_v_and_f hinteger hdecimal
  exact ⟨⟨_, _, hlong, hlonger, rfl, hholds condition (by decide) (by decide)⟩,
    ⟨_, _, hinteger, hdecimal, rfl, hcategory ruleSet (by decide) (by decide)⟩⟩

end PluralRules
