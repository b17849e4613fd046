import PluralRules.Proofs.Operand.Digits

/-!
Which texts are decimal literals, and what their digits give. The digits without the zeros at their
end are said here as a part of the fraction and not computed. The fields of an operand fit together
however the number is given.
-/

namespace PluralRules.Operand

/-- The operands that stand in the digits. What is left of the fraction does not end in a zero. -/
structure HasDigits (integer fraction : List Char) (x : Operand) : Prop where
  i_eq : x.i = Nat.ofDigitChars 10 integer 0
  v_eq : x.v = fraction.length
  f_eq : x.f = Nat.ofDigitChars 10 fraction 0
  unpadded : ∃ kept zeros, fraction = kept ++ List.replicate zeros '0' ∧
    kept.getLast? ≠ some '0' ∧ x.w = kept.length ∧ x.t = Nat.ofDigitChars 10 kept 0

/-- The fraction digits with and without the zeros at their end are those of one fraction. -/
structure Coherent (x : Operand) : Prop extends x.Regular where
  w_le : x.w ≤ x.v
  f_eq : x.f = x.t * 10 ^ (x.v - x.w)
  f_lt : x.f < 10 ^ x.v
  t_eq_zero_iff : x.t = 0 ↔ x.w = 0
  not_dvd : x.t = 0 ∨ ¬10 ∣ x.t

theorem getLast?_significant_ne (digits : List Char) :
    (significant digits).getLast? ≠ some '0' := by
  rw [significant, List.getLast?_reverse]
  intro h
  have hhead := List.head?_dropWhile_not (· == '0') digits.reverse
  rw [h] at hhead
  exact absurd hhead (by decide)

theorem hasDigits_ofDigits (integer fraction : List Char) :
    (ofDigits integer fraction).HasDigits integer fraction := by
  obtain ⟨zeros, hzeros⟩ := exists_eq_significant_append fraction
  exact ⟨rfl, rfl, rfl, significant fraction, zeros, hzeros, getLast?_significant_ne fraction,
    rfl, rfl⟩

theorem not_dvd_ofDigitChars {digits : List Char} (hdigits : ∀ c ∈ digits, c.isDigit = true)
    (hne : digits ≠ []) (hlast : digits.getLast? ≠ some '0') :
    ¬10 ∣ Nat.ofDigitChars 10 digits 0 := by
  obtain ⟨front, last, rfl⟩ : ∃ front last, digits = front ++ [last] :=
    ⟨_, _, (List.dropLast_append_getLast hne).symm⟩
  have hdigit := Text.isDigit_iff.mp (hdigits last (by simp))
  have hzero : last.toNat ≠ 48 := by
    intro h
    apply hlast
    rw [List.getLast?_append_of_ne_nil _ (List.cons_ne_nil _ _), List.getLast?_singleton]
    exact congrArg some (Char.toNat_inj.mp h)
  rw [Nat.ofDigitChars_append, Nat.ofDigitChars_cons, Nat.ofDigitChars_nil]
  show ¬10 ∣ 10 * _ + (last.toNat - 48)
  omega

theorem coherent_of_hasDigits {integer fraction : List Char} {x : Operand}
    (hliteral : IsLiteral integer fraction) (hregular : x.Regular)
    (h : x.HasDigits integer fraction) : x.Coherent := by
  obtain ⟨kept, zeros, rfl, hlast, hw, ht⟩ := h.unpadded
  have hfraction : ∀ c ∈ kept ++ List.replicate zeros '0', c.isDigit = true := fun c hc =>
    hliteral.digits c (List.mem_append_right _ hc)
  have hkept : ∀ c ∈ kept, c.isDigit = true := fun c hc =>
    hfraction c (List.mem_append_left _ hc)
  have hv : x.v = x.w + zeros := by
    rw [h.v_eq, hw, List.length_append, List.length_replicate]
  have hf : x.f = x.t * 10 ^ (x.v - x.w) := by
    rw [h.f_eq, ht, hv, Nat.add_sub_cancel_left, Nat.ofDigitChars_append,
      Nat.ofDigitChars_replicate_zero, Nat.mul_comm]
    push_cast
    rfl
  have hlt : x.f < 10 ^ x.v := by
    rw [h.f_eq, h.v_eq]
    exact mod_cast ofDigitChars_lt hfraction
  rcases eq_or_ne kept [] with rfl | hne
  · have htzero : x.t = 0 := ht
    exact ⟨hregular, by omega, hf, hlt, by simp [htzero, hw], .inl htzero⟩
  · have hdvd : ¬(10 : ℤ) ∣ x.t := by
      rw [ht]
      exact mod_cast not_dvd_ofDigitChars hkept hne hlast
    have htne : x.t ≠ 0 := fun hzero => hdvd (hzero ▸ dvd_zero 10)
    have hwne : x.w ≠ 0 := by
      rw [hw]
      exact (List.length_pos_of_ne_nil hne).ne'
    exact ⟨hregular, by omega, hf, hlt, iff_of_false htne hwne, .inr hdvd⟩

theorem coherent_of_numeral {numeral : Numeral} {x : Operand} (h : numeral.operand = .ok x) :
    x.Coherent := by
  cases numeral with
  | literal text =>
    obtain ⟨integer, fraction, hliteral, rfl⟩ := exists_of_ofLiteral_eq_ok h
    exact coherent_of_hasDigits hliteral (regular_ofDigits hliteral) (hasDigits_ofDigits _ _)
  | integer value =>
    cases h
    exact ⟨regular_ofInt value, le_rfl, rfl, by simp [ofInt], iff_of_true rfl rfl, .inl rfl⟩

theorem ofLiteral_eq_ok_iff {text : String} {x : Operand} :
    ofLiteral text = .ok x ↔ readLiteral text.toList = .ok x := by
  unfold ofLiteral
  cases readLiteral text.toList with
  | error fault => exact ⟨nofun, nofun⟩
  | ok y => exact ⟨congrArg _ ∘ Except.ok.inj, congrArg _ ∘ Except.ok.inj⟩

/-- The literals are the texts with at most one sign, digits of an integer and, behind a point,
digits of a fraction, both within bounds. The digits give the operands, whatever the sign, and the
fields of the operands fit together, also if they come from an integer. -/
theorem ofLiteral_reads_digits :
    (∀ text, (∃ x, ofLiteral text = .ok x) ↔ ∃ sign ∈ signs, ∃ integer fraction,
      text.toList = spelling sign integer fraction ∧ IsLiteral integer fraction) ∧
    (∀ integer fraction, IsLiteral integer fraction → ∃ x : Operand,
      x.HasDigits integer fraction ∧ ∀ sign ∈ signs,
        ofLiteral (String.ofList (spelling sign integer fraction)) = .ok x) ∧
    ∀ (numeral : Numeral) (x : Operand), numeral.operand = .ok x → x.Coherent := by
  refine ⟨fun text => ?_, fun integer fraction hliteral => ?_, fun _ _ => coherent_of_numeral⟩
  · constructor
    · rintro ⟨x, h⟩
      obtain ⟨sign, hsign, integer, fraction, htext, hliteral, -⟩ :=
        readLiteral_eq_ok_iff.mp (ofLiteral_eq_ok_iff.mp h)
      exact ⟨sign, hsign, integer, fraction, htext, hliteral⟩
    · rintro ⟨sign, hsign, integer, fraction, htext, hliteral⟩
      refine ⟨ofDigits integer fraction, ofLiteral_eq_ok_iff.mpr ?_⟩
      rw [htext]
      exact readLiteral_spelling hsign hliteral
  · refine ⟨ofDigits integer fraction, hasDigits_ofDigits integer fraction, ?_⟩
    intro sign hsign
    rw [ofLiteral_eq_ok_iff, String.toList_ofList]
    exact readLiteral_spelling hsign hliteral

theorem ofLiteral_reads_digits_padded :
    (∃ x : Operand, x.HasDigits ['0', '0', '7'] ['0', '5', '0'] ∧ ofLiteral "-007.050" = .ok x ∧
      ofLiteral "007.050" = .ok x) ∧
    (∃ x, ofLiteral "+9223372036854775807" = .ok x) ∧
    (ofInt (-9223372036854775808)).Coherent := by
  obtain ⟨hread, hdigits, hcoherent⟩ := ofLiteral_reads_digits
  refine ⟨?_, (hread _).mpr ?_, hcoherent (.integer _) _ rfl⟩
  · obtain ⟨x, hx, hsigns⟩ := hdigits ['0', '0', '7'] ['0', '5', '0']
      ⟨by decide, List.all_eq_true.mp (by decide), by decide, by decide, by decide⟩
    exact ⟨x, hx, hsigns ['-'] (by decide), hsigns [] (by decide)⟩
  · exact ⟨['+'], by decide, "9223372036854775807".toList, [], by decide,
      ⟨by decide, List.all_eq_true.mp (by decide), by decide, by decide, by decide⟩⟩

end PluralRules.Operand
