import Mathlib.Data.List.TakeWhile
import Mathlib.Data.Nat.Cast.Order.Basic
import Mathlib.Algebra.Order.Field.Rat
import Mathlib.Tactic.FieldSimp
import Mathlib.Tactic.Linarith
import Mathlib.Tactic.Ring
import PluralRules.Operand
import PluralRules.Proofs.Text.CharacterClass
import PluralRules.Reading

/-!
The digits of a literal and the operands that they give. Zeros at the end of the fraction change its
digits as a number and their count, but not the fraction that both stand for.
-/

namespace PluralRules

namespace Operand

theorem ofDigitChars_lt {digits : List Char} (h : ∀ c ∈ digits, c.isDigit = true) :
    Nat.ofDigitChars 10 digits 0 < 10 ^ digits.length := by
  induction digits with
  | nil => simp
  | cons c digits ih =>
    obtain ⟨hc, hdigits⟩ := List.forall_mem_cons.mp h
    have hvalue : c.toNat - '0'.toNat ≤ 9 := by
      have := Text.isDigit_iff.mp hc
      show c.toNat - 48 ≤ 9
      omega
    have hrest := ih hdigits
    rw [Nat.ofDigitChars_cons, Nat.ofDigitChars_eq_ofDigitChars_zero, List.length_cons, pow_succ]
    nlinarith

theorem exists_eq_replicate_append (digits : List Char) :
    ∃ zeros, digits = List.replicate zeros '0' ++ digits.dropWhile (· == '0') := by
  let leading := digits.takeWhile (· == '0')
  have hzeros : leading = List.replicate leading.length '0' := by
    apply List.eq_replicate_of_mem
    intro c hc
    have hzero := List.mem_takeWhile_imp (p := fun c => c == '0') hc
    exact beq_iff_eq.mp hzero
  refine ⟨leading.length, ?_⟩
  rw [← hzeros]
  exact List.takeWhile_append_dropWhile.symm

theorem exists_eq_significant_append (digits : List Char) :
    ∃ zeros, digits = significant digits ++ List.replicate zeros '0' := by
  obtain ⟨zeros, hzeros⟩ := exists_eq_replicate_append digits.reverse
  have hreverse := congrArg List.reverse hzeros
  rw [List.reverse_append, List.reverse_reverse, List.reverse_replicate] at hreverse
  exact ⟨zeros, hreverse⟩

structure IsLiteral (integer fraction : List Char) : Prop where
  nonempty : integer ≠ []
  digits : ∀ c ∈ integer ++ fraction, c.isDigit = true
  integer_le : Nat.ofDigitChars 10 integer 0 ≤ maxPart
  places_le : fraction.length ≤ maxPlaces
  fraction_le : Nat.ofDigitChars 10 fraction 0 ≤ maxPart

theorem checkDigits_eq_ok_iff {integer fraction : List Char} {x : Operand} :
    checkDigits integer fraction = .ok x ↔
      IsLiteral integer fraction ∧ x = ofDigits integer fraction := by
  unfold checkDigits
  constructor
  · intro h
    split_ifs at h with hempty hdigits hinteger hplaces hfraction
    cases h
    refine ⟨⟨?_, ?_, by omega, by omega, by omega⟩, rfl⟩
    · simpa using hempty
    · exact List.all_eq_true.mp (by simpa using hdigits)
  · rintro ⟨⟨hne, hdigits, hinteger, hplaces, hfraction⟩, rfl⟩
    have hempty : ¬integer.isEmpty = true := by simpa using hne
    have hall : (integer ++ fraction).all Char.isDigit = true := List.all_eq_true.mpr hdigits
    rw [if_neg hempty, hall, if_neg (by decide), if_neg (by omega), if_neg (by omega),
      if_neg (by omega)]

def signs : List (List Char) := [[], ['+'], ['-']]

def spelling (sign integer fraction : List Char) : List Char :=
  sign ++ integer ++ if fraction = [] then [] else '.' :: fraction

theorem exists_eq_append_dropSign (text : List Char) :
    ∃ sign ∈ signs, text = sign ++ dropSign text := by
  unfold dropSign
  split
  · exact ⟨['-'], by decide, rfl⟩
  · exact ⟨['+'], by decide, rfl⟩
  · exact ⟨[], by decide, rfl⟩

theorem dropSign_append {sign : List Char} (hsign : sign ∈ signs) {c : Char}
    (hc : c.isDigit = true) (text : List Char) : dropSign (sign ++ c :: text) = c :: text := by
  have hplus : c ≠ '+' := by
    rintro rfl
    exact absurd hc (by decide)
  have hminus : c ≠ '-' := by
    rintro rfl
    exact absurd hc (by decide)
  simp only [signs, List.mem_cons, List.not_mem_nil, or_false] at hsign
  rcases hsign with rfl | rfl | rfl
  · simp [dropSign, hplus, hminus]
  · rfl
  · rfl

theorem readLiteral_spelling_eq_checkDigits {sign integer : List Char} (hsign : sign ∈ signs)
    (hne : integer ≠ []) (hinteger : ∀ c ∈ integer, c.isDigit = true) (fraction : List Char) :
    readLiteral (spelling sign integer fraction) = checkDigits integer fraction := by
  have hdigits : ∀ c ∈ integer, (c != '.') = true := by
    intro c hc
    rw [bne_iff_ne]
    rintro rfl
    exact absurd (hinteger _ hc) (by decide)
  have hunsigned : dropSign (spelling sign integer fraction) =
      integer ++ if fraction = [] then [] else '.' :: fraction := by
    obtain ⟨c, rest, rfl⟩ := List.exists_cons_of_ne_nil hne
    rw [spelling, List.append_assoc]
    exact dropSign_append hsign (hinteger c List.mem_cons_self) _
  rw [readLiteral, hunsigned]
  cases fraction with
  | nil =>
    rw [if_pos rfl, List.append_nil, List.takeWhile_eq_self_iff.mpr hdigits,
      List.dropWhile_eq_nil_iff.mpr hdigits]
  | cons d fraction =>
    rw [if_neg (List.cons_ne_nil _ _), List.takeWhile_append_of_pos hdigits,
      List.dropWhile_append_of_pos hdigits, List.takeWhile_cons_of_neg (by decide),
      List.append_nil, List.dropWhile_cons_of_neg (by decide)]

theorem readLiteral_spelling {sign integer fraction : List Char} (hsign : sign ∈ signs)
    (h : IsLiteral integer fraction) :
    readLiteral (spelling sign integer fraction) = .ok (ofDigits integer fraction) := by
  have hinteger := (List.forall_mem_append.mp h.digits).1
  rw [readLiteral_spelling_eq_checkDigits hsign h.nonempty hinteger]
  exact checkDigits_eq_ok_iff.mpr ⟨h, rfl⟩

theorem readLiteral_eq_ok_iff {text : List Char} {x : Operand} :
    readLiteral text = .ok x ↔ ∃ sign ∈ signs, ∃ integer fraction,
      text = spelling sign integer fraction ∧ IsLiteral integer fraction ∧
        x = ofDigits integer fraction := by
  constructor
  · intro h
    obtain ⟨sign, hsign, htext⟩ := exists_eq_append_dropSign text
    have hsplit := List.takeWhile_append_dropWhile (p := (· != '.')) (l := dropSign text)
    unfold readLiteral at h
    dsimp only at h
    split at h
    case h_1 hnil =>
      obtain ⟨hliteral, hx⟩ := checkDigits_eq_ok_iff.mp h
      refine ⟨sign, hsign, _, [], ?_, hliteral, hx⟩
      rw [hnil, List.append_nil] at hsplit
      rw [spelling, if_pos rfl, List.append_nil, hsplit]
      exact htext
    case h_2 => cases h
    case h_3 point fraction hne hpoint =>
      obtain ⟨hliteral, hx⟩ := checkDigits_eq_ok_iff.mp h
      have hdot : (point != '.') = false := by
        have hhead := List.head?_dropWhile_not (· != '.') (dropSign text)
        rwa [hpoint] at hhead
      have hfraction : fraction ≠ [] := hne
      refine ⟨sign, hsign, _, fraction, ?_, hliteral, hx⟩
      rw [hpoint, bne_eq_false_iff_eq.mp hdot] at hsplit
      rw [spelling, if_neg hfraction, List.append_assoc, hsplit]
      exact htext
  · rintro ⟨sign, hsign, integer, fraction, rfl, hliteral, rfl⟩
    exact readLiteral_spelling hsign hliteral

theorem exists_of_ofLiteral_eq_ok {text : String} {x : Operand} (h : ofLiteral text = .ok x) :
    ∃ integer fraction, IsLiteral integer fraction ∧ x = ofDigits integer fraction := by
  obtain ⟨_, _, integer, fraction, -, hliteral, hx⟩ :=
    readLiteral_eq_ok_iff.mp (ok_of_mapError_eq_ok h)
  exact ⟨integer, fraction, hliteral, hx⟩

structure Regular (x : Operand) : Prop where
  i_nonneg : 0 ≤ x.i
  f_nonneg : 0 ≤ x.f
  t_nonneg : 0 ≤ x.t
  t_le : x.t ≤ maxPart
  t_lt : x.t < 10 ^ x.w

theorem regular_ofDigits {integer fraction : List Char} (h : IsLiteral integer fraction) :
    (ofDigits integer fraction).Regular := by
  obtain ⟨zeros, hzeros⟩ := exists_eq_significant_append fraction
  have hdigits : ∀ c ∈ significant fraction, c.isDigit = true := by
    intro c hc
    apply h.digits
    rw [List.mem_append, hzeros]
    exact .inr (List.mem_append_left _ hc)
  have hfraction := h.fraction_le
  rw [hzeros, Nat.ofDigitChars_append, Nat.ofDigitChars_replicate_zero] at hfraction
  have hscale : 0 < 10 ^ zeros := by positivity
  refine ⟨by simp [ofDigits], by simp [ofDigits], by simp [ofDigits], ?_, ?_⟩
  · show (Nat.ofDigitChars 10 (significant fraction) 0 : ℤ) ≤ maxPart
    exact mod_cast (Nat.le_mul_of_pos_left _ hscale).trans hfraction
  · show (Nat.ofDigitChars 10 (significant fraction) 0 : ℤ) < 10 ^ (significant fraction).length
    exact mod_cast ofDigitChars_lt hdigits

theorem regular_ofInt (k : ℤ) : (ofInt k).Regular :=
  ⟨by simp [ofInt, maxPart], le_rfl, le_rfl, by simp [ofInt], by simp [ofInt]⟩

theorem regular_of_numeral {numeral : Numeral} {x : Operand} (h : numeral.operand = .ok x) :
    x.Regular := by
  cases numeral with
  | literal text =>
    obtain ⟨integer, fraction, hliteral, rfl⟩ := exists_of_ofLiteral_eq_ok h
    exact regular_ofDigits hliteral
  | integer value =>
    cases h
    exact regular_ofInt value

theorem n_of_ofLiteral_eq_ok {text : String} {x : Operand} (h : ofLiteral text = .ok x) :
    x.n = Double.nearest (x.i + x.t / (10 : ℚ) ^ x.w) := by
  obtain ⟨integer, fraction, -, rfl⟩ := exists_of_ofLiteral_eq_ok h
  obtain ⟨zeros, hzeros⟩ := exists_eq_significant_append fraction
  have hvalue := congrArg (Nat.ofDigitChars 10 · 0) hzeros
  have hlength := congrArg List.length hzeros
  simp only [Nat.ofDigitChars_append, Nat.ofDigitChars_replicate_zero] at hvalue
  simp only [List.length_append, List.length_replicate] at hlength
  simp only [ofDigits, hvalue, hlength]
  congr 1
  push_cast
  field_simp
  ring

end Operand

end PluralRules
