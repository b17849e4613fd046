import PluralRules.Proofs.Operand.Literal

/-!
Which literals have the same operands. Digits of one number are told apart by their value, so the
fraction digits can be read back from `v` and `f`. Of the integer digits only the value is kept: what
is lost are zeros at their front.
-/

namespace PluralRules.Operand

def integerDigits (text : String) : List Char :=
  (text.toList.takeWhile (· != '.')).filter Char.isDigit

def fractionDigits (text : String) : List Char :=
  (text.toList.dropWhile (· != '.')).filter Char.isDigit

theorem ofDigitChars_cons_eq_add (c : Char) (digits : List Char) :
    Nat.ofDigitChars 10 (c :: digits) 0 =
      10 ^ digits.length * (c.toNat - '0'.toNat) + Nat.ofDigitChars 10 digits 0 := by
  rw [Nat.ofDigitChars_cons, Nat.ofDigitChars_eq_ofDigitChars_zero, Nat.mul_zero, Nat.zero_add]

theorem ofDigitChars_replicate_append (zeros : ℕ) (digits : List Char) :
    Nat.ofDigitChars 10 (List.replicate zeros '0' ++ digits) 0 = Nat.ofDigitChars 10 digits 0 := by
  rw [Nat.ofDigitChars_append, Nat.ofDigitChars_replicate_zero, Nat.mul_zero]

theorem dropWhile_replicate_append (zeros : ℕ) (digits : List Char) :
    (List.replicate zeros '0' ++ digits).dropWhile (· == '0') = digits.dropWhile (· == '0') :=
  List.dropWhile_append_of_pos fun _ hc => beq_iff_eq.mpr (List.eq_of_mem_replicate hc)

section

variable {digits others : List Char}

theorem eq_of_ofDigitChars_eq (hdigits : ∀ c ∈ digits, c.isDigit = true)
    (hothers : ∀ c ∈ others, c.isDigit = true) (hlength : digits.length = others.length)
    (hvalue : Nat.ofDigitChars 10 digits 0 = Nat.ofDigitChars 10 others 0) : digits = others := by
  induction digits generalizing others with
  | nil => exact (List.eq_nil_of_length_eq_zero hlength.symm).symm
  | cons c digits ih =>
    obtain ⟨d, others, rfl⟩ := List.exists_cons_of_length_eq_add_one hlength.symm
    obtain ⟨hc, hdigits⟩ := List.forall_mem_cons.mp hdigits
    obtain ⟨hd, hothers⟩ := List.forall_mem_cons.mp hothers
    have hrest : digits.length = others.length := Nat.succ.inj hlength
    have hlt := ofDigitChars_lt hdigits
    have hlt' := ofDigitChars_lt hothers
    rw [← hrest] at hlt'
    rw [ofDigitChars_cons_eq_add, ofDigitChars_cons_eq_add, ← hrest] at hvalue
    -- The first digit is the quotient by the power of ten, the others are the residue.
    have hquotient := congrArg (· / 10 ^ digits.length) hvalue
    have hresidue := congrArg (· % 10 ^ digits.length) hvalue
    have hpos : 0 < 10 ^ digits.length := by positivity
    simp only [Nat.mul_add_div hpos, Nat.div_eq_of_lt hlt, Nat.div_eq_of_lt hlt',
      Nat.add_zero] at hquotient
    simp only [Nat.mul_add_mod, Nat.mod_eq_of_lt hlt, Nat.mod_eq_of_lt hlt'] at hresidue
    have hfirst : c.toNat = d.toNat := by
      have hlow := (Text.isDigit_iff.mp hc).1
      have hlow' := (Text.isDigit_iff.mp hd).1
      change c.toNat - 48 = d.toNat - 48 at hquotient
      omega
    rw [Char.toNat_inj.mp hfirst, ih hdigits hothers hrest hresidue]

theorem ofDigitChars_eq_iff (hdigits : ∀ c ∈ digits, c.isDigit = true)
    (hothers : ∀ c ∈ others, c.isDigit = true) :
    Nat.ofDigitChars 10 digits 0 = Nat.ofDigitChars 10 others 0 ↔
      digits.dropWhile (· == '0') = others.dropWhile (· == '0') := by
  constructor
  · intro hvalue
    have hpadded {zeros : ℕ} {digits : List Char} (h : ∀ c ∈ digits, c.isDigit = true) :
        ∀ c ∈ List.replicate zeros '0' ++ digits, c.isDigit = true := by
      refine List.forall_mem_append.mpr ⟨fun c hc => ?_, h⟩
      rw [List.eq_of_mem_replicate hc]
      rfl
    -- Each is padded by as many zeros as the other has digits.
    have hsame : List.replicate others.length '0' ++ digits =
        List.replicate digits.length '0' ++ others := by
      apply eq_of_ofDigitChars_eq (hpadded hdigits) (hpadded hothers)
      · rw [List.length_append, List.length_append, List.length_replicate, List.length_replicate,
          Nat.add_comm]
      · rw [ofDigitChars_replicate_append, ofDigitChars_replicate_append, hvalue]
    rw [← dropWhile_replicate_append others.length, hsame, dropWhile_replicate_append]
  · intro h
    obtain ⟨zeros, hzeros⟩ := exists_eq_replicate_append digits
    obtain ⟨zeros', hzeros'⟩ := exists_eq_replicate_append others
    rw [hzeros, hzeros', h, ofDigitChars_replicate_append, ofDigitChars_replicate_append]

end

theorem eq_or_eq_of_mem_sign {sign : List Char} (hsign : sign ∈ signs) {c : Char}
    (hc : c ∈ sign) : c = '+' ∨ c = '-' := by
  simp only [signs, List.mem_cons, List.not_mem_nil, or_false] at hsign
  rcases hsign with rfl | rfl | rfl
  · cases hc
  · exact .inl (List.mem_singleton.mp hc)
  · exact .inr (List.mem_singleton.mp hc)

theorem digits_of_spelling {text : String} {sign integer fraction : List Char}
    (hsign : sign ∈ signs) (htext : text.toList = spelling sign integer fraction)
    (h : IsLiteral integer fraction) :
    integerDigits text = integer ∧ fractionDigits text = fraction := by
  obtain ⟨hinteger, hfraction⟩ := List.forall_mem_append.mp h.digits
  have hnodigit : sign.filter Char.isDigit = [] := by
    rw [List.filter_eq_nil_iff]
    intro c hc
    rcases eq_or_eq_of_mem_sign hsign hc with rfl | rfl <;> decide
  have hfront : ∀ c ∈ sign ++ integer, (c != '.') = true := by
    refine List.forall_mem_append.mpr ⟨fun c hc => ?_, fun c hc => ?_⟩
    · rcases eq_or_eq_of_mem_sign hsign hc with rfl | rfl <;> decide
    · rw [bne_iff_ne]
      rintro rfl
      exact absurd (hinteger _ hc) (by decide)
  rw [integerDigits, fractionDigits, htext, spelling, List.takeWhile_append_of_pos hfront,
    List.dropWhile_append_of_pos hfront]
  have hbefore : (sign ++ integer).filter Char.isDigit = integer := by
    rw [List.filter_append, hnodigit, List.nil_append, List.filter_eq_self.mpr hinteger]
  cases fraction with
  | nil => exact ⟨by rw [if_pos rfl, List.takeWhile_nil, List.append_nil, hbefore], rfl⟩
  | cons c fraction =>
    have hbehind : ('.' :: c :: fraction).filter Char.isDigit = c :: fraction := by
      rw [List.filter_cons_of_neg (by decide), List.filter_eq_self.mpr hfraction]
    rw [if_neg (List.cons_ne_nil _ _), List.takeWhile_cons_of_neg (by decide), List.append_nil,
      List.dropWhile_cons_of_neg (by decide)]
    exact ⟨hbefore, hbehind⟩

theorem eq_ofDigits_of_ofLiteral {text : String} {x : Operand} (h : ofLiteral text = .ok x) :
    IsLiteral (integerDigits text) (fractionDigits text) ∧
      x = ofDigits (integerDigits text) (fractionDigits text) := by
  obtain ⟨sign, hsign, integer, fraction, htext, hliteral, rfl⟩ :=
    readLiteral_eq_ok_iff.mp (ofLiteral_eq_ok_iff.mp h)
  obtain ⟨hinteger, hfraction⟩ := digits_of_spelling hsign htext hliteral
  rw [hinteger, hfraction]
  exact ⟨hliteral, rfl⟩

section

variable {integer fraction integer' fraction' : List Char}

theorem digits_of_fields (h : IsLiteral integer fraction) (h' : IsLiteral integer' fraction')
    (hi : (ofDigits integer fraction).i = (ofDigits integer' fraction').i)
    (hv : (ofDigits integer fraction).v = (ofDigits integer' fraction').v)
    (hf : (ofDigits integer fraction).f = (ofDigits integer' fraction').f) :
    Nat.ofDigitChars 10 integer 0 = Nat.ofDigitChars 10 integer' 0 ∧ fraction = fraction' := by
  refine ⟨Nat.cast_injective hi, eq_of_ofDigitChars_eq ?_ ?_ hv (Nat.cast_injective hf)⟩
  · exact (List.forall_mem_append.mp h.digits).2
  · exact (List.forall_mem_append.mp h'.digits).2

theorem ofDigits_eq_iff (h : IsLiteral integer fraction) (h' : IsLiteral integer' fraction') :
    ofDigits integer fraction = ofDigits integer' fraction' ↔
      Nat.ofDigitChars 10 integer 0 = Nat.ofDigitChars 10 integer' 0 ∧ fraction = fraction' := by
  constructor
  · intro heq
    exact digits_of_fields h h' (congrArg i heq) (congrArg v heq) (congrArg f heq)
  · rintro ⟨hvalue, rfl⟩
    simp only [ofDigits, hvalue]

end

/-- Literals have the same operands exactly if they have the same integer value and the same fraction
digits. So the sign and zeros at the front are all that is lost, and `i`, `v` and `f` determine the
other operands. -/
theorem ofLiteral_identifies_digits {a b : String} {x y : Operand} (ha : ofLiteral a = .ok x)
    (hb : ofLiteral b = .ok y) :
    (x = y ↔ Nat.ofDigitChars 10 (integerDigits a) 0 = Nat.ofDigitChars 10 (integerDigits b) 0 ∧
      fractionDigits a = fractionDigits b) ∧
    (x = y ↔ (integerDigits a).dropWhile (· == '0') = (integerDigits b).dropWhile (· == '0') ∧
      fractionDigits a = fractionDigits b) ∧
    (x.i = y.i → x.v = y.v → x.f = y.f → x.w = y.w ∧ x.t = y.t ∧ x.n = y.n) := by
  obtain ⟨hliteral, rfl⟩ := eq_ofDigits_of_ofLiteral ha
  obtain ⟨hliteral', rfl⟩ := eq_ofDigits_of_ofLiteral hb
  have hvalue := ofDigits_eq_iff hliteral hliteral'
  refine ⟨hvalue, ?_, fun hi hv hf => ?_⟩
  · rw [hvalue, ofDigitChars_eq_iff (List.forall_mem_append.mp hliteral.digits).1
      (List.forall_mem_append.mp hliteral'.digits).1]
  · have heq := hvalue.mpr (digits_of_fields hliteral hliteral' hi hv hf)
    exact ⟨congrArg w heq, congrArg t heq, congrArg n heq⟩

theorem ofLiteral_identifies_digits_padded :
    let padded := ofDigits ['0', '0', '7'] ['0', '5', '0']
    let plain := ofDigits ['7'] ['0', '5', '0']
    let shorter := ofDigits ['7'] ['0', '5']
    ofLiteral "-007.050" = .ok padded ∧ ofLiteral "+7.050" = .ok plain ∧
      ofLiteral "7.05" = .ok shorter ∧ padded = plain ∧ plain ≠ shorter := by
  intro padded plain shorter
  have hpadded : ofLiteral "-007.050" = .ok padded := by decide +kernel
  have hplain : ofLiteral "+7.050" = .ok plain := by decide +kernel
  have hshorter : ofLiteral "7.05" = .ok shorter := by decide +kernel
  obtain ⟨-, hsame, -⟩ := ofLiteral_identifies_digits hpadded hplain
  obtain ⟨hdifferent, -, -⟩ := ofLiteral_identifies_digits hplain hshorter
  refine ⟨hpadded, hplain, hshorter, hsame.mpr (by decide +kernel), fun heq => ?_⟩
  exact absurd (hdifferent.mp heq) (by decide +kernel)

end PluralRules.Operand
