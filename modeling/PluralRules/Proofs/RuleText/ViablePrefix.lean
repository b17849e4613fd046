import PluralRules.Proofs.RuleText.Canonical
import PluralRules.Proofs.RuleText.Refusal

/-!
Where the readers of rule text give up. A reader that fails has taken tokens that begin a phrase,
and a token of the kind that it then asks for would go on with them; from the tokens that it looks
at instead no phrase goes on, whatever follows. So a failure is at the first place at which the
tokens before it can no longer be completed.
-/

namespace PluralRules

open Token (Kind)

namespace Grammar

def Viable {α : Type} (Phrase : List Kind → α → Prop) (kinds : List Kind) : Prop :=
  ∃ more a, (∀ kind ∈ more, kind.Spelt) ∧ Phrase (kinds ++ more) a

section Viable

variable {α β : Type} {Phrase : List Kind → α → Prop} {Outer : List Kind → β → Prop}

theorem viable_of_phrase {kinds : List Kind} {a : α} (h : Phrase kinds a) : Viable Phrase kinds :=
  ⟨[], a, nofun, by rwa [List.append_nil]⟩

theorem Viable.nest {kinds used : List Kind} (h : Viable Phrase kinds)
    (houter : ∀ all a, Phrase all a → Viable Outer (used ++ all)) :
    Viable Outer (used ++ kinds) := by
  obtain ⟨more, a, hmore, ha⟩ := h
  obtain ⟨others, b, hothers, hb⟩ := houter _ a ha
  refine ⟨more ++ others, b, List.forall_mem_append.mpr ⟨hmore, hothers⟩, ?_⟩
  simpa [List.append_assoc] using hb

end Viable

theorem spelt_or : (Kind.word ['o', 'r']).Spelt :=
  ⟨List.cons_ne_nil _ _, List.all_eq_true.mp (by decide)⟩

theorem item_zero : Item [.number (Nat.toDigits 10 0)] (.single 0) := by
  have hvalue : Value (Nat.toDigits 10 (0 : UInt64).toNat) 0 := value_toDigits_iff.mpr rfl
  exact .single hvalue

theorem viable_relation_of_expression {kinds : List Kind} {expr : PluralRules.Expression}
    (h : Expression kinds expr) : Viable Relation kinds := by
  refine ⟨[.equal, .number (Nat.toDigits 10 0)], _, ?_, .mk h .equal (.last item_zero)⟩
  exact List.forall_mem_cons.mpr ⟨trivial, List.forall_mem_singleton.mpr (Kind.spelt_number 0)⟩

theorem viable_relation_of_sign {kinds : List Kind} {expr : PluralRules.Expression} {sign : Kind}
    {negated : Bool} (h : Expression kinds expr) (hsign : Sign sign negated) :
    Viable Relation (kinds ++ [sign]) := by
  refine ⟨[.number (Nat.toDigits 10 0)], ⟨expr, negated, [.single 0]⟩, ?_, ?_⟩
  · exact List.forall_mem_singleton.mpr (Kind.spelt_number 0)
  · rw [List.append_assoc]
    exact .mk h hsign (.last item_zero)

theorem Separated.snoc {α : Type} {separator : Kind} {Phrase : List Kind → α → Prop}
    {kinds more : List Kind} {as : List α} {a : α} (h : Separated separator Phrase kinds as)
    (ha : Phrase more a) : Separated separator Phrase (kinds ++ separator :: more) (as ++ [a]) := by
  induction h with
  | last hlast => exact .more hlast (.last ha)
  | more hfirst _ ih =>
    rw [List.append_assoc, List.cons_append]
    exact .more hfirst ih

theorem viable_condition_of_condition {kinds : List Kind} {c : PluralRules.Condition}
    (h : Condition kinds c) : Viable Condition (kinds ++ [.word ['o', 'r']]) := by
  have hexpr : Expression [.word [Symbol.n.toChar]] ⟨.n, none⟩ := .plain .n
  obtain ⟨more, r, hmore, hr⟩ := viable_relation_of_expression hexpr
  refine ⟨.word [Symbol.n.toChar] :: more, ⟨c.alternatives ++ [[r]]⟩, ?_, ?_⟩
  · exact List.forall_mem_cons.mpr ⟨Kind.spelt_symbol .n, hmore⟩
  · rw [List.append_assoc]
    exact Separated.snoc h (.last hr)

end Grammar

namespace RuleText

open Grammar (Viable viable_of_phrase)

inductive Admits : Expected → Kind → Prop
  | operand (symbol : Symbol) : Admits .operand (.word [symbol.toChar])
  | relationSign {sign : Kind} {negated : Bool} : Grammar.Sign sign negated →
    Admits .relationSign sign
  | value (digits : List Char) : Admits .value (.number digits)
  | also : Admits .connective (.word ['a', 'n', 'd'])
  | either : Admits .connective (.word ['o', 'r'])

/-- What is wrong where something is expected: the tokens from the one that the fault is reported at
to the last one that is looked at, and the fault. At the end there are no tokens. -/
inductive Stumbles : Expected → List Kind → RuleFault → Prop
  | missing (expected : Expected) : Stumbles expected [] (.unexpected expected none)
  | unexpected {expected : Expected} {kind : Kind} : ¬Admits expected kind →
    (expected = .operand → ∀ letter, kind ≠ .word [letter]) →
    Stumbles expected [kind] (.unexpected expected (some kind))
  | unknownOperand {letter : Char} : Symbol.ofChar? letter = none →
    Stumbles .operand [.word [letter]] (.unknownOperand letter)
  | valueTooLarge {digits : List Char} : UInt64.size ≤ Nat.ofDigitChars 10 digits 0 →
    Stumbles .value [.number digits] (.valueTooLarge digits)
  | modulusOutOfRange {digits : List Char} {value : UInt64} : Grammar.Value digits value →
    ¬(0 < value.toNat ∧ value.toNat < UInt32.size) →
    Stumbles .value [.number digits] (.modulusOutOfRange value)
  | emptyRange {first last : List Char} {low high : UInt64} : Grammar.Value first low →
    Grammar.Value last high → high.toNat < low.toNat →
    Stumbles .value [.number first, .range, .number last] (.emptyRange low high)

structure Halts (refuses : List Token → Failure → Prop) (expected : Expected)
    (before seen after : List Token) (e : Failure) : Prop where
  offset_eq : e.offset? = seen.head?.map Token.offset
  stumbles : Stumbles expected (seen.map Token.kind) e.fault
  ends : seen = [] → after = []
  refuses : seen ≠ [] → ∀ rest, refuses (before ++ seen ++ rest) e

structure Continues {α : Type} (Phrase : List Kind → α → Prop) (expected : Expected)
    (before seen : List Kind) : Prop where
  asked : ∃ kind, Admits expected kind ∧ kind.Spelt ∧ Viable Phrase (before ++ [kind])
  decided : Viable Phrase (before ++ seen.dropLast)

/-- The failure is at the first place at which no phrase goes on. -/
def FailsAt {α : Type} (refuses : List Token → Failure → Prop) (Phrase : List Kind → α → Prop)
    (tokens : List Token) (e : Failure) : Prop :=
  ∃ expected before seen after, tokens = before ++ seen ++ after ∧
    Halts refuses expected before seen after e ∧
    Continues Phrase expected (before.map Token.kind) (seen.map Token.kind)

def Refuses {α : Type} (reader : Reader Failure Token α) (tokens : List Token) (e : Failure) :
    Prop :=
  reader tokens = .error e

section

variable {α β : Type} {Phrase : List Kind → α → Prop} {Outer : List Kind → β → Prop}

theorem FailsAt.nest {inner outer : List Token → Failure → Prop} {tokens : List Token}
    {e : Failure} (h : FailsAt inner Phrase tokens e) (used : List Token)
    (houter : ∀ rest : List Token, rest.head? = tokens.head? → inner rest e →
      outer (used ++ rest) e)
    (hphrase : ∀ all a, Phrase all a → Viable Outer (used.map Token.kind ++ all)) :
    FailsAt outer Outer (used ++ tokens) e := by
  obtain ⟨expected, before, seen, after, rfl, hhalts, ⟨kind, hkind, hspelt, hasked⟩, hdecided⟩ := h
  refine ⟨expected, used ++ before, seen, after, by simp, ?_, ⟨kind, hkind, hspelt, ?_⟩, ?_⟩
  · refine ⟨hhalts.offset_eq, hhalts.stumbles, hhalts.ends, fun hne rest => ?_⟩
    have hhead : (before ++ seen ++ rest).head? = (before ++ seen ++ after).head? := by
      have hstart : before ++ seen ≠ [] := by simp [hne]
      obtain ⟨token, others, hcons⟩ := List.exists_cons_of_ne_nil hstart
      rw [hcons]
      rfl
    rw [List.append_assoc, List.append_assoc, ← List.append_assoc before]
    exact houter _ hhead (hhalts.refuses hne rest)
  · rw [List.map_append, List.append_assoc]
    exact hasked.nest hphrase
  · rw [List.map_append, List.append_assoc]
    exact hdecided.nest hphrase

theorem failsAt_first {reader : Reader Failure Token β} {expected : Expected} {kind : Kind} {a : α}
    (hasked : Admits expected kind) (hspelt : kind.Spelt) (hphrase : Phrase [kind] a)
    (hend : reader [] = .error (unexpected expected []))
    (hfirst : ∀ token rest e, reader (token :: rest) = .error e →
      e.offset? = some token.offset ∧ Stumbles expected [token.kind] e.fault ∧
        ∀ others, reader (token :: others) = .error e)
    {tokens : List Token} {e : Failure} (h : reader tokens = .error e) :
    FailsAt (Refuses reader) Phrase tokens e := by
  have hkind : Viable Phrase [kind] := viable_of_phrase hphrase
  have hnil : Viable Phrase [] :=
    ⟨[kind], a, List.forall_mem_singleton.mpr hspelt, hphrase⟩
  cases tokens with
  | nil =>
    rw [hend] at h
    cases h
    exact ⟨expected, [], [], [], rfl, ⟨rfl, .missing expected, fun _ => rfl, fun h => absurd rfl h⟩,
      ⟨kind, hasked, hspelt, hkind⟩, hnil⟩
  | cons token rest =>
    obtain ⟨hoffset, hstumbles, hothers⟩ := hfirst token rest e h
    exact ⟨expected, [], [token], rest, rfl, ⟨hoffset, hstumbles, nofun, fun _ => hothers⟩,
      ⟨kind, hasked, hspelt, hkind⟩, hnil⟩

end

def AtLeast (low : UInt64) (kinds : List Kind) (value : UInt64) : Prop :=
  ∃ digits, kinds = [.number digits] ∧ Grammar.Value digits value ∧ low.toNat ≤ value.toNat

def ModulusDigits (kinds : List Kind) (modulus : UInt32) : Prop :=
  ∃ digits, kinds = [.number digits] ∧ Grammar.Modulus digits modulus

def OperandWord (kinds : List Kind) (symbol : Symbol) : Prop :=
  kinds = [.word [symbol.toChar]]

def SignToken (kinds : List Kind) (negated : Bool) : Prop :=
  ∃ sign, kinds = [sign] ∧ Grammar.Sign sign negated

variable {tokens : List Token} {e : Failure}

theorem value_cons_eq_error {token : Token} {rest : List Token}
    (h : value (token :: rest) = .error e) :
    e.offset? = some token.offset ∧ Stumbles .value [token.kind] e.fault ∧
      ∀ others, value (token :: others) = .error e := by
  obtain ⟨kind, offset⟩ := token
  cases kind with
  | number digits =>
    simp only [value] at h ⊢
    split at h
    case isTrue => cases h
    case isFalse hsize =>
      cases h
      exact ⟨rfl, .valueTooLarge (Nat.not_lt.mp hsize), fun _ => if_neg hsize⟩
  | word | equal | notEqual | modulo | comma | range =>
    cases h
    exact ⟨rfl, .unexpected nofun nofun, fun _ => rfl⟩

theorem value_failsAt (low : UInt64) (h : value tokens = .error e) :
    FailsAt (Refuses value) (AtLeast low) tokens e := by
  have hlow : AtLeast low [.number (Nat.toDigits 10 low.toNat)] low :=
    ⟨_, rfl, Grammar.value_toDigits_iff.mpr rfl, Nat.le_refl _⟩
  exact failsAt_first (.value _) (Kind.spelt_number _) hlow rfl
    (fun _ _ _ => value_cons_eq_error) h

theorem modulus_eq_error_iff :
    modulus tokens = .error e ↔ value tokens = .error e ∨ ∃ v offset rest,
      Takes value tokens (v, offset) rest ∧ ¬(0 < v.toNat ∧ v.toNat < UInt32.size) ∧
        e = ⟨some offset, .modulusOutOfRange v⟩ := by
  simp only [modulus, bind_eq_error_iff]
  refine or_congr_right ⟨?_, ?_⟩
  · rintro ⟨parsed, hparsed, h⟩
    split at h
    case isTrue => cases h
    case isFalse hrange =>
      cases h
      exact ⟨_, _, _, takes_of_eq_ok hparsed, hrange, rfl⟩
  · rintro ⟨v, offset, rest, ⟨parsed, hparsed, hvalue, -⟩, hrange, rfl⟩
    refine ⟨parsed, hparsed, ?_⟩
    simp only [hvalue, if_neg hrange]

theorem modulus_failsAt (h : modulus tokens = .error e) :
    FailsAt (Refuses modulus) ModulusDigits tokens e := by
  have hone : ModulusDigits [.number (Nat.toDigits 10 1)] 1 := ⟨_, rfl, rfl, by decide⟩
  refine failsAt_first (.value _) (Kind.spelt_number 1) hone rfl ?_ h
  intro token rest e h
  rcases modulus_eq_error_iff.mp h with h | ⟨v, offset, _, htakes, hrange, rfl⟩
  · obtain ⟨hoffset, hstumbles, hothers⟩ := value_cons_eq_error h
    exact ⟨hoffset, hstumbles, fun others => modulus_eq_error_iff.mpr (.inl (hothers others))⟩
  · obtain ⟨digits, hcons, hv⟩ := takes_value_iff.mp htakes
    cases hcons
    refine ⟨rfl, .modulusOutOfRange hv hrange, fun others => modulus_eq_error_iff.mpr (.inr ?_)⟩
    exact ⟨v, offset, others, takes_value_iff.mpr ⟨digits, rfl, hv⟩, hrange, rfl⟩

theorem stumbles_of_ne_letter {kind : Kind} (h : ∀ letter, kind ≠ .word [letter]) :
    Stumbles .operand [kind] (.unexpected .operand (some kind)) := by
  refine .unexpected (fun hadmits => ?_) fun _ => h
  cases hadmits with
  | operand symbol => exact h symbol.toChar rfl

theorem operand_failsAt (h : operand tokens = .error e) :
    FailsAt (Refuses operand) OperandWord tokens e := by
  have hn : OperandWord [.word [Symbol.n.toChar]] .n := rfl
  refine failsAt_first (.operand .n) (Kind.spelt_symbol .n) hn rfl ?_ h
  rintro ⟨kind, offset⟩ rest e h
  cases kind with
  | word letters =>
    cases letters with
    | nil =>
      cases h
      exact ⟨rfl, stumbles_of_ne_letter (by simp), fun _ => rfl⟩
    | cons letter others =>
      cases others with
      | nil =>
        simp only [operand] at h ⊢
        split at h
        case h_1 => cases h
        case h_2 hnone =>
          cases h
          exact ⟨rfl, .unknownOperand hnone, fun _ => rfl⟩
      | cons other others =>
        cases h
        exact ⟨rfl, stumbles_of_ne_letter (by simp), fun _ => rfl⟩
  | number | equal | notEqual | modulo | comma | range =>
    cases h
    exact ⟨rfl, stumbles_of_ne_letter (by simp), fun _ => rfl⟩

theorem relationSign_failsAt (h : relationSign tokens = .error e) :
    FailsAt (Refuses relationSign) SignToken tokens e := by
  have hequal : SignToken [.equal] false := ⟨_, rfl, .equal⟩
  refine failsAt_first (.relationSign .equal) trivial hequal rfl ?_ h
  rintro ⟨kind, offset⟩ rest e h
  cases kind with
  | equal | notEqual => cases h
  | word | number | modulo | comma | range =>
    cases h
    refine ⟨rfl, .unexpected ?_ nofun, fun _ => rfl⟩
    rintro (_ | hsign)
    cases hsign

theorem expression_failsAt (hfail : expression tokens = .error e) :
    FailsAt (Refuses expression) Grammar.Expression tokens e := by
  rcases expression_eq_error_iff.mp hfail with h | ⟨symbol, place, after, hsymbol, h⟩
  · refine (operand_failsAt h).nest [] ?_ ?_
    · exact fun rest _ hrest => expression_eq_error_iff.mpr (.inl hrest)
    · rintro _ symbol rfl
      exact viable_of_phrase (.plain symbol)
  · obtain ⟨offset, rfl⟩ := takes_operand_iff.mp hsymbol
    refine (modulus_failsAt h).nest [⟨.word [symbol.toChar], offset⟩, ⟨.modulo, place⟩] ?_ ?_
    · intro rest _ hrest
      exact expression_eq_error_iff.mpr
        (.inr ⟨symbol, place, rest, takes_operand_word _ _ _, hrest⟩)
    · rintro _ m ⟨digits, rfl, hm⟩
      exact viable_of_phrase (.reduced symbol hm)

theorem rangeItem_failsAt (hfail : rangeItem tokens = .error e) :
    FailsAt (Refuses rangeItem) Grammar.Item tokens e := by
  rcases rangeItem_eq_error_iff.mp hfail with h | ⟨low, offset, place, after, hlow, h⟩
  · refine (value_failsAt 0 h).nest [] ?_ ?_
    · exact fun rest _ hrest => rangeItem_eq_error_iff.mpr (.inl hrest)
    · rintro _ v ⟨digits, rfl, hv, -⟩
      exact viable_of_phrase (.single hv)
  · obtain ⟨first, rfl, hfirst⟩ := takes_value_iff.mp hlow
    rcases h with h | ⟨high, offset', rest, hhigh, hlt, rfl⟩
    · refine (value_failsAt low h).nest [⟨.number first, offset⟩, ⟨.range, place⟩] ?_ ?_
      · intro rest _ hrest
        exact rangeItem_eq_error_iff.mpr
          (.inr ⟨low, offset, place, rest, takes_value_number hfirst _ _, .inl hrest⟩)
      · rintro _ high ⟨last, rfl, hlast, hle⟩
        exact viable_of_phrase (.range hfirst hlast hle)
    -- The fault is reported at the first value and needs the second one to be seen.
    · obtain ⟨last, rfl, hlast⟩ := takes_value_iff.mp hhigh
      refine ⟨.value, [], [⟨.number first, offset⟩, ⟨.range, place⟩, ⟨.number last, offset'⟩],
        rest, rfl, ⟨rfl, .emptyRange hfirst hlast hlt, nofun, fun _ others => ?_⟩, ?_, ?_⟩
      · exact rangeItem_eq_error_iff.mpr (.inr ⟨low, offset, place, _,
          takes_value_number hfirst _ _, .inr ⟨high, offset', others,
            takes_value_number hlast _ _, hlt, rfl⟩⟩)
      · exact ⟨_, .value _, Kind.spelt_number 0, viable_of_phrase Grammar.item_zero⟩
      · have hitself : Grammar.Item _ (.range low low) :=
          .range hfirst (Grammar.value_toDigits_iff.mpr rfl) (Nat.le_refl _)
        exact ⟨[.number (Nat.toDigits 10 low.toNat)], _,
          List.forall_mem_singleton.mpr (Kind.spelt_number _), hitself⟩

theorem separated_failsAt {α : Type} {separator : Kind} {item : Reader Failure Token α}
    {Phrase : List Kind → α → Prop} {goesOn : List Kind} (hitem : Recognizes item Phrase goesOn)
    (hlocal : Local item)
    (hfails : ∀ {tokens e}, item tokens = .error e → FailsAt (Refuses item) Phrase tokens e)
    (hfail : separated separator item tokens = .error e) :
    FailsAt (Refuses (separated separator item)) (Grammar.Separated separator Phrase) tokens e := by
  induction hlength : tokens.length using Nat.strong_induction_on generalizing tokens with
  | h length ih =>
    rcases separated_eq_error_iff.mp hfail with h | ⟨a, offset, others, hfirst, h⟩
    · refine (hfails h).nest [] ?_ ?_
      · exact fun rest _ hrest => separated_eq_error_iff.mpr (.inl hrest)
      · exact fun _ a ha => viable_of_phrase (.last ha)
    · obtain ⟨shorter, -⟩ := takes_iff.mp hfirst
      have hothers := ih others.length (by simp at shorter; omega) h rfl
      obtain ⟨used, rfl, hphrase⟩ := hitem.sound hfirst
      obtain ⟨used', hused, htakes⟩ := hlocal hfirst
      obtain rfl := List.append_cancel_right hused
      rw [List.append_cons]
      refine hothers.nest (used ++ [⟨separator, offset⟩]) ?_ ?_
      · intro rest _ hrest
        rw [← List.append_cons]
        exact separated_eq_error_iff.mpr (.inr ⟨a, offset, rest, htakes _ rfl, hrest⟩)
      · intro all as has
        rw [List.map_append, List.append_assoc]
        exact viable_of_phrase (.more hphrase has)

theorem relation_failsAt (hfail : relation tokens = .error e) :
    FailsAt (Refuses relation) Grammar.Relation tokens e := by
  rcases relation_eq_error_iff.mp hfail with h | ⟨expr, signed, hexpr, h⟩
  · refine (expression_failsAt h).nest [] ?_ ?_
    · exact fun rest _ hrest => relation_eq_error_iff.mpr (.inl hrest)
    · exact fun _ _ => Grammar.viable_relation_of_expression
  · obtain ⟨left, rfl, hleft⟩ := expression_recognizes.sound hexpr
    obtain ⟨left', hused, htakes⟩ := expression_local hexpr
    obtain rfl := List.append_cancel_right hused
    rcases h with h | ⟨negated, listed, hsign, h⟩
    · refine (relationSign_failsAt h).nest left ?_ ?_
      · intro rest hhead hrest
        exact relation_eq_error_iff.mpr (.inr ⟨expr, rest, htakes rest hhead, .inl hrest⟩)
      · rintro _ negated ⟨sign, rfl, hsign⟩
        exact Grammar.viable_relation_of_sign hleft hsign
    · obtain ⟨sign, offset, rfl, hnegated⟩ := takes_relationSign_iff.mp hsign
      have hranges := separated_failsAt rangeItem_recognizes rangeItem_local rangeItem_failsAt h
      rw [List.append_cons]
      refine hranges.nest (left ++ [⟨sign, offset⟩]) ?_ ?_
      · intro rest _ hrest
        rw [← List.append_cons]
        exact relation_eq_error_iff.mpr (.inr ⟨expr, _, htakes _ rfl,
          .inr ⟨negated, rest, takes_relationSign_sign hnegated _ _, hrest⟩⟩)
      · intro all ranges hall
        rw [List.map_append, List.append_assoc]
        exact viable_of_phrase (.mk hleft hnegated hall)

theorem condition_failsAt (hfail : condition tokens = .error e) :
    FailsAt (Refuses condition) Grammar.Condition tokens e := by
  have hconjunction {tokens : List Token} {e : Failure} (h : conjunction tokens = .error e) :
      FailsAt (Refuses conjunction) Grammar.Conjunction tokens e :=
    separated_failsAt relation_recognizes relation_local relation_failsAt h
  have halternatives := separated_failsAt conjunction_recognizes
    (separated_local relation_local) hconjunction (condition_eq_error_iff.mp hfail)
  refine halternatives.nest [] ?_ ?_
  · exact fun rest _ hrest => condition_eq_error_iff.mpr hrest
  · intro all alternatives hall
    have hcondition : Grammar.Condition all ⟨alternatives⟩ := hall
    exact viable_of_phrase hcondition

theorem readTokens_failsAt (hfail : readTokens tokens = .error e) :
    FailsAt (fun tokens e => readTokens tokens = .error e) Grammar.Condition tokens e := by
  rcases readTokens_eq_error_iff.mp hfail with h | ⟨c, token, rest, hcondition, rfl⟩
  · refine (condition_failsAt h).nest [] ?_ ?_
    · exact fun rest _ hrest => readTokens_eq_error_iff.mpr (.inl hrest)
    · exact fun _ _ => viable_of_phrase
  -- The token goes on with the condition in no way, or it would have been taken.
  · obtain ⟨used, rfl, hused⟩ := condition_recognizes.sound hcondition
    obtain ⟨used', hsame, htakes⟩ := condition_local hcondition
    obtain rfl := List.append_cancel_right hsame
    obtain ⟨kind, offset⟩ := token
    have hstops : kind ∉ [Kind.word ['o', 'r'], .word ['a', 'n', 'd']] :=
      condition_stops hcondition _ rfl
    have hnone : ¬Admits .connective kind := by
      rintro (_ | _) <;> exact hstops (by decide)
    refine ⟨.connective, used, [⟨kind, offset⟩], rest, by simp,
      ⟨rfl, .unexpected hnone nofun, nofun, fun _ others => ?_⟩, ?_, ?_⟩
    · rw [List.append_assoc]
      exact readTokens_eq_error_iff.mpr (.inr ⟨c, _, others, htakes _ rfl, rfl⟩)
    · exact ⟨_, .either, Grammar.spelt_or, Grammar.viable_condition_of_condition hused⟩
    · rw [List.map_singleton, List.dropLast_singleton, List.append_nil]
      exact viable_of_phrase hused

end RuleText

end PluralRules
