import PluralRules.Proofs.RuleText.Recognition

/-!
When the readers of rule text fail, and what they look at. A reader fails as one of its parts does
behind what the parts before it have taken. When it succeeds it has looked at what it takes and at
most at the next token.
-/

namespace PluralRules.RuleText

open Token (Kind)

theorem takes_operand_word (symbol : Symbol) (offset : Nat) (rest : List Token) :
    Takes operand (⟨.word [symbol.toChar], offset⟩ :: rest) symbol rest :=
  takes_operand_iff.mpr ⟨offset, rfl⟩

theorem takes_value_number {digits : List Char} {v : UInt64} (h : Grammar.Value digits v)
    (offset : Nat) (rest : List Token) :
    Takes value (⟨.number digits, offset⟩ :: rest) (v, offset) rest :=
  takes_value_iff.mpr ⟨digits, rfl, h⟩

theorem takes_modulus_number {digits : List Char} {m : UInt32} (h : Grammar.Modulus digits m)
    (offset : Nat) (rest : List Token) :
    Takes modulus (⟨.number digits, offset⟩ :: rest) m rest :=
  takes_modulus_iff.mpr ⟨digits, offset, rfl, h⟩

theorem takes_relationSign_sign {sign : Kind} {negated : Bool} (h : Grammar.Sign sign negated)
    (offset : Nat) (rest : List Token) :
    Takes relationSign (⟨sign, offset⟩ :: rest) negated rest :=
  takes_relationSign_iff.mpr ⟨sign, offset, rfl, h⟩

section Refuses

variable {tokens : List Token} {e : Failure}

theorem optionally_kind_eq_error_iff {α β : Type} {first : Parsed α tokens} {sign : Kind}
    {reader : Reader Failure Token β} :
    first.optionally (·.kind == sign) reader = .error e ↔
      ∃ offset after, first.rest = ⟨sign, offset⟩ :: after ∧ reader after = .error e := by
  obtain ⟨a, remaining, shorter⟩ := first
  cases remaining with
  | nil => simp [Parsed.optionally]
  | cons token remaining =>
    obtain ⟨kind, offset⟩ := token
    by_cases hkind : kind = sign
    · subst hkind
      simp only [Parsed.optionally, beq_self_eq_true, if_true, bind_eq_error_iff, reduceCtorEq,
        and_false, exists_false, or_false]
      constructor
      · intro h
        exact ⟨offset, remaining, rfl, h⟩
      · rintro ⟨_, _, hcons, h⟩
        cases hcons
        exact h
    · simp [Parsed.optionally, hkind]

theorem expression_eq_error_iff :
    expression tokens = .error e ↔ operand tokens = .error e ∨
      ∃ symbol offset after, Takes operand tokens symbol (⟨.modulo, offset⟩ :: after) ∧
        modulus after = .error e := by
  simp only [expression, bind_eq_error_iff, optionally_kind_eq_error_iff, reduceCtorEq, and_false,
    exists_false, or_false]
  refine or_congr_right ⟨?_, ?_⟩
  · rintro ⟨symbol, hsymbol, offset, after, hrest, h⟩
    exact ⟨symbol.value, offset, after, hrest ▸ takes_of_eq_ok hsymbol, h⟩
  · rintro ⟨_, offset, after, ⟨symbol, hsymbol, -, hrest⟩, h⟩
    exact ⟨symbol, hsymbol, offset, after, hrest, h⟩

theorem rangeItem_eq_error_iff :
    rangeItem tokens = .error e ↔ value tokens = .error e ∨
      ∃ low offset place after, Takes value tokens (low, offset) (⟨.range, place⟩ :: after) ∧
        (value after = .error e ∨ ∃ high offset' rest, Takes value after (high, offset') rest ∧
          high.toNat < low.toNat ∧ e = ⟨some offset, .emptyRange low high⟩) := by
  simp only [rangeItem, bind_eq_error_iff]
  refine or_congr_right ⟨?_, ?_⟩
  · rintro ⟨start, hstart, hrest⟩
    rcases hrest with hrest | ⟨both, hboth, h⟩
    · obtain ⟨place, after, hafter, h⟩ := optionally_kind_eq_error_iff.mp hrest
      exact ⟨_, _, place, after, hafter ▸ takes_of_eq_ok hstart, .inl h⟩
    · rcases optionally_kind_iff.mp ⟨both, hboth, rfl, rfl⟩ with
        ⟨hvalue, -, -⟩ | ⟨place, after, high, hafter, hvalue, hhigh⟩
      · simp only [hvalue, reduceCtorEq] at h
      · simp only [hvalue] at h
        split at h
        case isTrue => cases h
        case isFalse hlt =>
          cases h
          exact ⟨_, _, place, after, hafter ▸ takes_of_eq_ok hstart,
            .inr ⟨high.1, high.2, both.rest, hhigh, Nat.not_le.mp hlt, rfl⟩⟩
  · rintro ⟨low, offset, place, after, ⟨start, hstart, hvalue, hrest⟩, h⟩
    refine ⟨start, hstart, ?_⟩
    rcases h with h | ⟨high, offset', rest, hhigh, hlt, rfl⟩
    · exact .inl (optionally_kind_eq_error_iff.mpr ⟨place, after, hrest, h⟩)
    · obtain ⟨both, hboth, hpair, -⟩ :=
        optionally_kind_iff.mpr (.inr ⟨place, after, (high, offset'), hrest, rfl, hhigh⟩)
      refine .inr ⟨both, hboth, ?_⟩
      simp only [hpair, hvalue, if_neg (Nat.not_le.mpr hlt)]

theorem separated_eq_error_iff {α : Type} {separator : Kind} {item : Reader Failure Token α} :
    separated separator item tokens = .error e ↔ item tokens = .error e ∨
      ∃ a offset others, Takes item tokens a (⟨separator, offset⟩ :: others) ∧
        separated separator item others = .error e := by
  rw [separated, bind_eq_error_iff]
  refine or_congr_right ⟨?_, ?_⟩
  · rintro ⟨⟨a, rest, shorter⟩, hfirst, h⟩
    cases rest with
    | nil => cases h
    | cons token others =>
      dsimp only at h
      split at h
      case isTrue hsign =>
        subst hsign
        rcases bind_eq_error_iff.mp h with h | ⟨bs, -, h⟩
        · exact ⟨a, token.offset, others, takes_of_eq_ok hfirst, h⟩
        · cases h
      case isFalse => cases h
  · rintro ⟨a, offset, others, hfirst, h⟩
    obtain ⟨shorter, hfirst⟩ := takes_iff.mp hfirst
    refine ⟨_, hfirst, ?_⟩
    simp only [if_true, bind_eq_error_iff]
    exact .inl h

theorem relation_eq_error_iff :
    relation tokens = .error e ↔ expression tokens = .error e ∨
      ∃ expr signed, Takes expression tokens expr signed ∧ (relationSign signed = .error e ∨
        ∃ negated listed, Takes relationSign signed negated listed ∧
          separated .comma rangeItem listed = .error e) := by
  simp only [relation, bind_eq_error_iff, reduceCtorEq, and_false, exists_false, or_false]
  refine or_congr_right ⟨?_, ?_⟩
  · rintro ⟨expr, hexpr, h⟩
    refine ⟨_, _, takes_of_eq_ok hexpr, h.imp_right ?_⟩
    rintro ⟨negated, hnegated, h⟩
    exact ⟨_, _, takes_of_eq_ok hnegated, h⟩
  · rintro ⟨_, _, ⟨expr, hexpr, -, rfl⟩, h⟩
    refine ⟨expr, hexpr, h.imp_right ?_⟩
    rintro ⟨_, _, ⟨negated, hnegated, -, rfl⟩, h⟩
    exact ⟨negated, hnegated, h⟩

theorem condition_eq_error_iff :
    condition tokens = .error e ↔
      separated (.word ['o', 'r']) conjunction tokens = .error e := by
  simp only [condition, bind_eq_error_iff, reduceCtorEq, and_false, exists_false, or_false]

theorem readTokens_eq_error_iff :
    readTokens tokens = .error e ↔ condition tokens = .error e ∨
      ∃ c token rest, Takes condition tokens c (token :: rest) ∧
        e = unexpected .connective (token :: rest) := by
  simp only [readTokens, bind_eq_error_iff]
  refine or_congr_right ⟨?_, ?_⟩
  · rintro ⟨⟨c, rest, shorter⟩, hparsed, h⟩
    cases rest with
    | nil => cases h
    | cons token rest =>
      cases h
      exact ⟨c, token, rest, takes_of_eq_ok hparsed, rfl⟩
  · rintro ⟨c, token, rest, hparsed, rfl⟩
    obtain ⟨shorter, hparsed⟩ := takes_iff.mp hparsed
    exact ⟨_, hparsed, rfl⟩

end Refuses

theorem stopsAt_congr {goesOn : List Kind} {rest others : List Token}
    (h : others.head? = rest.head?) : StopsAt goesOn others ↔ StopsAt goesOn rest := by
  rw [StopsAt, StopsAt, h]

def Local {α : Type} (reader : Reader Failure Token α) : Prop :=
  ∀ {tokens rest : List Token} {a : α}, Takes reader tokens a rest →
    ∃ used, tokens = used ++ rest ∧
      ∀ others : List Token, others.head? = rest.head? → Takes reader (used ++ others) a others

theorem expression_local : Local expression := by
  intro tokens rest expr h
  obtain ⟨after, hsymbol, hmodulus⟩ := takes_expression_iff.mp h
  obtain ⟨offset, rfl⟩ := takes_operand_iff.mp hsymbol
  rcases hmodulus with ⟨hnone, rfl, hstops⟩ | ⟨place, remaining, m, rfl, hsome, htakes⟩
  · refine ⟨[_], rfl, fun others hothers => takes_expression_iff.mpr ?_⟩
    have hother := (stopsAt_congr hothers).mpr hstops
    exact ⟨others, takes_operand_word _ _ _, .inl ⟨hnone, rfl, hother⟩⟩
  · obtain ⟨digits, offset', rfl, hm⟩ := takes_modulus_iff.mp htakes
    refine ⟨[_, _, _], rfl, fun others _ => takes_expression_iff.mpr ?_⟩
    exact ⟨_, takes_operand_word _ _ _,
      .inr ⟨place, _, m, rfl, hsome, takes_modulus_number hm offset' others⟩⟩

theorem rangeItem_local : Local rangeItem := by
  intro tokens rest item h
  obtain ⟨low, offset, after, hlow, hitem⟩ := takes_rangeItem_iff.mp h
  obtain ⟨first, rfl, hfirst⟩ := takes_value_iff.mp hlow
  rcases hitem with ⟨rfl, rfl, hstops⟩ | ⟨place, remaining, high, offset', rfl, htakes, hle, rfl⟩
  · refine ⟨[_], rfl, fun others hothers => takes_rangeItem_iff.mpr ?_⟩
    have hother := (stopsAt_congr hothers).mpr hstops
    exact ⟨low, offset, others, takes_value_number hfirst _ _, .inl ⟨rfl, rfl, hother⟩⟩
  · obtain ⟨last, rfl, hlast⟩ := takes_value_iff.mp htakes
    refine ⟨[_, _, _], rfl, fun others _ => takes_rangeItem_iff.mpr ?_⟩
    exact ⟨low, offset, _, takes_value_number hfirst _ _,
      .inr ⟨place, _, high, offset', rfl, takes_value_number hlast _ _, hle, rfl⟩⟩

theorem separated_local {α : Type} {separator : Kind} {item : Reader Failure Token α}
    (hitem : Local item) : Local (separated separator item) := by
  intro tokens rest as h
  induction as generalizing tokens with
  | nil =>
    obtain ⟨_, _, -, ⟨has, -⟩ | ⟨_, _, _, -, has, -⟩⟩ := takes_separated_iff.mp h
    · cases has
    · cases has
  | cons a as ih =>
    obtain ⟨b, after, hfirst, hitems⟩ := takes_separated_iff.mp h
    obtain ⟨used, rfl, hused⟩ := hitem hfirst
    rcases hitems with ⟨has, rfl, hstops⟩ | ⟨offset, remaining, bs, rfl, has, htakes⟩
    · refine ⟨used, rfl, fun others hothers => takes_separated_iff.mpr ?_⟩
      have hother := (stopsAt_congr hothers).mpr hstops
      exact ⟨b, others, hused others hothers, .inl ⟨has, rfl, hother⟩⟩
    · cases has
      obtain ⟨more, rfl, hmore⟩ := ih htakes
      refine ⟨used ++ ⟨separator, offset⟩ :: more, by simp, fun others hothers => ?_⟩
      rw [List.append_assoc, List.cons_append]
      -- The item still ends before its separator, whatever the rest is.
      have hother := hused (⟨separator, offset⟩ :: (more ++ others)) rfl
      exact takes_separated_iff.mpr
        ⟨a, _, hother, .inr ⟨offset, _, as, rfl, rfl, hmore others hothers⟩⟩

theorem relation_local : Local relation := by
  intro tokens rest r h
  obtain ⟨signed, listed, hexpr, hsign, hranges⟩ := takes_relation_iff.mp h
  obtain ⟨left, rfl, hleft⟩ := expression_local hexpr
  obtain ⟨sign, offset, rfl, hnegated⟩ := takes_relationSign_iff.mp hsign
  obtain ⟨right, rfl, hright⟩ := separated_local rangeItem_local hranges
  refine ⟨left ++ ⟨sign, offset⟩ :: right, by simp, fun others hothers => ?_⟩
  rw [List.append_assoc, List.cons_append]
  have hother := hleft (⟨sign, offset⟩ :: (right ++ others)) rfl
  exact takes_relation_iff.mpr
    ⟨_, _, hother, takes_relationSign_sign hnegated _ _, hright others hothers⟩

theorem condition_local : Local condition := by
  intro tokens rest c h
  obtain ⟨used, hused, hothers⟩ :=
    separated_local (separated_local relation_local) (takes_condition_iff.mp h)
  exact ⟨used, hused, fun others h => takes_condition_iff.mpr (hothers others h)⟩

theorem separated_stops {α : Type} {separator : Kind} {item : Reader Failure Token α}
    {goesOn : List Kind}
    (hitem : ∀ {tokens rest : List Token} {a : α}, Takes item tokens a rest → StopsAt goesOn rest)
    {tokens rest : List Token} {as : List α} (h : Takes (separated separator item) tokens as rest) :
    StopsAt (separator :: goesOn) rest := by
  induction as generalizing tokens with
  | nil =>
    obtain ⟨_, _, -, ⟨has, -⟩ | ⟨_, _, _, -, has, -⟩⟩ := takes_separated_iff.mp h
    · cases has
    · cases has
  | cons a as ih =>
    obtain ⟨b, after, hfirst, hitems⟩ := takes_separated_iff.mp h
    rcases hitems with ⟨-, rfl, hstops⟩ | ⟨offset, remaining, bs, rfl, has, htakes⟩
    · intro token htoken hmem
      rcases List.mem_cons.mp hmem with hmem | hmem
      · exact hstops token htoken (List.mem_singleton.mpr hmem)
      · exact hitem hfirst token htoken hmem
    · cases has
      exact ih htakes

theorem condition_stops {tokens rest : List Token} {c : Condition}
    (h : Takes condition tokens c rest) :
    StopsAt [.word ['o', 'r'], .word ['a', 'n', 'd']] rest := by
  have hconjunction {tokens rest : List Token} {relations : List Relation}
      (h : Takes conjunction tokens relations rest) : StopsAt [.word ['a', 'n', 'd']] rest :=
    separated_stops (fun _ _ _ => List.not_mem_nil) h
  exact separated_stops hconjunction (takes_condition_iff.mp h)

end PluralRules.RuleText
