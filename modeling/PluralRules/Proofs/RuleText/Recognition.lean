import PluralRules.Proofs.Reading
import PluralRules.Proofs.RuleText.Grammar
import PluralRules.Proofs.RuleText.Munch
import PluralRules.RuleText.Parser

/-!
The readers of rule text recognize its grammar: what a reader takes derives from its symbol, and
what derives from it is taken, unless the token behind it goes on with it. Main statement: a rule
text has a condition exactly if the part before its samples splits into tokens that derive it.
-/

namespace PluralRules.RuleText

open Token (Kind)

theorem takes_value_iff {tokens rest : List Token} {v : UInt64} {offset : Nat} :
    Takes value tokens (v, offset) rest ↔
      ∃ digits, tokens = ⟨.number digits, offset⟩ :: rest ∧ Grammar.Value digits v := by
  constructor
  · rintro ⟨parsed, h, hvalue, rfl⟩
    unfold value at h
    split at h
    case h_1 digits at_ rest =>
      split at h
      case isTrue hsize =>
        cases h
        cases hvalue
        exact ⟨digits, rfl, UInt64.toNat_ofNat_of_lt hsize⟩
      case isFalse => cases h
    case h_2 => cases h
  · rintro ⟨digits, rfl, hdigits⟩
    have hsize : Nat.ofDigitChars 10 digits 0 < UInt64.size := hdigits ▸ v.toNat_lt
    have hofNat : UInt64.ofNat (Nat.ofDigitChars 10 digits 0) = v := by
      rw [← show v.toNat = _ from hdigits, UInt64.ofNat_toNat]
    exact ⟨_, if_pos hsize, Prod.ext hofNat rfl, rfl⟩

theorem takes_operand_iff {tokens rest : List Token} {symbol : Symbol} :
    Takes operand tokens symbol rest ↔
      ∃ offset, tokens = ⟨.word [symbol.toChar], offset⟩ :: rest := by
  constructor
  · rintro ⟨parsed, h, rfl, rfl⟩
    unfold operand at h
    split at h
    case h_1 letter offset rest =>
      split at h
      case h_1 symbol hsymbol =>
        cases h
        exact ⟨offset, by simp only [Parsed.one, Symbol.toChar_of_ofChar? hsymbol]⟩
      case h_2 => cases h
    case h_2 => cases h
  · rintro ⟨offset, rfl⟩
    simp only [Takes, operand, Symbol.ofChar?_toChar]
    exact ⟨_, rfl, rfl, rfl⟩

theorem takes_relationSign_iff {tokens rest : List Token} {negated : Bool} :
    Takes relationSign tokens negated rest ↔
      ∃ sign offset, tokens = ⟨sign, offset⟩ :: rest ∧ Grammar.Sign sign negated := by
  constructor
  · rintro ⟨parsed, h, rfl, rfl⟩
    unfold relationSign at h
    split at h
    case h_1 offset rest =>
      cases h
      exact ⟨_, offset, rfl, .equal⟩
    case h_2 offset rest =>
      cases h
      exact ⟨_, offset, rfl, .notEqual⟩
    case h_3 => cases h
  · rintro ⟨sign, offset, rfl, hsign⟩
    cases hsign <;> exact ⟨_, rfl, rfl, rfl⟩

theorem takes_modulus_iff {tokens rest : List Token} {m : UInt32} :
    Takes modulus tokens m rest ↔
      ∃ digits offset, tokens = ⟨.number digits, offset⟩ :: rest ∧ Grammar.Modulus digits m := by
  constructor
  · rintro ⟨parsed, h, rfl, rfl⟩
    obtain ⟨first, hfirst, h⟩ := ok_of_bind_eq_ok h
    obtain ⟨digits, htokens, hdigits⟩ := takes_value_iff.mp (takes_of_eq_ok hfirst)
    dsimp only at h
    split at h
    case isTrue hrange =>
      cases h
      have hm : first.value.1.toUInt32.toNat = first.value.1.toNat :=
        (UInt64.toNat_toUInt32 _).trans (Nat.mod_eq_of_lt hrange.2)
      exact ⟨digits, first.value.2, htokens, hm.trans hdigits, hm ▸ hrange.1⟩
    case isFalse => cases h
  · rintro ⟨digits, offset, rfl, hdigits, hpos⟩
    have hwide : m.toUInt64.toNat = m.toNat := UInt32.toNat_toUInt64 m
    obtain ⟨first, hfirst, hvalue, hrest⟩ : Takes value _ (m.toUInt64, offset) rest :=
      takes_value_iff.mpr ⟨digits, rfl, hwide.trans hdigits⟩
    have hrange : 0 < m.toUInt64.toNat ∧ m.toUInt64.toNat < UInt32.size :=
      hwide ▸ ⟨hpos, m.toNat_lt⟩
    refine ⟨first.map fun _ => m, ?_, rfl, hrest⟩
    simp only [modulus, hfirst, bind, Except.bind, hvalue, if_pos hrange, UInt32.toUInt32_toUInt64]

def StopsAt (goesOn : List Kind) (rest : List Token) : Prop :=
  ∀ token ∈ rest.head?, token.kind ∉ goesOn

theorem optionally_kind_iff {α β : Type} {tokens rest : List Token} {first : Parsed α tokens}
    {sign : Kind} {reader : Reader Failure Token β} {both : α × Option β} :
    (∃ parsed, first.optionally (·.kind == sign) reader = .ok parsed ∧ parsed.value = both ∧
        parsed.rest = rest) ↔
      (both = (first.value, none) ∧ rest = first.rest ∧ StopsAt [sign] first.rest) ∨
      ∃ offset after b, first.rest = ⟨sign, offset⟩ :: after ∧ both = (first.value, some b) ∧
        Takes reader after b rest := by
  rw [optionally_eq_ok_iff]
  refine or_congr (by simp [StopsAt]) ⟨?_, ?_⟩
  · rintro ⟨⟨kind, offset⟩, after, b, hafter, hsign, hboth, htakes⟩
    have hkind : kind = sign := by simpa using hsign
    exact ⟨offset, after, b, hkind ▸ hafter, hboth, htakes⟩
  · rintro ⟨offset, after, b, hafter, hboth, htakes⟩
    exact ⟨_, after, b, hafter, by simp, hboth, htakes⟩

theorem takes_expression_iff {tokens rest : List Token} {expr : Expression} :
    Takes expression tokens expr rest ↔
      ∃ after, Takes operand tokens expr.symbol after ∧
        (expr.modulus? = none ∧ rest = after ∧ StopsAt [.modulo] after ∨
          ∃ offset others m, after = ⟨.modulo, offset⟩ :: others ∧ expr.modulus? = some m ∧
            Takes modulus others m rest) := by
  constructor
  · rintro ⟨parsed, h, rfl, rfl⟩
    obtain ⟨symbol, hsymbol, h⟩ := ok_of_bind_eq_ok h
    obtain ⟨both, hboth, h⟩ := ok_of_bind_eq_ok h
    cases h
    refine ⟨symbol.rest, ?_⟩
    rcases optionally_kind_iff.mp ⟨both, hboth, rfl, rfl⟩ with
      ⟨hvalue, hrest, hstops⟩ | ⟨offset, others, m, hafter, hvalue, htakes⟩
    all_goals simp only [Parsed.map, hvalue]
    · exact ⟨takes_of_eq_ok hsymbol, .inl ⟨trivial, hrest, hstops⟩⟩
    · exact ⟨takes_of_eq_ok hsymbol, .inr ⟨offset, others, m, hafter, rfl, htakes⟩⟩
  · rintro ⟨after, ⟨symbol, hsymbol, hvalue, rfl⟩, hmodulus⟩
    obtain ⟨both, hboth, hpair, hrest⟩ : ∃ both, symbol.optionally (·.kind == .modulo) modulus =
        .ok both ∧ both.value = (expr.symbol, expr.modulus?) ∧ both.rest = rest := by
      rw [optionally_kind_iff, hvalue]
      rcases hmodulus with ⟨hnone, hrest, hstops⟩ | ⟨offset, others, m, hafter, hsome, htakes⟩
      · exact .inl ⟨by rw [hnone], hrest, hstops⟩
      · exact .inr ⟨offset, others, m, hafter, by rw [hsome], htakes⟩
    refine ⟨both.map fun pair => ⟨pair.1, pair.2⟩, ?_, ?_, hrest⟩
    · simp only [expression, hsymbol, bind, Except.bind, hboth]
    · simp only [Parsed.map, hpair]

theorem takes_rangeItem_iff {tokens rest : List Token} {item : RangeItem} :
    Takes rangeItem tokens item rest ↔
      ∃ low offset after, Takes value tokens (low, offset) after ∧
        (item = .single low ∧ rest = after ∧ StopsAt [.range] after ∨
          ∃ place others high offset', after = ⟨.range, place⟩ :: others ∧
            Takes value others (high, offset') rest ∧ low.toNat ≤ high.toNat ∧
            item = .range low high) := by
  constructor
  · rintro ⟨parsed, h, rfl, rfl⟩
    obtain ⟨start, hstart, h⟩ := ok_of_bind_eq_ok h
    obtain ⟨both, hboth, h⟩ := ok_of_bind_eq_ok h
    refine ⟨start.value.1, start.value.2, start.rest, takes_of_eq_ok hstart, ?_⟩
    rcases optionally_kind_iff.mp ⟨both, hboth, rfl, rfl⟩ with
      ⟨hvalue, hrest, hstops⟩ | ⟨place, others, high, hafter, hvalue, htakes⟩
    all_goals simp only [hvalue] at h
    · cases h
      exact .inl ⟨rfl, hrest, hstops⟩
    · split at h
      case isTrue hle =>
        cases h
        exact .inr ⟨place, others, high.1, high.2, hafter, htakes, hle, rfl⟩
      case isFalse => cases h
  · rintro ⟨low, offset, after, ⟨start, hstart, hvalue, rfl⟩, hitem⟩
    rcases hitem with
      ⟨rfl, hrest, hstops⟩ | ⟨place, others, high, offset', hafter, htakes, hle, rfl⟩
    · obtain ⟨both, hboth, hpair, hrest⟩ : ∃ both,
          start.optionally (·.kind == .range) value = .ok both ∧
            both.value = (start.value, none) ∧ both.rest = rest :=
        optionally_kind_iff.mpr (.inl ⟨rfl, hrest, hstops⟩)
      refine ⟨both.map fun _ => .single low, ?_, rfl, hrest⟩
      simp only [rangeItem, hstart, bind, Except.bind, hboth, hpair, hvalue]
    · obtain ⟨both, hboth, hpair, hrest⟩ :=
        optionally_kind_iff.mpr (.inr ⟨place, others, (high, offset'), hafter, rfl, htakes⟩)
      refine ⟨both.map fun _ => .range low high, ?_, rfl, hrest⟩
      simp only [rangeItem, hstart, bind, Except.bind, hboth, hpair, hvalue, if_pos hle]

theorem takes_separated_iff {α : Type} {separator : Kind} {item : Reader Failure Token α}
    {tokens rest : List Token} {as : List α} :
    Takes (separated separator item) tokens as rest ↔
      ∃ a after, Takes item tokens a after ∧
        (as = [a] ∧ rest = after ∧ StopsAt [separator] after ∨
          ∃ offset others bs, after = ⟨separator, offset⟩ :: others ∧ as = a :: bs ∧
            Takes (separated separator item) others bs rest) := by
  constructor
  · rintro ⟨parsed, h, rfl, rfl⟩
    unfold separated at h
    obtain ⟨⟨a, after, shorter⟩, hfirst, h⟩ := ok_of_bind_eq_ok h
    refine ⟨a, after, takes_of_eq_ok hfirst, ?_⟩
    cases after with
    | nil =>
      cases h
      exact .inl ⟨rfl, rfl, by simp [StopsAt]⟩
    | cons token others =>
      dsimp only at h
      split at h
      case isTrue hsign =>
        obtain ⟨bs, hothers, h⟩ := ok_of_bind_eq_ok h
        cases h
        subst hsign
        exact .inr ⟨token.offset, others, bs.value, rfl, rfl, takes_of_eq_ok hothers⟩
      case isFalse hsign =>
        cases h
        exact .inl ⟨rfl, rfl, by simpa [StopsAt] using hsign⟩
  · rintro ⟨a, after, ⟨⟨_, _, shorter⟩, hfirst, rfl, rfl⟩, hitems⟩
    rcases hitems with
      ⟨rfl, rfl, hstops⟩ | ⟨offset, others, bs, rfl, rfl, parsed, hothers, rfl, rfl⟩
    · cases rest with
      | nil =>
        refine ⟨⟨_, [], shorter⟩, ?_, rfl, rfl⟩
        rw [separated, hfirst]
        rfl
      | cons token rest =>
        have hkind : token.kind ≠ separator := by simpa [StopsAt] using hstops
        refine ⟨⟨_, token :: rest, shorter⟩, ?_, rfl, rfl⟩
        rw [separated, hfirst]
        exact if_neg hkind
    · have hshorter := Nat.lt_trans parsed.shorter (Nat.lt_of_succ_lt shorter)
      refine ⟨⟨_, parsed.rest, hshorter⟩, ?_, rfl, rfl⟩
      rw [separated, hfirst]
      simp only [bind, Except.bind, if_true, hothers]

theorem takes_relation_iff {tokens rest : List Token} {r : Relation} :
    Takes relation tokens r rest ↔
      ∃ signed listed, Takes expression tokens r.expression signed ∧
        Takes relationSign signed r.negated listed ∧
        Takes (separated .comma rangeItem) listed r.ranges rest := by
  constructor
  · rintro ⟨parsed, h, rfl, rfl⟩
    obtain ⟨expr, hexpr, h⟩ := ok_of_bind_eq_ok h
    obtain ⟨negated, hnegated, h⟩ := ok_of_bind_eq_ok h
    obtain ⟨ranges, hranges, h⟩ := ok_of_bind_eq_ok h
    cases h
    exact ⟨_, _, takes_of_eq_ok hexpr, takes_of_eq_ok hnegated, takes_of_eq_ok hranges⟩
  · rintro ⟨_, _, ⟨expr, hexpr, hexpr', rfl⟩, ⟨negated, hnegated, hnegated', rfl⟩,
      ranges, hranges, hranges', rfl⟩
    refine ⟨expr.join (negated.join ranges ()) r, ?_, rfl, rfl⟩
    simp only [relation, hexpr, hnegated, hranges, bind, Except.bind, hexpr', hnegated', hranges']

theorem takes_condition_iff {tokens rest : List Token} {c : Condition} :
    Takes condition tokens c rest ↔
      Takes (separated (.word ['o', 'r']) conjunction) tokens c.alternatives rest := by
  constructor
  · rintro ⟨parsed, h, rfl, rfl⟩
    obtain ⟨alternatives, halternatives, h⟩ := ok_of_bind_eq_ok h
    cases h
    exact takes_of_eq_ok halternatives
  · rintro ⟨alternatives, halternatives, hvalue, rfl⟩
    refine ⟨alternatives.map Condition.mk, ?_, ?_, rfl⟩
    · simp only [condition, halternatives, bind, Except.bind]
    · simp only [Parsed.map, hvalue]

theorem readTokens_eq_ok_iff {tokens : List Token} {c : Condition} :
    readTokens tokens = .ok c ↔ Takes condition tokens c [] := by
  constructor
  · intro h
    obtain ⟨parsed, hparsed, h⟩ := ok_of_bind_eq_ok h
    split at h
    case h_1 hrest =>
      cases h
      exact ⟨parsed, hparsed, rfl, hrest⟩
    case h_2 => cases h
  · rintro ⟨parsed, hparsed, rfl, hrest⟩
    simp only [readTokens, hparsed, bind, Except.bind, hrest]

theorem map_kind_eq_cons_iff {used : List Token} {kind : Kind} {kinds : List Kind} :
    used.map Token.kind = kind :: kinds ↔
      ∃ offset others, used = ⟨kind, offset⟩ :: others ∧ others.map Token.kind = kinds := by
  rw [List.map_eq_cons_iff]
  constructor
  · rintro ⟨⟨_, offset⟩, others, rfl, rfl, hothers⟩
    exact ⟨offset, others, rfl, hothers⟩
  · rintro ⟨offset, others, rfl, hothers⟩
    exact ⟨_, others, rfl, rfl, hothers⟩

/-- The reader takes phrases only, and takes every phrase before a token that does not go on with
it. -/
structure Recognizes {α : Type} (reader : Reader Failure Token α) (Phrase : List Kind → α → Prop)
    (goesOn : List Kind) : Prop where
  sound : ∀ {tokens rest : List Token} {a : α}, Takes reader tokens a rest →
    ∃ used, tokens = used ++ rest ∧ Phrase (used.map Token.kind) a
  complete : ∀ {used rest : List Token} {a : α}, Phrase (used.map Token.kind) a →
    StopsAt goesOn rest → Takes reader (used ++ rest) a rest

theorem expression_recognizes : Recognizes expression Grammar.Expression [.modulo] where
  sound := by
    intro tokens rest expr h
    obtain ⟨symbol, modulus?⟩ := expr
    obtain ⟨after, hsymbol, hmodulus⟩ := takes_expression_iff.mp h
    obtain ⟨offset, rfl⟩ := takes_operand_iff.mp hsymbol
    rcases hmodulus with ⟨rfl, rfl, -⟩ | ⟨place, others, m, rfl, rfl, htakes⟩
    · exact ⟨[_], rfl, .plain symbol⟩
    · obtain ⟨digits, offset', rfl, hm⟩ := takes_modulus_iff.mp htakes
      exact ⟨[_, _, _], rfl, .reduced symbol hm⟩
  complete := by
    intro used rest expr h hstops
    rw [takes_expression_iff]
    -- The derivation fixes the kinds of the tokens; only their offsets are left open.
    generalize hkinds : used.map Token.kind = kinds at h
    cases h with
    | plain symbol =>
      obtain ⟨offset, _, rfl, hnil⟩ := map_kind_eq_cons_iff.mp hkinds
      obtain rfl := List.map_eq_nil_iff.mp hnil
      exact ⟨rest, takes_operand_iff.mpr ⟨offset, rfl⟩, .inl ⟨rfl, rfl, hstops⟩⟩
    | @reduced symbol digits m hm =>
      obtain ⟨offset, _, rfl, hsign⟩ := map_kind_eq_cons_iff.mp hkinds
      obtain ⟨place, _, rfl, hdigits⟩ := map_kind_eq_cons_iff.mp hsign
      obtain ⟨offset', _, rfl, hnil⟩ := map_kind_eq_cons_iff.mp hdigits
      obtain rfl := List.map_eq_nil_iff.mp hnil
      refine ⟨_, takes_operand_iff.mpr ⟨offset, rfl⟩, .inr ⟨place, _, m, rfl, rfl, ?_⟩⟩
      exact takes_modulus_iff.mpr ⟨digits, offset', rfl, hm⟩

theorem rangeItem_recognizes : Recognizes rangeItem Grammar.Item [.range] where
  sound := by
    intro tokens rest item h
    obtain ⟨low, offset, after, hlow, hitem⟩ := takes_rangeItem_iff.mp h
    obtain ⟨first, rfl, hfirst⟩ := takes_value_iff.mp hlow
    rcases hitem with ⟨rfl, rfl, -⟩ | ⟨place, others, high, offset', rfl, htakes, hle, rfl⟩
    · exact ⟨[_], rfl, .single hfirst⟩
    · obtain ⟨last, rfl, hlast⟩ := takes_value_iff.mp htakes
      exact ⟨[_, _, _], rfl, .range hfirst hlast hle⟩
  complete := by
    intro used rest item h hstops
    rw [takes_rangeItem_iff]
    generalize hkinds : used.map Token.kind = kinds at h
    cases h with
    | @single digits v hv =>
      obtain ⟨offset, _, rfl, hnil⟩ := map_kind_eq_cons_iff.mp hkinds
      obtain rfl := List.map_eq_nil_iff.mp hnil
      exact ⟨v, offset, rest, takes_value_iff.mpr ⟨digits, rfl, hv⟩, .inl ⟨rfl, rfl, hstops⟩⟩
    | @range first last low high hfirst hlast hle =>
      obtain ⟨offset, _, rfl, hsign⟩ := map_kind_eq_cons_iff.mp hkinds
      obtain ⟨place, _, rfl, hdigits⟩ := map_kind_eq_cons_iff.mp hsign
      obtain ⟨offset', _, rfl, hnil⟩ := map_kind_eq_cons_iff.mp hdigits
      obtain rfl := List.map_eq_nil_iff.mp hnil
      refine ⟨low, offset, _, takes_value_iff.mpr ⟨first, rfl, hfirst⟩, .inr ?_⟩
      exact ⟨place, _, high, offset', rfl, takes_value_iff.mpr ⟨last, rfl, hlast⟩, hle, rfl⟩

theorem separated_recognizes {α : Type} {item : Reader Failure Token α}
    {Phrase : List Kind → α → Prop} {goesOn : List Kind} (hitem : Recognizes item Phrase goesOn)
    {separator : Kind} (hseparator : separator ∉ goesOn) :
    Recognizes (separated separator item) (Grammar.Separated separator Phrase)
      (separator :: goesOn) where
  sound := by
    intro tokens rest as h
    -- The reader takes one item at a step, so the induction is on the items and not on the tokens.
    induction as generalizing tokens with
    | nil =>
      rcases takes_separated_iff.mp h with ⟨a, after, -, ⟨has, -⟩ | ⟨offset, others, bs, -, has, -⟩⟩
      · cases has
      · cases has
    | cons a as ih =>
      obtain ⟨b, after, hfirst, hitems⟩ := takes_separated_iff.mp h
      obtain ⟨used, rfl, hphrase⟩ := hitem.sound hfirst
      rcases hitems with ⟨has, rfl, -⟩ | ⟨offset, others, bs, rfl, has, htakes⟩
      · cases has
        exact ⟨used, rfl, .last hphrase⟩
      · cases has
        obtain ⟨more, rfl, hmore⟩ := ih htakes
        refine ⟨used ++ ⟨separator, offset⟩ :: more, by simp, ?_⟩
        rw [List.map_append, List.map_cons]
        exact .more hphrase hmore
  complete := by
    intro used rest as h hstops
    generalize hkinds : used.map Token.kind = kinds at h
    induction h generalizing used with
    | @last kinds a hphrase =>
      subst hkinds
      refine takes_separated_iff.mpr ⟨a, rest, hitem.complete hphrase ?_, .inl ⟨rfl, rfl, ?_⟩⟩
      · exact fun token htoken hmem => hstops token htoken (List.mem_cons_of_mem _ hmem)
      · exact fun token htoken hmem => hstops token htoken (by simp_all)
    | @more kinds remaining a others hphrase _ ih =>
      obtain ⟨first, more, rfl, rfl, hmore⟩ := List.map_eq_append_iff.mp hkinds
      obtain ⟨offset, tail, rfl, htail⟩ := map_kind_eq_cons_iff.mp hmore
      rw [List.append_assoc]
      -- The item ends here, since no item goes on with the separator.
      refine takes_separated_iff.mpr ⟨a, _, hitem.complete hphrase ?_, .inr ?_⟩
      · simpa [StopsAt] using hseparator
      · exact ⟨offset, _, others, rfl, rfl, ih htail⟩

theorem relation_recognizes : Recognizes relation Grammar.Relation [.comma, .range] where
  sound := by
    intro tokens rest r h
    obtain ⟨signed, listed, hexpr, hsign, hranges⟩ := takes_relation_iff.mp h
    obtain ⟨left, rfl, hleft⟩ := expression_recognizes.sound hexpr
    obtain ⟨sign, offset, rfl, hnegated⟩ := takes_relationSign_iff.mp hsign
    obtain ⟨right, rfl, hright⟩ :=
      (separated_recognizes rangeItem_recognizes (by decide)).sound hranges
    refine ⟨left ++ ⟨sign, offset⟩ :: right, by simp, ?_⟩
    rw [List.map_append, List.map_cons]
    exact .mk hleft hnegated hright
  complete := by
    intro used rest r h hstops
    generalize hkinds : used.map Token.kind = kinds at h
    cases h with
    | @mk _ _ sign _ _ _ hleft hnegated hright =>
      obtain ⟨left, others, rfl, rfl, hothers⟩ := List.map_eq_append_iff.mp hkinds
      obtain ⟨offset, right, rfl, rfl⟩ := map_kind_eq_cons_iff.mp hothers
      have hsign : sign ≠ .modulo := by cases hnegated <;> decide
      rw [List.append_assoc]
      refine takes_relation_iff.mpr ⟨⟨sign, offset⟩ :: (right ++ rest), right ++ rest, ?_, ?_, ?_⟩
      · exact expression_recognizes.complete hleft (by simpa [StopsAt] using hsign)
      · exact takes_relationSign_iff.mpr ⟨sign, offset, rfl, hnegated⟩
      · exact (separated_recognizes rangeItem_recognizes (by decide)).complete hright hstops

theorem conjunction_recognizes :
    Recognizes conjunction Grammar.Conjunction [.word ['a', 'n', 'd'], .comma, .range] :=
  separated_recognizes relation_recognizes (by decide)

theorem condition_recognizes : Recognizes condition Grammar.Condition
    [.word ['o', 'r'], .word ['a', 'n', 'd'], .comma, .range] := by
  have halternatives : Recognizes (separated (.word ['o', 'r']) conjunction)
      (Grammar.Separated (.word ['o', 'r']) Grammar.Conjunction)
      [.word ['o', 'r'], .word ['a', 'n', 'd'], .comma, .range] :=
    separated_recognizes conjunction_recognizes (by decide)
  constructor
  · intro tokens rest c h
    exact halternatives.sound (takes_condition_iff.mp h)
  · intro used rest c h hstops
    exact takes_condition_iff.mpr (halternatives.complete h hstops)

theorem readTokens_eq_ok_iff_derives {tokens : List Token} {c : Condition} :
    readTokens tokens = .ok c ↔ Grammar.Condition (tokens.map Token.kind) c := by
  rw [readTokens_eq_ok_iff]
  constructor
  · intro h
    obtain ⟨used, rfl, hused⟩ := condition_recognizes.sound h
    rwa [List.append_nil]
  · intro h
    have hstops : StopsAt [.word ['o', 'r'], .word ['a', 'n', 'd'], .comma, .range] [] := by
      simp [StopsAt]
    have htakes := condition_recognizes.complete h hstops
    rwa [List.append_nil] at htakes

end PluralRules.RuleText

namespace PluralRules.Condition

open RuleText (conditionPart)

theorem ofText_eq_ok_iff {rule : String} {c : Condition} :
    ofText rule = .ok c ↔
      ∃ kinds, Token.Munch (conditionPart rule) kinds [] ∧ Grammar.Condition kinds c := by
  constructor
  · intro h
    simp only [ofText] at h
    split at h
    case h_1 => cases h
    case h_2 tokens hscan =>
      cases hread : RuleText.readTokens tokens with
      | error failure =>
        rw [hread] at h
        cases h
      | ok d =>
        rw [hread] at h
        cases h
        exact ⟨_, Token.munch_of_scan hscan, RuleText.readTokens_eq_ok_iff_derives.mp hread⟩
  · rintro ⟨kinds, hmunch, hderives⟩
    obtain ⟨tokens, hscan, rfl⟩ := Token.scan_of_munch hmunch 0
    simp only [ofText, hscan, RuleText.readTokens_eq_ok_iff_derives.mpr hderives]
    rfl

def withoutRule (result : Except RuleError Condition) : Except (Nat × RuleFault) Condition :=
  result.mapError fun error => (error.offset, error.fault)

theorem withoutRule_ofText_congr {rule other : String}
    (h : conditionPart other = conditionPart rule) :
    withoutRule (ofText other) = withoutRule (ofText rule) := by
  simp only [ofText, h]
  split
  · rfl
  · rename_i tokens _
    cases RuleText.readTokens tokens <;> rfl

/-- Rule text reads as a condition exactly if the part before its samples splits by maximal munch
into tokens that derive that condition. There is at most one such split and one such condition, and
the samples do not matter. -/
theorem ofText_recognizes_grammar (rule : String) :
    (∀ c, ofText rule = .ok c ↔
      ∃ kinds, Token.Munch (conditionPart rule) kinds [] ∧ Grammar.Condition kinds c) ∧
    (∀ kinds others c d, Token.Munch (conditionPart rule) kinds [] → Grammar.Condition kinds c →
      Token.Munch (conditionPart rule) others [] → Grammar.Condition others d →
      kinds = others ∧ c = d) ∧
    ∀ other, conditionPart other = conditionPart rule →
      withoutRule (ofText other) = withoutRule (ofText rule) := by
  refine ⟨fun c => ofText_eq_ok_iff, ?_, fun other h => withoutRule_ofText_congr h⟩
  intro kinds others c d hkinds hc hothers hd
  refine ⟨hkinds.unique hothers, ?_⟩
  have hofText := ofText_eq_ok_iff.mpr ⟨kinds, hkinds, hc⟩
  rw [ofText_eq_ok_iff.mpr ⟨others, hothers, hd⟩] at hofText
  exact (Except.ok.inj hofText).symm

theorem ofText_recognizes_spaced_range :
    ofText "n%10=1..2\u00a0@integer ~" = .ok ⟨[[⟨⟨.n, some 10⟩, false, [.range 1 2]⟩]]⟩ ∧
      withoutRule (ofText "n%10=1..2\u00a0@") =
        withoutRule (ofText "n%10=1..2\u00a0@integer ~") := by
  have hpart : conditionPart "n%10=1..2\u00a0@integer ~" =
      ['n', '%', '1', '0', '=', '1', '.', '.', '2', '\u00a0'] := by decide
  have htoken {text rest : List Char} {kind : Token.Kind}
      (h : Token.Kind.ofStart? text = some (kind, rest)) : Token.Longest text kind rest :=
    Token.ofStart?_eq_some_iff.mp h
  have hmunch : Token.Munch (conditionPart "n%10=1..2\u00a0@integer ~")
      [.word ['n'], .modulo, .number ['1', '0'], .equal, .number ['1'], .range, .number ['2']]
      [] := by
    rw [hpart]
    exact .token (htoken rfl) <| .token (htoken rfl) <| .token (htoken rfl) <|
      .token (htoken rfl) <| .token (htoken rfl) <| .token (htoken rfl) <| .token (htoken rfl) <|
      .blank (by decide) <| .done []
  have hrelation : Grammar.Relation
      [.word ['n'], .modulo, .number ['1', '0'], .equal, .number ['1'], .range, .number ['2']]
      ⟨⟨.n, some 10⟩, false, [.range 1 2]⟩ :=
    .mk (.reduced .n ⟨rfl, by decide⟩) .equal (.last (.range rfl rfl (by decide)))
  have hgrammar := ofText_recognizes_grammar "n%10=1..2\u00a0@integer ~"
  exact ⟨(hgrammar.1 _).mpr ⟨_, hmunch, .last (.last hrelation)⟩, hgrammar.2.2 _ (by decide)⟩

end PluralRules.Condition
