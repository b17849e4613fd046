import Mathlib.Data.List.TakeWhile
import PluralRules.Proofs.Condition.WellFormed
import PluralRules.Proofs.RuleText.Precedence
import PluralRules.Proofs.RuleText.Recognition
import PluralRules.Proofs.RuleText.Spelling

/-!
Canonical text is read back exactly for the well-formed conditions. The tokens of the canonical
text of a condition derive that condition if it is well formed, and derive nothing if it is not.
-/

namespace PluralRules

open Token (Kind Munch)

theorem Symbol.toChar_injective : Function.Injective Symbol.toChar := by
  intro symbol other h
  exact Option.some.inj (by rw [← ofChar?_toChar, h, ofChar?_toChar])

theorem RangeItem.tight_kinds (item : RangeItem) : Tight 1 item.kinds := by
  cases item <;> simp [kinds, Kind.looseness]

theorem Expression.tight_kinds (expr : Expression) : Tight 1 expr.kinds := by
  unfold kinds
  split <;> simp [Kind.looseness]

theorem Relation.tight_kinds (relation : Relation) : Tight 3 relation.kinds := by
  have hranges : Tight 3 ([Kind.comma].intercalate (relation.ranges.map RangeItem.kinds)) :=
    Tight.intercalate (by decide) fun kinds hkinds => by
      obtain ⟨item, -, rfl⟩ := List.mem_map.mp hkinds
      exact item.tight_kinds.mono (by decide)
  refine (relation.expression.tight_kinds.mono (by decide)).append_cons ?_ hranges
  split <;> decide

theorem tight_conjunctionKinds (relations : List Relation) :
    Tight 4 (conjunctionKinds relations) :=
  Tight.intercalate (by decide) fun kinds hkinds => by
    obtain ⟨relation, -, rfl⟩ := List.mem_map.mp hkinds
    exact relation.tight_kinds.mono (by decide)

namespace Grammar

theorem value_toDigits_iff {value other : UInt64} :
    Value (Nat.toDigits 10 value.toNat) other ↔ other = value := by
  rw [Value, Nat.ofDigitChars_ten_toDigits, UInt64.toNat_inj]

theorem modulus_toDigits_iff {modulus other : UInt32} :
    Modulus (Nat.toDigits 10 modulus.toNat) other ↔ 0 < modulus.toNat ∧ other = modulus := by
  rw [Modulus, Nat.ofDigitChars_ten_toDigits, UInt32.toNat_inj]
  constructor
  · rintro ⟨rfl, hpos⟩
    exact ⟨hpos, rfl⟩
  · rintro ⟨hpos, rfl⟩
    exact ⟨rfl, hpos⟩

theorem item_kinds_iff {item other : RangeItem} :
    Item item.kinds other ↔ item.WellFormed ∧ other = item := by
  cases item with
  | single value =>
    constructor
    · intro h
      cases h with
      | single hvalue => exact ⟨trivial, congrArg _ (value_toDigits_iff.mp hvalue)⟩
    · rintro ⟨-, rfl⟩
      exact .single (value_toDigits_iff.mpr rfl)
  | range low high =>
    constructor
    · intro h
      cases h with
      | range hlow hhigh hle =>
        obtain rfl := value_toDigits_iff.mp hlow
        obtain rfl := value_toDigits_iff.mp hhigh
        exact ⟨hle, rfl⟩
    · rintro ⟨hle, rfl⟩
      exact .range (value_toDigits_iff.mpr rfl) (value_toDigits_iff.mpr rfl) hle

theorem expression_kinds_iff {expr other : PluralRules.Expression} :
    Expression expr.kinds other ↔ expr.WellFormed ∧ other = expr := by
  obtain ⟨symbol, modulus?⟩ := expr
  constructor
  · intro h
    generalize hused : PluralRules.Expression.kinds ⟨symbol, modulus?⟩ = used at h
    cases modulus? with
    | none =>
      cases h with
      | plain other =>
        have hsymbol : symbol.toChar = other.toChar := by
          simpa [PluralRules.Expression.kinds] using hused
        obtain rfl := Symbol.toChar_injective hsymbol
        exact ⟨by simp [PluralRules.Expression.WellFormed], rfl⟩
      | reduced => simp [PluralRules.Expression.kinds] at hused
    | some modulus =>
      cases h with
      | plain => simp [PluralRules.Expression.kinds] at hused
      | reduced other hmodulus =>
        obtain ⟨hsymbol, rfl⟩ : symbol.toChar = other.toChar ∧ _ = _ := by
          simpa [PluralRules.Expression.kinds] using hused
        obtain rfl := Symbol.toChar_injective hsymbol
        obtain ⟨hpos, rfl⟩ := modulus_toDigits_iff.mp hmodulus
        exact ⟨by rintro _ ⟨⟩; exact hpos, rfl⟩
  · rintro ⟨hmodulus, rfl⟩
    cases modulus? with
    | none => exact .plain symbol
    | some modulus => exact .reduced symbol (modulus_toDigits_iff.mpr ⟨hmodulus modulus rfl, rfl⟩)

theorem Item.ne_nil {kinds : List Kind} {item : RangeItem} (h : Item kinds item) :
    kinds ≠ [] := by
  cases h <;> exact List.cons_ne_nil _ _

theorem Relation.ne_nil {kinds : List Kind} {relation : PluralRules.Relation}
    (h : Relation kinds relation) : kinds ≠ [] := by
  cases h
  simp

theorem Separated.ne_nil {α : Type} {separator : Kind} {Phrase : List Kind → α → Prop}
    (hphrase : ∀ kinds a, Phrase kinds a → kinds ≠ []) {kinds : List Kind} {as : List α}
    (h : Separated separator Phrase kinds as) : kinds ≠ [] := by
  cases h with
  | last ha => exact hphrase _ _ ha
  | more => simp

theorem separated_intercalate_iff {α : Type} (separator : Kind) {Phrase : List Kind → α → Prop}
    {kinds : α → List Kind} {Good : α → Prop}
    (hitem : ∀ a b, Phrase (kinds a) b ↔ Good a ∧ b = a)
    (hkinds : ∀ a, Tight separator.looseness (kinds a))
    (hphrase : ∀ used a, Phrase used a → Tight separator.looseness used)
    (hne : ∀ used a, Phrase used a → used ≠ [])
    (as bs : List α) :
    Separated separator Phrase ([separator].intercalate (as.map kinds)) bs ↔
      (as ≠ [] ∧ ∀ a ∈ as, Good a) ∧ bs = as := by
  induction as generalizing bs with
  | nil =>
    -- Without items there are no tokens, and no phrase is that short.
    rw [List.map_nil, List.intercalate_nil, separated_of_notMem_iff List.not_mem_nil]
    constructor
    · rintro ⟨a, ha, -⟩
      exact absurd rfl (hne _ _ ha)
    · rintro ⟨⟨h, -⟩, -⟩
      exact absurd rfl h
  | cons a as ih =>
    cases as with
    | nil =>
      rw [List.map_cons, List.map_nil, List.intercalate_singleton,
        separated_of_notMem_iff (hkinds a).notMem]
      constructor
      · rintro ⟨b, hb, rfl⟩
        obtain ⟨hgood, rfl⟩ := (hitem a b).mp hb
        simpa using hgood
      · rintro ⟨⟨-, hgood⟩, rfl⟩
        exact ⟨a, (hitem a a).mpr ⟨hgood a List.mem_cons_self, rfl⟩, rfl⟩
    | cons b as =>
      -- The items are tight, so the first separator is the one behind the first item.
      have hsplit : [separator].intercalate ((a :: b :: as).map kinds) =
          kinds a ++ separator :: [separator].intercalate ((b :: as).map kinds) := by simp
      rw [hsplit, separated_append_cons_iff hphrase (hkinds a)]
      simp only [hitem, ih]
      constructor
      · rintro ⟨_, _, ⟨hgood, rfl⟩, ⟨⟨-, hothers⟩, rfl⟩, rfl⟩
        exact ⟨⟨List.cons_ne_nil _ _, List.forall_mem_cons.mpr ⟨hgood, hothers⟩⟩, rfl⟩
      · rintro ⟨⟨-, hgood⟩, rfl⟩
        obtain ⟨ha, hothers⟩ := List.forall_mem_cons.mp hgood
        exact ⟨a, _, ⟨ha, rfl⟩, ⟨⟨List.cons_ne_nil _ _, hothers⟩, rfl⟩, rfl⟩

theorem relation_kinds_iff {relation other : PluralRules.Relation} :
    Relation relation.kinds other ↔ relation.WellFormed ∧ other = relation := by
  have hranges (ranges : List RangeItem) := separated_intercalate_iff .comma
    (fun _ _ => item_kinds_iff) RangeItem.tight_kinds (fun _ _ => Item.tight)
    (fun _ _ => Item.ne_nil) relation.ranges ranges
  obtain ⟨expr, negated, ranges⟩ := relation
  constructor
  · intro h
    generalize hused : PluralRules.Relation.kinds ⟨expr, negated, ranges⟩ = used at h
    cases h with
    | @mk left right sign expr' negated' ranges' hleft hsign hright =>
      -- On both sides the sign is the first loose token, so the two splits are one.
      have hloose : 1 ≤ (if negated then Kind.notEqual else Kind.equal).looseness := by
        split <;> decide
      have hloose' : 1 ≤ sign.looseness := by cases hsign <;> decide
      obtain ⟨rfl, rfl, rfl⟩ := expr.tight_kinds.append_cons_inj hleft.tight hloose hloose' hused
      obtain ⟨hexpr, rfl⟩ := expression_kinds_iff.mp hleft
      obtain ⟨hgood, rfl⟩ := (hranges ranges').mp hright
      obtain rfl : negated = negated' := by cases negated <;> cases hsign <;> rfl
      exact ⟨⟨hexpr, hgood⟩, rfl⟩
  · rintro ⟨⟨hexpr, hgood⟩, rfl⟩
    refine .mk (expression_kinds_iff.mpr ⟨hexpr, rfl⟩) ?_ ((hranges ranges).mpr ⟨hgood, rfl⟩)
    cases negated
    · exact .equal
    · exact .notEqual

theorem conjunction_kinds_iff {relations others : List PluralRules.Relation} :
    Conjunction (conjunctionKinds relations) others ↔
      (relations ≠ [] ∧ ∀ relation ∈ relations, relation.WellFormed) ∧ others = relations :=
  separated_intercalate_iff (.word ['a', 'n', 'd']) (fun _ _ => relation_kinds_iff)
    PluralRules.Relation.tight_kinds (fun _ _ => Relation.tight) (fun _ _ => Relation.ne_nil)
    relations others

theorem condition_kinds_iff {condition other : PluralRules.Condition} :
    Condition condition.kinds other ↔ condition.WellFormed ∧ other = condition := by
  have halternatives := separated_intercalate_iff (.word ['o', 'r'])
    (fun _ _ => conjunction_kinds_iff) tight_conjunctionKinds (fun _ _ => Conjunction.tight)
    (fun _ _ => Separated.ne_nil fun _ _ => Relation.ne_nil) condition.alternatives
    other.alternatives
  cases condition
  cases other
  simpa [Condition, PluralRules.Condition.kinds, PluralRules.Condition.WellFormed] using
    halternatives

end Grammar

theorem RuleText.conditionPart_ofList {text : List Char} {kinds : List Kind}
    (h : Munch text kinds []) : conditionPart (String.ofList text) = text := by
  rw [conditionPart, String.toList_ofList, List.takeWhile_eq_self_iff]
  intro c hc
  exact bne_iff_ne.mpr (ne_of_mem_of_not_mem hc h.at_notMem)

namespace Condition

theorem conditionPart_text (condition : Condition) :
    RuleText.conditionPart condition.text = condition.canonical :=
  RuleText.conditionPart_ofList condition.munch

theorem ofText_text_eq_ok_iff {condition other : Condition} :
    ofText condition.text = .ok other ↔ condition.WellFormed ∧ other = condition := by
  rw [ofText_eq_ok_iff, conditionPart_text]
  constructor
  · rintro ⟨kinds, hmunch, hderives⟩
    obtain rfl := hmunch.unique condition.munch
    exact Grammar.condition_kinds_iff.mp hderives
  · intro h
    exact ⟨condition.kinds, condition.munch, Grammar.condition_kinds_iff.mpr h⟩

theorem wellFormed_of_ofText {rule : String} {condition : Condition}
    (h : ofText rule = .ok condition) : condition.WellFormed := by
  obtain ⟨kinds, -, hderives⟩ := ofText_eq_ok_iff.mp h
  exact hderives.wellFormed

/-- Reading inverts writing on the well-formed conditions and fails on the canonical text of every
other one. So different well-formed conditions have different texts, and the condition of a rule
text is the condition of its own canonical text. -/
theorem ofText_inverts_text :
    (∀ condition : Condition, (condition.WellFormed → ofText condition.text = .ok condition) ∧
      (¬condition.WellFormed → ∃ error, ofText condition.text = .error error)) ∧
    (∀ condition other : Condition, condition.WellFormed → other.WellFormed →
      condition.text = other.text → condition = other) ∧
    ∀ rule condition, ofText rule = .ok condition →
      ∃ again, ofText condition.text = .ok again ∧ again = condition ∧
        again.text = condition.text := by
  refine ⟨fun condition => ⟨fun h => ofText_text_eq_ok_iff.mpr ⟨h, rfl⟩, fun h => ?_⟩, ?_, ?_⟩
  · cases hresult : ofText condition.text with
    | error error => exact ⟨error, rfl⟩
    | ok other => exact absurd (ofText_text_eq_ok_iff.mp hresult).1 h
  · intro condition other hcondition hother htext
    have hself := ofText_text_eq_ok_iff.mpr ⟨hcondition, rfl⟩
    rw [htext] at hself
    exact (ofText_text_eq_ok_iff.mp hself).2
  · intro rule condition h
    exact ⟨condition, ofText_text_eq_ok_iff.mpr ⟨wellFormed_of_ofText h, rfl⟩, rfl, rfl⟩

theorem ofText_inverts_text_greatest_value :
    let listed : Relation := ⟨⟨.n, some 10⟩, true, [.single 1, .range 2 4]⟩
    let greatest : Relation := ⟨⟨.v, none⟩, false, [.single 18446744073709551615]⟩
    ofText (text ⟨[[listed, greatest], [listed]]⟩) = .ok ⟨[[listed, greatest], [listed]]⟩ ∧
      ∃ error, ofText (text ⟨[[], [greatest]]⟩) = .error error := by
  intro listed greatest
  obtain ⟨hread, -, -⟩ := ofText_inverts_text
  exact ⟨(hread ⟨[[listed, greatest], [listed]]⟩).1 (by decide),
    (hread ⟨[[], [greatest]]⟩).2 (by decide)⟩

end Condition

end PluralRules
