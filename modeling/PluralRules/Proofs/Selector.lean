import PluralRules.Proofs.Table.Invariant
import PluralRules.Selector

/-!
What a selector answers: the category in its locale if the table lists that one, or else in its
fallback if it has one. An error names the locale that was looked up last.
-/

namespace PluralRules

/-- The answer for a number in a locale with a fallback. -/
inductive RuleTable.Answers (table : RuleTable) (locale : String) (fallback? : Option String)
    (x : Operand) : Except UnknownLocale Category → Prop
  | inLocale {ruleSet : RuleSet} : table.ruleSet? locale = some ruleSet →
    Answers table locale fallback? x (.ok (ruleSet.categoryFor x))
  | inFallback {fallback : String} {ruleSet : RuleSet} : locale ∉ table.locales →
    fallback? = some fallback → table.ruleSet? fallback = some ruleSet →
    Answers table locale fallback? x (.ok (ruleSet.categoryFor x))
  | unknownLocale : locale ∉ table.locales → fallback? = none →
    Answers table locale fallback? x (.error ⟨locale, suggestions locale table.locales⟩)
  | unknownFallback {fallback : String} : locale ∉ table.locales → fallback? = some fallback →
    fallback ∉ table.locales →
    Answers table locale fallback? x (.error ⟨fallback, suggestions fallback table.locales⟩)

inductive RuleTable.AnswersNumeral (table : RuleTable) (locale : String)
    (fallback? : Option String) (numeral : Numeral) : Except SelectionError Category → Prop
  | invalid {error : Literal.Error} : numeral.operand = .error error →
    AnswersNumeral table locale fallback? numeral (.error (.invalidNumber error))
  | category {x : Operand} {category : Category} : numeral.operand = .ok x →
    table.Answers locale fallback? x (.ok category) →
    AnswersNumeral table locale fallback? numeral (.ok category)
  | unknown {x : Operand} {unknown : UnknownLocale} : numeral.operand = .ok x →
    table.Answers locale fallback? x (.error unknown) →
    AnswersNumeral table locale fallback? numeral (.error (.unknownLocale unknown))

namespace RuleTable

variable {table : RuleTable} {locale : String}

theorem mem_locales_iff :
    locale ∈ table.locales ↔ ∃ ruleSet, table.ruleSet? locale = some ruleSet :=
  table.byLocale.mem_keys_iff

theorem categoryFor_of_ruleSet {ruleSet : RuleSet} (h : table.ruleSet? locale = some ruleSet)
    (x : Operand) : table.categoryFor locale x = .ok (ruleSet.categoryFor x) := by
  rw [categoryFor, h]

theorem categoryFor_of_notMem_locales (h : locale ∉ table.locales) (x : Operand) :
    table.categoryFor locale x = .error ⟨locale, suggestions locale table.locales⟩ := by
  have hnone : table.ruleSet? locale = none :=
    Option.eq_none_iff_forall_ne_some.mpr fun ruleSet hfound => h (mem_locales_iff.mpr ⟨_, hfound⟩)
  rw [categoryFor, hnone]

end RuleTable

namespace Selector

theorem answers_categoryFor (selector : Selector) (x : Operand) :
    selector.table.Answers selector.locale selector.fallback? x (selector.categoryFor x) := by
  obtain ⟨table, locale, fallback?⟩ := selector
  simp only [categoryFor]
  by_cases hlocale : locale ∈ table.locales
  · obtain ⟨ruleSet, hruleSet⟩ := RuleTable.mem_locales_iff.mp hlocale
    rw [RuleTable.categoryFor_of_ruleSet hruleSet]
    exact .inLocale hruleSet
  · rw [RuleTable.categoryFor_of_notMem_locales hlocale]
    cases fallback? with
    | none => exact .unknownLocale hlocale rfl
    | some fallback =>
      dsimp only
      by_cases hfallback : fallback ∈ table.locales
      · obtain ⟨ruleSet, hruleSet⟩ := RuleTable.mem_locales_iff.mp hfallback
        rw [RuleTable.categoryFor_of_ruleSet hruleSet]
        exact .inFallback hlocale rfl hruleSet
      · rw [RuleTable.categoryFor_of_notMem_locales hfallback]
        exact .unknownFallback hlocale rfl hfallback

theorem categoryFor_eq_iff {selector : Selector} {x : Operand}
    {result : Except UnknownLocale Category} :
    selector.categoryFor x = result ↔
      selector.table.Answers selector.locale selector.fallback? x result := by
  constructor
  · rintro rfl
    exact selector.answers_categoryFor x
  · rintro (h | ⟨hlocale, hfallback, h⟩ | ⟨hlocale, hnone⟩ | ⟨hlocale, hfallback, h⟩)
    · simp only [categoryFor, RuleTable.categoryFor_of_ruleSet h]
    · simp only [categoryFor, RuleTable.categoryFor_of_notMem_locales hlocale, hfallback,
        RuleTable.categoryFor_of_ruleSet h]
    · simp only [categoryFor, RuleTable.categoryFor_of_notMem_locales hlocale, hnone]
    · simp only [categoryFor, RuleTable.categoryFor_of_notMem_locales hlocale, hfallback,
        RuleTable.categoryFor_of_notMem_locales h]

theorem categoryForNumeral_eq_bind (selector : Selector) (numeral : Numeral) :
    selector.categoryForNumeral numeral =
      numeral.operand.mapError .invalidNumber >>= fun x =>
        (selector.categoryFor x).mapError .unknownLocale := by
  cases numeral <;> rfl

theorem categoryForNumeral_eq_iff {selector : Selector} {numeral : Numeral}
    {result : Except SelectionError Category} :
    selector.categoryForNumeral numeral = result ↔
      selector.table.AnswersNumeral selector.locale selector.fallback? numeral result := by
  rw [categoryForNumeral_eq_bind]
  constructor
  · rintro rfl
    cases hx : numeral.operand with
    | error error => exact .invalid hx
    | ok x =>
      have hanswers := selector.answers_categoryFor x
      simp only [Except.mapError, bind, Except.bind]
      cases hcategory : selector.categoryFor x with
      | ok category => exact .category hx (hcategory ▸ hanswers)
      | error unknown => exact .unknown hx (hcategory ▸ hanswers)
  · rintro (hx | ⟨hx, hanswers⟩ | ⟨hx, hanswers⟩)
    · rw [hx]
      rfl
    · simp only [hx, Except.mapError, bind, Except.bind, categoryFor_eq_iff.mpr hanswers]
    · simp only [hx, Except.mapError, bind, Except.bind, categoryFor_eq_iff.mpr hanswers]

end Selector

end PluralRules
