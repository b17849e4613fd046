import PluralRules.RuleSet
import PluralRules.Suggestion
import PluralRules.Table.LocaleMap

/-!
Rule tables: all rule sets of a source, found by locale. A locale that no rule set lists is an
error; no other locale stands in for it.
-/

namespace PluralRules

/-- The rule sets in the order of their records, and the rule set of each locale. -/
structure RuleTable where
  ruleSets : List RuleSet
  byLocale : LocaleMap RuleSet
deriving DecidableEq

structure UnknownLocale where
  locale : String
  suggestions : List String
deriving DecidableEq

def UnknownLocale.message (unknown : UnknownLocale) : String :=
  let hint :=
    if unknown.suggestions.isEmpty then ""
    else ", did you mean: " ++ ", ".intercalate unknown.suggestions ++ "?"
  s!"unknown locale '{unknown.locale}'{hint}"

namespace RuleTable

def empty : RuleTable := ⟨[], .empty⟩

def add (table : RuleTable) (ruleSet : RuleSet) : RuleTable where
  ruleSets := table.ruleSets ++ [ruleSet]
  byLocale := ruleSet.locales.foldl (fun byLocale locale => byLocale.insert locale ruleSet)
    table.byLocale

def ruleSet? (table : RuleTable) (locale : String) : Option RuleSet :=
  table.byLocale.find? locale

theorem find?_foldl_insert (locales : List String) (ruleSet : RuleSet)
    (byLocale : LocaleMap RuleSet) (locale : String) :
    (locales.foldl (fun byLocale key => byLocale.insert key ruleSet) byLocale).find? locale =
      if locale ∈ locales then some ruleSet else byLocale.find? locale := by
  induction locales generalizing byLocale with
  | nil => rfl
  | cons key locales ih =>
    rw [List.foldl_cons, ih, LocaleMap.find?_insert]
    by_cases h : locale = key <;> simp [h]

theorem ruleSet?_add (table : RuleTable) (ruleSet : RuleSet) (locale : String) :
    (table.add ruleSet).ruleSet? locale =
      if locale ∈ ruleSet.locales then some ruleSet else table.ruleSet? locale :=
  find?_foldl_insert ruleSet.locales ruleSet table.byLocale locale

def sameRuleSet? (table : RuleTable) (a b : String) : Option Bool := do
  let ofLocale (locale : String) :=
    table.ruleSets.findIdx? fun ruleSet => ruleSet.locales.contains locale
  return (← ofLocale a) == (← ofLocale b)

def locales (table : RuleTable) : List String :=
  table.byLocale.keys

def size (table : RuleTable) : Nat :=
  table.byLocale.size

def categoryFor (table : RuleTable) (locale : String) (x : Operand) :
    Except UnknownLocale Category :=
  match table.ruleSet? locale with
  | some ruleSet => .ok (ruleSet.categoryFor x)
  | none => .error ⟨locale, suggestions locale table.locales⟩

end RuleTable

end PluralRules
