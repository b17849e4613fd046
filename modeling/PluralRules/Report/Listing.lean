import PluralRules.Record.Json
import PluralRules.Report.Box
import PluralRules.Table.Basic

/-!
Listings of rule sets, as a box with a row for each, and as JSON that can be read as a rule file.
-/

namespace PluralRules

namespace RuleSet

def rulesText (ruleSet : RuleSet) : String :=
  "\n".intercalate <| ruleSet.rules.map fun rule => s!"{rule.category.name}: {rule.condition.text}"

def categoriesText (ruleSet : RuleSet) : String :=
  ", ".intercalate (ruleSet.categories.map Category.name)

def toJson (ruleSet : RuleSet) : JsonValue :=
  .object [
    ("locales", .array (ruleSet.locales.map .string)),
    ("categories", .array (ruleSet.categories.map fun category => .string category.name)),
    ("rules", .array (ruleSet.rules.map fun rule =>
      (⟨rule.category, rule.condition.text⟩ : RuleEntry).toJson))]

end RuleSet

def ruleSetBox (ruleSets : List RuleSet) (showRules : Bool) : Box where
  header := ["Locales", if showRules then "Rules" else "Categories"]
  rows := ruleSets.map fun ruleSet =>
    [localeList ruleSet.locales, if showRules then ruleSet.rulesText else ruleSet.categoriesText]

end PluralRules
