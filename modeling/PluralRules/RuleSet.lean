import PluralRules.Category
import PluralRules.Condition.Canonical
import PluralRules.Condition.Holds
import PluralRules.Text.Quoted

/-!
Rule sets: the rules that a group of locales shares, in the order in which they are tried.
-/

namespace PluralRules

structure Rule where
  category : Category
  condition : Condition
deriving DecidableEq

def Rule.debugText (rule : Rule) : String :=
  s!"CompiledRule \x7b category: {rule.category.name.capitalize}, "
    ++ s!"condition: {Text.quoted rule.condition.text}, .. \x7d"

structure RuleSet where
  locales : List String
  rules : List Rule
deriving DecidableEq

namespace RuleSet

def categories (ruleSet : RuleSet) : List Category :=
  ruleSet.rules.map Rule.category ++ [.other]

def categoryFor (ruleSet : RuleSet) (x : Operand) : Category :=
  match ruleSet.rules.find? fun rule => rule.condition.holds x with
  | some rule => rule.category
  | none => .other

end RuleSet

end PluralRules
