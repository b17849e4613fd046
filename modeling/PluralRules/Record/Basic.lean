import PluralRules.Category

/-!
Rule records: the locales that share a list of rules, each rule a category and the text of its
condition. A record may come with the names of categories not yet checked.
-/

namespace PluralRules

structure RuleEntry where
  category : Category
  text : String
deriving DecidableEq

structure RuleRecord where
  locales : List String
  rules : List RuleEntry
deriving DecidableEq

def localeList (locales : List String) : String :=
  " ".intercalate locales

structure RuleGroup where
  locales : List String
  rules : List (String × String)
deriving DecidableEq

def RuleGroup.toRecord (group : RuleGroup) : Except Category.Unknown RuleRecord := do
  let rules ← group.rules.mapM fun (name, text) => do
    return ⟨← Category.ofName name, text⟩
  return ⟨group.locales, rules⟩

end PluralRules
