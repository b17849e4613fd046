import PluralRules.Bundled.Cardinals
import PluralRules.Table.Build

/-!
Access to the bundled rules: the group of a locale, all locales in the order of the data, and the
table of all groups.
-/

namespace PluralRules.Bundled

def groupFor? (locale : String) : Option RuleGroup :=
  cardinalGroups.find? fun group => group.locales.contains locale

def locales : List String :=
  cardinalGroups.flatMap RuleGroup.locales

def loggedTable : Build RuleTable := do
  let records ← RuleTable.readGroups cardinalGroups
  Build.emit (.loadingBundled version)
  RuleTable.loggedBuild records

def table : Except BuildError RuleTable :=
  loggedTable.result

end PluralRules.Bundled
