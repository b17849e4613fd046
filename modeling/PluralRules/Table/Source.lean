import PluralRules.Bundled.Lookup

/-!
Where a table comes from: the bundled data, or groups that a caller gives.
-/

namespace PluralRules

inductive TableSource where
  | bundled
  | declared (groups : List RuleGroup)

namespace TableSource

def loggedTable : TableSource → Build RuleTable
  | bundled => Bundled.loggedTable
  | declared groups => RuleTable.ofGroups groups

def table (source : TableSource) : Except BuildError RuleTable :=
  source.loggedTable.result

end TableSource

end PluralRules
