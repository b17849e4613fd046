import PluralRules.Table.Basic

/-!
Selectors: a table with the locale to select in, and perhaps another locale to fall back on when
the table does not know the first.
-/

namespace PluralRules

inductive SelectionError where
  | unknownLocale (unknown : UnknownLocale)
  | invalidNumber (error : Literal.Error)
deriving DecidableEq

def SelectionError.message : SelectionError → String
  | unknownLocale unknown => unknown.message
  | invalidNumber error => error.message

structure Selector where
  table : RuleTable
  locale : String
  fallback? : Option String
deriving DecidableEq

namespace Selector

def defaultLocale : String := "root"

/-- The fallback decides alone once the locale is unknown, also about the error. -/
def categoryFor (selector : Selector) (x : Operand) : Except UnknownLocale Category :=
  match selector.table.categoryFor selector.locale x, selector.fallback? with
  | .error _, some fallback => selector.table.categoryFor fallback x
  | result, _ => result

def categoryForText (selector : Selector) (number : String) : Except SelectionError Category := do
  let x ← (Operand.ofLiteral number).mapError .invalidNumber
  (selector.categoryFor x).mapError .unknownLocale

def categoryForNumeral (selector : Selector) : Numeral → Except SelectionError Category
  | .literal text => selector.categoryForText text
  | .integer value => (selector.categoryFor (Operand.ofInt value)).mapError .unknownLocale

end Selector

end PluralRules
