import PluralRules.Selector
import PluralRules.Table.Source

/-!
Sessions: a current table that may be built anew, and named selectors. A selector keeps the table
that was current when it was made, whatever is built later.
-/

namespace PluralRules

structure Session.Held where
  edition : Nat
  selector : Selector
deriving DecidableEq

structure Session where
  edition : Nat
  table : RuleTable
  -- The last selector made under a name comes first.
  selectors : List (String × Session.Held)
deriving DecidableEq

namespace Session

def start : Session := ⟨0, .empty, []⟩

inductive Step where
  | build (source : TableSource)
  | select (name : String) (locale? fallback? : Option String)
  | clone (name source : String)
  | setLocale (name locale : String)

inductive StepError where
  | build (error : BuildError)
  | noSelector (name : String)
deriving DecidableEq

def held? (session : Session) (name : String) : Option Held :=
  session.selectors.lookup name

def hold (session : Session) (name : String) (held : Held) : Session :=
  { session with selectors := (name, held) :: session.selectors }

@[simp] theorem held?_hold (session : Session) (name : String) (held : Held) :
    (session.hold name held).held? name = some held := by
  simp only [hold, held?, List.lookup_cons_self]

theorem held?_hold_of_ne (session : Session) {name other : String} (held : Held)
    (h : other ≠ name) : (session.hold name held).held? other = session.held? other := by
  simp only [hold, held?, List.lookup_cons, beq_false_of_ne h]

/-- The session after a step. A step that fails leaves no session, so the old one stays. -/
def apply (session : Session) : Step → Except StepError Session
  | .build source => do
    let table ← source.table.mapError .build
    return { session with edition := session.edition + 1, table := table }
  | .select name locale? fallback? =>
    .ok <| session.hold name
      ⟨session.edition, session.table, locale?.getD Selector.defaultLocale, fallback?⟩
  | .clone name source =>
    match session.held? source with
    | none => .error (.noSelector name)
    | some held => .ok (session.hold name held)
  | .setLocale name locale =>
    match session.held? name with
    | none => .error (.noSelector name)
    | some held =>
      .ok (session.hold name { held with selector := { held.selector with locale := locale } })

def run (session : Session) (steps : List Step) : Session :=
  steps.foldl (fun session step => (session.apply step).toOption.getD session) session

def isCurrent (session : Session) (held : Held) : Bool :=
  held.edition == session.edition

end Session

end PluralRules
