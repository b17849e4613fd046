import PluralRules.Record.Basic
import PluralRules.RuleText.Parser
import PluralRules.Table.Basic

/-!
Building a table from records, in one pass that logs what it does and stops at the first fault.
-/

namespace PluralRules

/-- Locales stand in an error as one text, and so does the rule that does not compile. -/
inductive BuildError where
  | emptyLocales (record : Nat)
  | duplicateLocale (locale : String) (first second : Nat)
  | duplicateCategory (locales : String) (category : Category)
  | ruleCompilation (locales : String) (category : Category) (rule : String) (source : RuleError)
  | unknownCategory (unknown : Category.Unknown)
deriving DecidableEq

def BuildError.message : BuildError → String
  | emptyLocales record => s!"record {record} declares no locales"
  | duplicateLocale locale first second =>
    s!"locale '{locale}' is declared by record {first} and record {second}"
  | duplicateCategory locales category =>
    s!"category '{category.name}' is declared twice for locales [{locales}]"
  | ruleCompilation locales category _ source =>
    s!"failed to compile '{category.name}' rule for locales [{locales}]: " ++ source.message
  | unknownCategory unknown => unknown.message

inductive BuildEvent where
  | loadingBundled (version : String)
  | skippedOther (locales : List String)
  | compiled (locales : List String) (rules : Nat)
  | built (locales ruleSets : Nat)
deriving DecidableEq

namespace BuildEvent

def level : BuildEvent → String
  | built _ _ => "INFO"
  | _ => "DEBUG"

def message : BuildEvent → String
  | loadingBundled _ => "loading bundled CLDR rules"
  | skippedOther _ => "skipping explicit 'other' rule"
  | compiled _ _ => "compiled plural rule set"
  | built _ _ => "built plural rule table"

def fields : BuildEvent → List (String × String)
  | loadingBundled version => [("cldr_version", Text.quoted version)]
  | skippedOther locales => [("locales", localeList locales)]
  | compiled locales rules => [("locales", localeList locales), ("rules", toString rules)]
  | built locales ruleSets =>
    [("locales", toString locales), ("rule_sets", toString ruleSets)]

end BuildEvent

structure Build (α : Type) where
  log : List BuildEvent
  result : Except BuildError α

namespace Build

def ofResult {α : Type} (result : Except BuildError α) : Build α := ⟨[], result⟩

def emit (event : BuildEvent) : Build Unit := ⟨[event], .ok ()⟩

instance : Monad Build where
  pure a := ⟨[], .ok a⟩
  bind step next :=
    match step.result with
    | .error error => ⟨step.log, .error error⟩
    | .ok a => ⟨step.log ++ (next a).log, (next a).result⟩

variable {α β : Type}

@[simp] theorem result_pure (a : α) : (pure a : Build α).result = .ok a := rfl

@[simp] theorem result_ofResult (result : Except BuildError α) :
    (ofResult result).result = result := rfl

@[simp] theorem result_emit (event : BuildEvent) : (emit event).result = .ok () := rfl

@[simp] theorem result_bind (step : Build α) (next : α → Build β) :
    (step >>= next).result = step.result >>= fun a => (next a).result := by
  cases h : step.result <;> simp only [bind, Except.bind, h]

end Build

/-- The rules of a record's entries; an entry for `other` says nothing, since `other` is what is
left when no rule holds. -/
def compileEntries (locales : List String) (seen : List Category) :
    List RuleEntry → Build (List Rule)
  | [] => pure []
  | entry :: entries =>
    if entry.category = .other then do
      Build.emit (.skippedOther locales)
      compileEntries locales seen entries
    else if entry.category ∈ seen then
      Build.ofResult (.error (.duplicateCategory (localeList locales) entry.category))
    else do
      let condition ← Build.ofResult <| (Condition.ofText entry.text).mapError fun error =>
        .ruleCompilation (localeList locales) entry.category entry.text error
      let rules ← compileEntries locales (entry.category :: seen) entries
      return ⟨entry.category, condition⟩ :: rules

abbrev Owners : Type := List (String × Nat)

def claimLocales (index : Nat) (owners : Owners) : List String → Except BuildError Owners
  | [] => .ok owners
  | locale :: locales =>
    match owners.lookup locale with
    | some first => .error (.duplicateLocale locale first index)
    | none => claimLocales index ((locale, index) :: owners) locales

def compileRecord (record : RuleRecord) : Build RuleSet := do
  let rules ← compileEntries record.locales [] record.rules
  Build.emit (.compiled record.locales rules.length)
  return ⟨record.locales, rules⟩

structure Draft where
  owners : Owners
  table : RuleTable

def Draft.start : Draft := ⟨[], .empty⟩

def addRecord (index : Nat) (draft : Draft) (record : RuleRecord) : Build Draft := do
  if record.locales.isEmpty then
    Build.ofResult (.error (.emptyLocales index))
  let owners ← Build.ofResult (claimLocales index draft.owners record.locales)
  let ruleSet ← compileRecord record
  return ⟨owners, draft.table.add ruleSet⟩

def addRecords (index : Nat) (draft : Draft) : List RuleRecord → Build Draft
  | [] => pure draft
  | record :: records => do
    let draft ← addRecord index draft record
    addRecords (index + 1) draft records

namespace RuleTable

def loggedBuild (records : List RuleRecord) : Build RuleTable := do
  let draft ← addRecords 0 .start records
  Build.emit (.built draft.table.size draft.table.ruleSets.length)
  return draft.table

def build (records : List RuleRecord) : Except BuildError RuleTable :=
  (loggedBuild records).result

def readGroups (groups : List RuleGroup) : Build (List RuleRecord) :=
  Build.ofResult ((groups.mapM RuleGroup.toRecord).mapError .unknownCategory)

def ofGroups (groups : List RuleGroup) : Build RuleTable := do
  loggedBuild (← readGroups groups)

end RuleTable

end PluralRules
