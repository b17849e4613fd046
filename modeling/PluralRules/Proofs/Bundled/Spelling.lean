import PluralRules.Bundled.Lookup
import PluralRules.Proofs.Table.Reordering

/-!
The bundled groups with their locales and texts as lists of characters. A proof that evaluates the
data works on these lists: to decode a string literal takes the kernel far longer than to read the
condition in it. The groups have valid records, so the bundled table is built.
-/

namespace PluralRules

structure SpelledEntry where
  category : Category
  text : List Char

structure SpelledGroup where
  locales : List (List Char)
  entries : List SpelledEntry

namespace SpelledEntry

def pair (entry : SpelledEntry) : String × String :=
  (entry.category.name, String.ofList entry.text)

def toEntry (entry : SpelledEntry) : RuleEntry :=
  ⟨entry.category, String.ofList entry.text⟩

end SpelledEntry

def Condition.ofChars? (text : List Char) : Option Condition :=
  match Token.scan 0 (text.takeWhile (· != '@')) with
  | .error _ => none
  | .ok tokens => (RuleText.readTokens tokens).toOption

def SpelledEntry.rule? (entry : SpelledEntry) : Option Rule :=
  (Condition.ofChars? entry.text).map fun condition => ⟨entry.category, condition⟩

namespace SpelledGroup

def group (spelled : SpelledGroup) : RuleGroup :=
  ⟨spelled.locales.map String.ofList, spelled.entries.map SpelledEntry.pair⟩

def record (spelled : SpelledGroup) : RuleRecord :=
  ⟨spelled.locales.map String.ofList, spelled.entries.map SpelledEntry.toEntry⟩

def explicit (spelled : SpelledGroup) : List SpelledEntry :=
  spelled.entries.filter fun entry => entry.category ≠ .other

def ruleSet (spelled : SpelledGroup) : RuleSet :=
  ⟨spelled.locales.map String.ofList, spelled.explicit.filterMap SpelledEntry.rule?⟩

end SpelledGroup

theorem map_eq_cons {α β : Type} {f : α → β} {a : α} {b : β} {as : List α} {bs : List β}
    (ha : f a = b) (has : as.map f = bs) : (a :: as).map f = b :: bs := by
  rw [List.map_cons, ha, has]

theorem SpelledEntry.pair_eq (category : Category) {characters : List Char} {text : String}
    (h : String.ofList characters = text) : pair ⟨category, characters⟩ = (category.name, text) := by
  rw [pair, h]

theorem SpelledGroup.group_eq {names : List (List Char)} {entries : List SpelledEntry}
    {locales : List String} {rules : List (String × String)}
    (hlocales : names.map String.ofList = locales)
    (hrules : entries.map SpelledEntry.pair = rules) :
    group ⟨names, entries⟩ = ⟨locales, rules⟩ := by
  rw [group, hlocales, hrules]

namespace Bundled

set_option maxRecDepth 4000 in
/-- The bundled groups, spelled out. The lists are found by unification with the literals, one
constructor of the data at a time. -/
def spelledGroups :
    { groups : List SpelledGroup // groups.map SpelledGroup.group = cardinalGroups } := by
  apply Subtype.mk
  unfold cardinalGroups
  dsimp only
  repeat' first
    | exact List.map_nil
    | apply map_eq_cons
    | apply SpelledGroup.group_eq
    | exact (rfl : String.ofList _ = _)
    | exact SpelledEntry.pair_eq .zero rfl
    | exact SpelledEntry.pair_eq .one rfl
    | exact SpelledEntry.pair_eq .two rfl
    | exact SpelledEntry.pair_eq .few rfl
    | exact SpelledEntry.pair_eq .many rfl
    | exact SpelledEntry.pair_eq .other rfl

def records : List RuleRecord :=
  spelledGroups.val.map SpelledGroup.record

end Bundled

theorem forall₂_filterMap {α β : Type} {f : α → Option β} {as : List α}
    (h : ∀ a ∈ as, (f a).isSome = true) :
    List.Forall₂ (fun a b => f a = some b) as (as.filterMap f) := by
  induction as with
  | nil => exact .nil
  | cons a as ih =>
    rw [List.forall_mem_cons] at h
    obtain ⟨b, hb⟩ := Option.isSome_iff_exists.mp h.1
    rw [List.filterMap_cons_some hb]
    exact .cons hb (ih h.2)

theorem Condition.ofChars?_eq_some_iff {text : List Char} {condition : Condition} :
    ofChars? text = some condition ↔ ofText (String.ofList text) = .ok condition := by
  simp only [ofChars?, ofText, RuleText.conditionPart, String.toList_ofList]
  cases Token.scan 0 (text.takeWhile (· != '@')) with
  | error stray => simp
  | ok tokens =>
    cases hread : RuleText.readTokens tokens with
    | error failure => simp [hread, Except.toOption, Except.mapError]
    | ok c => simp [hread, Except.toOption, Except.mapError]

theorem SpelledEntry.compilesTo_of_rule? {entry : SpelledEntry} {rule : Rule}
    (h : entry.rule? = some rule) : CompilesTo entry.toEntry rule := by
  obtain ⟨condition, hcondition, rfl⟩ := Option.map_eq_some_iff.mp h
  exact ⟨rfl, Condition.ofChars?_eq_some_iff.mp hcondition⟩

namespace SpelledGroup

theorem toRecord_group (spelled : SpelledGroup) : spelled.group.toRecord = .ok spelled.record := by
  rw [RuleGroup.toRecord_eq_ok_iff, group, record, List.forall₂_map_left_iff,
    List.forall₂_map_right_iff, List.forall₂_same]
  exact ⟨rfl, fun entry _ => ⟨Category.ofName_name entry.category, rfl⟩⟩

theorem explicitEntries_record (spelled : SpelledGroup) :
    explicitEntries spelled.record.rules = spelled.explicit.map SpelledEntry.toEntry :=
  List.filter_map ..

structure IsValid (spelled : SpelledGroup) : Prop where
  nonempty : spelled.locales ≠ []
  nodup : (spelled.explicit.map SpelledEntry.category).Nodup
  parses : ∀ entry ∈ spelled.explicit, entry.rule?.isSome = true

instance (spelled : SpelledGroup) : Decidable spelled.IsValid :=
  decidable_of_iff (_ ∧ _ ∧ _) ⟨fun ⟨h, h', h''⟩ => ⟨h, h', h''⟩, fun ⟨h, h', h''⟩ => ⟨h, h', h''⟩⟩

variable {spelled : SpelledGroup}

theorem IsValid.validEntries (h : spelled.IsValid) : ValidEntries spelled.record.rules where
  nodup := by
    rw [declaredCategories, explicitEntries_record, List.map_map]
    exact h.nodup
  parses entry hentry := by
    rw [explicitEntries_record] at hentry
    obtain ⟨entry, hmem, rfl⟩ := List.mem_map.mp hentry
    obtain ⟨rule, hrule⟩ := Option.isSome_iff_exists.mp (h.parses entry hmem)
    exact ⟨rule.condition, (SpelledEntry.compilesTo_of_rule? hrule).condition⟩

theorem IsValid.compiled (h : spelled.IsValid) : Compiled spelled.record spelled.ruleSet where
  locales := rfl
  rules := by
    rw [explicitEntries_record, List.forall₂_map_left_iff]
    exact (forall₂_filterMap h.parses).imp fun _ _ => SpelledEntry.compilesTo_of_rule?

theorem wellFormed_of_mem_ruleSet {rule : Rule} (h : rule ∈ spelled.ruleSet.rules) :
    rule.condition.WellFormed := by
  obtain ⟨entry, -, hrule⟩ := List.mem_filterMap.mp h
  exact Condition.wellFormed_of_ofText (SpelledEntry.compilesTo_of_rule? hrule).condition

theorem category_ne_other_of_mem_ruleSet {rule : Rule} (h : rule ∈ spelled.ruleSet.rules) :
    rule.category ≠ .other := by
  obtain ⟨entry, hentry, hrule⟩ := List.mem_filterMap.mp h
  rw [(SpelledEntry.compilesTo_of_rule? hrule).category]
  exact of_decide_eq_true (List.mem_filter.mp hentry).2

end SpelledGroup

namespace RuleTable

variable {groups : List RuleGroup} {records : List RuleRecord}

theorem result_readGroups (h : groups.mapM RuleGroup.toRecord = .ok records) :
    (readGroups groups).result = .ok records := by
  rw [readGroups, Build.result_ofResult, h]
  rfl

end RuleTable

namespace Bundled

def nameKey (name : List Char) : ℕ :=
  name.foldl (fun key c => 128 * key + c.toNat) 0

def distinct : List ℕ → Bool
  | [] => true
  | key :: keys => keys.all (fun other => !Nat.beq key other) && distinct keys

theorem nodup_of_distinct {keys : List ℕ} (h : distinct keys = true) : keys.Nodup := by
  induction keys with
  | nil => exact List.nodup_nil
  | cons key keys ih =>
    simp only [distinct, Bool.and_eq_true, List.all_eq_true] at h
    refine List.nodup_cons.mpr ⟨fun hmem => ?_, ih h.2⟩
    simpa using h.1 key hmem

theorem isValid_of_mem : ∀ spelled ∈ spelledGroups.val, spelled.IsValid := by
  decide +kernel

theorem distinct_names :
    distinct ((spelledGroups.val.flatMap SpelledGroup.locales).map nameKey) = true := by
  decide +kernel

theorem mapM_toRecord : cardinalGroups.mapM RuleGroup.toRecord = .ok records := by
  rw [← spelledGroups.property, mapM_eq_ok_iff_forall₂, records, List.forall₂_map_left_iff,
    List.forall₂_map_right_iff, List.forall₂_same]
  exact fun spelled _ => spelled.toRecord_group

def loggedTableOf (groups : List RuleGroup) : Build RuleTable := do
  let records ← RuleTable.readGroups groups
  Build.emit (.loadingBundled version)
  RuleTable.loggedBuild records

def tableOf (groups : List RuleGroup) : Except BuildError RuleTable :=
  (loggedTableOf groups).result

theorem table_eq_tableOf : table = tableOf cardinalGroups :=
  -- Both sides unfold in step; unfolded alone, one of them would run the build.
  rfl

theorem tableOf_eq_build {groups : List RuleGroup} {records : List RuleRecord}
    (h : groups.mapM RuleGroup.toRecord = .ok records) :
    tableOf groups = RuleTable.build records := by
  unfold tableOf loggedTableOf
  rw [Build.result_bind, RuleTable.result_readGroups h]
  rfl

theorem table_eq_build : table = RuleTable.build records :=
  table_eq_tableOf.trans (tableOf_eq_build mapM_toRecord)

theorem validRecords : ValidRecords records where
  nonempty record hrecord := by
    obtain ⟨spelled, hspelled, rfl⟩ := List.mem_map.mp hrecord
    simpa [SpelledGroup.record] using (isValid_of_mem spelled hspelled).nonempty
  nodup := by
    have hlocales : declaredLocales records =
        (spelledGroups.val.flatMap SpelledGroup.locales).map String.ofList := by
      rw [declaredLocales, records, List.flatMap_map, List.map_flatMap]
      rfl
    rw [hlocales]
    exact (nodup_of_distinct distinct_names).of_map.map fun _ _ => String.ofList_injective
  entries record hrecord := by
    obtain ⟨spelled, hspelled, rfl⟩ := List.mem_map.mp hrecord
    exact (isValid_of_mem spelled hspelled).validEntries

theorem exists_table : ∃ built, table = .ok built := by
  rw [table_eq_build]
  exact (RuleTable.exists_build_eq_ok_iff records).mpr validRecords

theorem ruleSet?_of_mem {built : RuleTable} (h : table = .ok built) {spelled : SpelledGroup}
    (hspelled : spelled ∈ spelledGroups.val) {name : List Char} (hname : name ∈ spelled.locales) :
    built.ruleSet? (String.ofList name) = some spelled.ruleSet := by
  obtain ⟨ruleSet, hruleSet, hcompiled⟩ := RuleTable.exists_ruleSet?_of_mem (table_eq_build ▸ h)
    (List.mem_map_of_mem hspelled) (List.mem_map_of_mem hname)
  rw [hruleSet, hcompiled.unique (isValid_of_mem spelled hspelled).compiled]

theorem categoryFor_of_mem {built : RuleTable} (h : table = .ok built) {spelled : SpelledGroup}
    (hspelled : spelled ∈ spelledGroups.val) {name : List Char} (hname : name ∈ spelled.locales)
    (x : Operand) :
    built.categoryFor (String.ofList name) x = .ok (spelled.ruleSet.categoryFor x) := by
  rw [RuleTable.categoryFor, ruleSet?_of_mem h hspelled hname]

end Bundled

end PluralRules
