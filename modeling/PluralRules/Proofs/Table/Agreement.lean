import Mathlib.Data.List.Forall2
import PluralRules.Proofs.Table.Outcome

/-!
A built table answers as its records declare. Its rule sets stand for the records one by one, and
each locale leads to the rule set of the record that lists it.
-/

namespace PluralRules

def RuleEntry.conditionHolds (entry : RuleEntry) (x : Operand) : Bool :=
  match Condition.ofText entry.text with
  | .ok condition => condition.holds x
  | .error _ => false

def RuleEntry.selects (entry : RuleEntry) (x : Operand) : Bool :=
  entry.category ≠ .other ∧ entry.conditionHolds x

/-- The category of the first entry that selects, or else `other`. -/
def RuleRecord.declaredCategory (record : RuleRecord) (x : Operand) : Category :=
  match record.rules.find? fun entry => entry.selects x with
  | some entry => entry.category
  | none => .other

structure CompilesTo (entry : RuleEntry) (rule : Rule) : Prop where
  category : rule.category = entry.category
  condition : Condition.ofText entry.text = .ok rule.condition

structure Compiled (record : RuleRecord) (ruleSet : RuleSet) : Prop where
  locales : ruleSet.locales = record.locales
  rules : List.Forall₂ CompilesTo (explicitEntries record.rules) ruleSet.rules

/-- The table has the rule sets of the records, and finds by locale what a search through them
finds. -/
structure Represents (records : List RuleRecord) (table : RuleTable) : Prop where
  ruleSets : List.Forall₂ Compiled records table.ruleSets
  ruleSet? : ∀ locale, table.ruleSet? locale =
    table.ruleSets.find? fun ruleSet => locale ∈ ruleSet.locales

theorem compilesTo_of_compileEntries {locales : List String} {seen : List Category}
    {entries : List RuleEntry} {rules : List Rule}
    (h : (compileEntries locales seen entries).result = .ok rules) :
    List.Forall₂ CompilesTo (explicitEntries entries) rules := by
  induction entries generalizing seen rules with
  | nil =>
    cases h
    exact .nil
  | cons entry entries ih =>
    by_cases hother : entry.category = .other
    · simp only [compileEntries, hother, if_true, Build.result_bind, Build.result_emit] at h
      rw [explicitEntries_cons_of_other hother]
      exact ih h
    · rw [explicitEntries_cons_of_ne hother]
      by_cases hseen : entry.category ∈ seen
      · simp only [compileEntries, hother, hseen, if_true, if_false, Build.result_ofResult,
          reduceCtorEq] at h
      · simp only [compileEntries, hother, hseen, if_false, Build.result_bind,
          Build.result_ofResult] at h
        obtain ⟨condition, hcondition, h⟩ := ok_of_bind_eq_ok h
        obtain ⟨rest, hrest, h⟩ := ok_of_bind_eq_ok h
        cases h
        exact .cons ⟨rfl, ok_of_mapError_eq_ok hcondition⟩ (ih hrest)

theorem CompilesTo.unique {entry : RuleEntry} {rule other : Rule} (h : CompilesTo entry rule)
    (hother : CompilesTo entry other) : rule = other := by
  obtain ⟨category, condition⟩ := rule
  obtain ⟨category', condition'⟩ := other
  have hcategory : category = category' := h.category.trans hother.category.symm
  have hcondition : condition = condition' :=
    Except.ok.inj (h.condition.symm.trans hother.condition)
  rw [hcategory, hcondition]

theorem Compiled.unique {record : RuleRecord} {ruleSet other : RuleSet}
    (h : Compiled record ruleSet) (hother : Compiled record other) : ruleSet = other := by
  obtain ⟨locales, rules⟩ := ruleSet
  obtain ⟨locales', rules'⟩ := other
  have hlocales : locales = locales' := h.locales.trans hother.locales.symm
  have hunique : Relator.RightUnique CompilesTo := fun _ _ _ => CompilesTo.unique
  have hrules : rules = rules' := hunique.forall₂ h.rules hother.rules
  rw [hlocales, hrules]

theorem categoryFor_of_compilesTo {entries : List RuleEntry} {rules : List Rule}
    (h : List.Forall₂ CompilesTo entries rules) (x : Operand) :
    (rules.find? fun rule => rule.condition.holds x).map Rule.category =
      (entries.find? fun entry => entry.conditionHolds x).map RuleEntry.category := by
  induction h with
  | nil => rfl
  | @cons entry rule entries rules hentry _ ih =>
    have hholds : entry.conditionHolds x = rule.condition.holds x := by
      rw [RuleEntry.conditionHolds, hentry.condition]
    rw [List.find?_cons, List.find?_cons, hholds]
    cases rule.condition.holds x with
    | true => exact congrArg some hentry.category
    | false => exact ih

theorem RuleSet.categoryFor_eq (ruleSet : RuleSet) (x : Operand) :
    ruleSet.categoryFor x =
      ((ruleSet.rules.find? fun rule => rule.condition.holds x).map Rule.category).getD .other := by
  unfold categoryFor
  cases ruleSet.rules.find? fun rule => rule.condition.holds x <;> rfl

theorem RuleRecord.declaredCategory_eq (record : RuleRecord) (x : Operand) :
    record.declaredCategory x =
      (((explicitEntries record.rules).find? fun entry => entry.conditionHolds x).map
        RuleEntry.category).getD .other := by
  rw [explicitEntries, List.find?_filter]
  simp only [declaredCategory, RuleEntry.selects, decide_eq_true_eq]
  split <;> rename_i h <;> rw [h] <;> rfl

theorem Compiled.categoryFor_eq {record : RuleRecord} {ruleSet : RuleSet}
    (h : Compiled record ruleSet) (x : Operand) :
    ruleSet.categoryFor x = record.declaredCategory x := by
  rw [RuleSet.categoryFor_eq, RuleRecord.declaredCategory_eq, categoryFor_of_compilesTo h.rules]

theorem find?_ruleSets_eq_none {records : List RuleRecord} {ruleSets : List RuleSet}
    (h : List.Forall₂ Compiled records ruleSets) {locale : String}
    (hlocale : locale ∉ declaredLocales records) :
    (ruleSets.find? fun ruleSet => locale ∈ ruleSet.locales) = none := by
  induction h with
  | nil => rfl
  | @cons record ruleSet records ruleSets hrecord _ ih =>
    have hsplit : locale ∉ record.locales ∧ locale ∉ declaredLocales records := by
      rwa [declaredLocales, List.flatMap_cons, List.mem_append, not_or] at hlocale
    rw [List.find?_cons_of_neg (by simpa [hrecord.locales] using hsplit.1)]
    exact ih hsplit.2

theorem find?_ruleSets_eq_some {records : List RuleRecord} {ruleSets : List RuleSet}
    (h : List.Forall₂ Compiled records ruleSets) (hnodup : (declaredLocales records).Nodup)
    {record : RuleRecord} (hrecord : record ∈ records) {locale : String}
    (hlocale : locale ∈ record.locales) :
    ∃ ruleSet, (ruleSets.find? fun ruleSet => locale ∈ ruleSet.locales) = some ruleSet ∧
      Compiled record ruleSet := by
  induction h with
  | nil => cases hrecord
  | @cons head ruleSet records ruleSets hhead _ ih =>
    rw [declaredLocales, List.flatMap_cons] at hnodup
    rcases List.mem_cons.mp hrecord with rfl | hmem
    · refine ⟨ruleSet, List.find?_cons_of_pos ?_, hhead⟩
      simpa [hhead.locales] using hlocale
    -- The record comes later, and since no locale occurs twice, the head does not list this one.
    · have hnot : locale ∉ head.locales := fun hhead =>
        List.disjoint_of_nodup_append hnodup hhead (List.mem_flatMap_of_mem hmem hlocale)
      rw [List.find?_cons_of_neg (by simpa [hhead.locales] using hnot)]
      exact ih hnodup.of_append_right hmem

theorem Represents.add {records : List RuleRecord} {table : RuleTable} {record : RuleRecord}
    {ruleSet : RuleSet} (h : Represents records table) (hrecord : Compiled record ruleSet)
    (hnodup : (declaredLocales (records ++ [record])).Nodup) :
    Represents (records ++ [record]) (table.add ruleSet) where
  ruleSets := List.rel_append h.ruleSets (.cons hrecord .nil)
  ruleSet? locale := by
    rw [declaredLocales_snoc] at hnodup
    rw [RuleTable.ruleSet?_add, h.ruleSet? locale, RuleTable.add, List.find?_append]
    by_cases hlocale : locale ∈ ruleSet.locales
    -- The map finds the new rule set at once, the search only because no other one has the locale.
    · have hfresh : locale ∉ declaredLocales records := fun hdeclared =>
        List.disjoint_of_nodup_append hnodup hdeclared (hrecord.locales ▸ hlocale)
      simp [hlocale, find?_ruleSets_eq_none h.ruleSets hfresh]
    · simp [hlocale]

theorem represents_of_addRecords {index : Nat} {before records : List RuleRecord}
    {draft last : Draft} (hbefore : Represents before draft.table)
    (hnodup : (declaredLocales (before ++ records)).Nodup)
    (h : (addRecords index draft records).result = .ok last) :
    Represents (before ++ records) last.table := by
  induction records generalizing index before draft with
  | nil =>
    cases h
    rwa [List.append_nil]
  | cons record records ih =>
    rw [addRecords, Build.result_bind] at h
    obtain ⟨next, hnext, h⟩ := ok_of_bind_eq_ok h
    obtain ⟨rules, -, hrules, htable⟩ := addRecord_eq_ok hnext
    rw [List.append_cons] at hnodup ⊢
    have hfresh : (declaredLocales (before ++ [record])).Nodup := by
      rw [declaredLocales_append] at hnodup
      exact hnodup.of_append_left
    refine ih ?_ hnodup h
    rw [htable]
    exact hbefore.add ⟨rfl, compilesTo_of_compileEntries hrules⟩ hfresh

theorem represents_start : Represents [] Draft.start.table :=
  ⟨.nil, fun _ => rfl⟩

theorem not_mem_of_nodup_declaredLocales {before after : List RuleRecord} {record : RuleRecord}
    (hnodup : (declaredLocales (before ++ record :: after)).Nodup) {locale : String}
    (hlocale : locale ∈ record.locales) {other : RuleRecord} (hother : other ∈ before ++ after) :
    locale ∉ other.locales := by
  intro hmem
  rw [declaredLocales_append, declaredLocales, declaredLocales, List.flatMap_cons] at hnodup
  rcases List.mem_append.mp hother with hother | hother
  · exact List.disjoint_of_nodup_append hnodup (List.mem_flatMap_of_mem hother hmem)
      (List.mem_append_left _ hlocale)
  · exact List.disjoint_of_nodup_append hnodup.of_append_right hlocale
      (List.mem_flatMap_of_mem hother hmem)

namespace RuleTable

variable {records : List RuleRecord} {table : RuleTable}

theorem represents_of_build (h : build records = .ok table) : Represents records table := by
  have hnodup := ((exists_build_eq_ok_iff records).mp ⟨table, h⟩).nodup
  obtain ⟨draft, hdraft, rfl⟩ := build_eq_ok_iff.mp h
  exact represents_of_addRecords represents_start hnodup hdraft

/-- A built table answers from the one record that lists the locale. -/
theorem categoryFor_eq_declaredCategory (h : build records = .ok table) (locale : String)
    (x : Operand) :
    ((∀ record ∈ records, locale ∉ record.locales) →
      table.categoryFor locale x = .error ⟨locale, suggestions locale table.locales⟩) ∧
    ∀ before record after, records = before ++ record :: after → locale ∈ record.locales →
      (∀ other ∈ before ++ after, locale ∉ other.locales) ∧
        table.categoryFor locale x = .ok (record.declaredCategory x) := by
  have hnodup := ((exists_build_eq_ok_iff records).mp ⟨table, h⟩).nodup
  have hrepresents := represents_of_build h
  constructor
  · intro hunlisted
    have hlocale : locale ∉ declaredLocales records := by
      rw [declaredLocales, List.mem_flatMap]
      rintro ⟨record, hrecord, hlocale⟩
      exact hunlisted record hrecord hlocale
    rw [categoryFor, hrepresents.ruleSet?, find?_ruleSets_eq_none hrepresents.ruleSets hlocale]
  · rintro before record after rfl hlocale
    refine ⟨fun other => not_mem_of_nodup_declaredLocales hnodup hlocale, ?_⟩
    obtain ⟨ruleSet, hruleSet, hcompiled⟩ := find?_ruleSets_eq_some hrepresents.ruleSets hnodup
      (List.mem_append_right before List.mem_cons_self) hlocale
    rw [categoryFor, hrepresents.ruleSet?, hruleSet]
    exact congrArg Except.ok (hcompiled.categoryFor_eq x)

theorem categoryFor_eq_declaredCategory_alias :
    let german : RuleRecord := ⟨["de"], [⟨.one, "i = 1 and v = 0"⟩]⟩
    let slovenian : RuleRecord :=
      ⟨["sl", "wen"], [⟨.other, "%"⟩, ⟨.two, "n = 1..2 @integer 2"⟩, ⟨.one, "n = 1"⟩]⟩
    ∃ table, build [german, slovenian] = .ok table ∧
      table.categoryFor "wen" (Operand.ofInt 1) = .ok .two ∧
      table.categoryFor "wen" (Operand.ofInt 3) = .ok .other ∧
      table.categoryFor "root" (Operand.ofInt 1) =
        .error ⟨"root", suggestions "root" table.locales⟩ := by
  intro german slovenian
  have hisOk : (build [german, slovenian]).isOk = true := by decide +kernel
  cases hbuild : build [german, slovenian] with
  | error e =>
    rw [hbuild] at hisOk
    cases hisOk
  | ok table =>
    have hagrees := categoryFor_eq_declaredCategory hbuild
    refine ⟨table, rfl, ?_, ?_, (hagrees "root" (Operand.ofInt 1)).1 (by decide)⟩
    · rw [((hagrees "wen" (Operand.ofInt 1)).2 [german] slovenian [] rfl (by decide)).2]
      decide +kernel
    · rw [((hagrees "wen" (Operand.ofInt 3)).2 [german] slovenian [] rfl (by decide)).2]
      decide +kernel

end RuleTable

end PluralRules
