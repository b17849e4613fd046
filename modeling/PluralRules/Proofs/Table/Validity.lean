import Mathlib.Data.List.Nodup
import PluralRules.Table.Build

/-!
What a list of records must keep to for a table to be built from it, and the ways in which a record
can be the first not to. Entries for `other` keep to everything.
-/

namespace PluralRules

def explicitEntries (entries : List RuleEntry) : List RuleEntry :=
  entries.filter fun entry => entry.category ≠ .other

def declaredCategories (entries : List RuleEntry) : List Category :=
  (explicitEntries entries).map RuleEntry.category

structure ValidEntries (entries : List RuleEntry) : Prop where
  nodup : (declaredCategories entries).Nodup
  parses : ∀ entry ∈ explicitEntries entries,
    ∃ condition, Condition.ofText entry.text = .ok condition

/-- The error for an entry behind other entries. -/
inductive EntryFault (locales : List String) (checked : List RuleEntry) (entry : RuleEntry) :
    BuildError → Prop
  | duplicateCategory (declared : entry.category ∈ declaredCategories checked) :
      EntryFault locales checked entry (.duplicateCategory (localeList locales) entry.category)
  | ruleCompilation {error : RuleError} (explicit : entry.category ≠ .other)
      (fresh : entry.category ∉ declaredCategories checked)
      (parse : Condition.ofText entry.text = .error error) (verbatim : error.rule = entry.text) :
      EntryFault locales checked entry
        (.ruleCompilation (localeList locales) entry.category entry.text error)

def declaredLocales (records : List RuleRecord) : List String :=
  records.flatMap RuleRecord.locales

def owner? (records : List RuleRecord) (locale : String) : Option Nat :=
  records.findIdx? fun record => locale ∈ record.locales

structure ValidRecords (records : List RuleRecord) : Prop where
  nonempty : ∀ record ∈ records, record.locales ≠ []
  nodup : (declaredLocales records).Nodup
  entries : ∀ record ∈ records, ValidEntries record.rules

/-- The error for a record behind other records. Its locales come before its entries, and of either
the first at fault decides. -/
inductive Violation (before : List RuleRecord) (record : RuleRecord) : BuildError → Prop
  | emptyLocales (empty : record.locales = []) :
      Violation before record (.emptyLocales before.length)
  | duplicateLocale {claimed rest : List String} {locale : String} {first : Nat}
      (split : record.locales = claimed ++ locale :: rest)
      (fresh : (declaredLocales before ++ claimed).Nodup)
      (declared : locale ∈ declaredLocales before ++ claimed)
      (owner : owner? (before ++ [record]) locale = some first) :
      Violation before record (.duplicateLocale locale first before.length)
  | entry {checked rest : List RuleEntry} {entry : RuleEntry} {error : BuildError}
      (nonempty : record.locales ≠ []) (fresh : (declaredLocales before ++ record.locales).Nodup)
      (split : record.rules = checked ++ entry :: rest) (valid : ValidEntries checked)
      (fault : EntryFault record.locales checked entry error) : Violation before record error

theorem explicitEntries_cons_of_other {entry : RuleEntry} (h : entry.category = .other)
    (entries : List RuleEntry) : explicitEntries (entry :: entries) = explicitEntries entries :=
  List.filter_cons_of_neg (by simp [h])

theorem explicitEntries_cons_of_ne {entry : RuleEntry} (h : entry.category ≠ .other)
    (entries : List RuleEntry) :
    explicitEntries (entry :: entries) = entry :: explicitEntries entries :=
  List.filter_cons_of_pos (by simp [h])

theorem explicitEntries_snoc_of_other {entry : RuleEntry} (h : entry.category = .other)
    (entries : List RuleEntry) :
    explicitEntries (entries ++ [entry]) = explicitEntries entries := by
  rw [explicitEntries, List.filter_append, List.filter_cons_of_neg (by simp [h]), List.filter_nil,
    List.append_nil, explicitEntries]

theorem explicitEntries_snoc_of_ne {entry : RuleEntry} (h : entry.category ≠ .other)
    (entries : List RuleEntry) :
    explicitEntries (entries ++ [entry]) = explicitEntries entries ++ [entry] := by
  rw [explicitEntries, List.filter_append, List.filter_cons_of_pos (by simp [h]), List.filter_nil,
    explicitEntries]

theorem declaredCategories_snoc_of_other {entry : RuleEntry} (h : entry.category = .other)
    (entries : List RuleEntry) :
    declaredCategories (entries ++ [entry]) = declaredCategories entries := by
  rw [declaredCategories, explicitEntries_snoc_of_other h, declaredCategories]

theorem declaredCategories_snoc_of_ne {entry : RuleEntry} (h : entry.category ≠ .other)
    (entries : List RuleEntry) :
    declaredCategories (entries ++ [entry]) = declaredCategories entries ++ [entry.category] := by
  rw [declaredCategories, explicitEntries_snoc_of_ne h, List.map_append, List.map_singleton,
    declaredCategories]

theorem ne_other_of_mem_declaredCategories {category : Category} {entries : List RuleEntry}
    (h : category ∈ declaredCategories entries) : category ≠ .other := by
  obtain ⟨entry, hentry, rfl⟩ := List.mem_map.mp h
  exact of_decide_eq_true (List.mem_filter.mp hentry).2

theorem validEntries_nil : ValidEntries [] :=
  ⟨List.nodup_nil, nofun⟩

theorem validEntries_snoc_iff {checked : List RuleEntry} {entry : RuleEntry} :
    ValidEntries (checked ++ [entry]) ↔
      ValidEntries checked ∧ (entry.category = .other ∨
        entry.category ∉ declaredCategories checked ∧
          ∃ condition, Condition.ofText entry.text = .ok condition) := by
  by_cases hother : entry.category = .other
  · constructor
    · rintro ⟨hnodup, hparses⟩
      rw [declaredCategories_snoc_of_other hother] at hnodup
      rw [explicitEntries_snoc_of_other hother] at hparses
      exact ⟨⟨hnodup, hparses⟩, .inl hother⟩
    · rintro ⟨⟨hnodup, hparses⟩, -⟩
      exact ⟨by rwa [declaredCategories_snoc_of_other hother],
        by rwa [explicitEntries_snoc_of_other hother]⟩
  · have hnodup_iff : (declaredCategories (checked ++ [entry])).Nodup ↔
        entry.category ∉ declaredCategories checked ∧ (declaredCategories checked).Nodup := by
      rw [declaredCategories_snoc_of_ne hother, List.nodup_append_comm, List.singleton_append,
        List.nodup_cons]
    constructor
    · rintro ⟨hnodup, hparses⟩
      obtain ⟨hfresh, hnodup⟩ := hnodup_iff.mp hnodup
      rw [explicitEntries_snoc_of_ne hother, List.forall_mem_append] at hparses
      obtain ⟨hchecked, hentry⟩ := hparses
      exact ⟨⟨hnodup, hchecked⟩, .inr ⟨hfresh, hentry entry List.mem_cons_self⟩⟩
    · rintro ⟨⟨hnodup, hparses⟩, h | ⟨hfresh, hentry⟩⟩
      · exact absurd h hother
      · refine ⟨hnodup_iff.mpr ⟨hfresh, hnodup⟩, ?_⟩
        rw [explicitEntries_snoc_of_ne hother, List.forall_mem_append, List.forall_mem_singleton]
        exact ⟨hparses, hentry⟩

theorem declaredLocales_append (records more : List RuleRecord) :
    declaredLocales (records ++ more) = declaredLocales records ++ declaredLocales more :=
  List.flatMap_append

theorem declaredLocales_snoc (records : List RuleRecord) (record : RuleRecord) :
    declaredLocales (records ++ [record]) = declaredLocales records ++ record.locales := by
  rw [declaredLocales_append]
  exact congrArg _ (List.flatMap_singleton ..)

theorem owner?_eq_none_iff {records : List RuleRecord} {locale : String} :
    owner? records locale = none ↔ locale ∉ declaredLocales records := by
  simp [owner?, declaredLocales, List.findIdx?_eq_none_iff]

theorem owner?_snoc (records : List RuleRecord) (record : RuleRecord) (locale : String) :
    owner? (records ++ [record]) locale =
      (owner? records locale).or
        (if locale ∈ record.locales then some records.length else none) := by
  by_cases h : locale ∈ record.locales <;> simp [owner?, List.findIdx?_append, h]

theorem validRecords_nil : ValidRecords [] :=
  ⟨nofun, List.nodup_nil, nofun⟩

end PluralRules
