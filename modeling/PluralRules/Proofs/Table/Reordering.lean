import Mathlib.Data.List.Find
import Mathlib.Data.List.Perm.Basic
import PluralRules.Proofs.Table.Invariant

/-!
The order in which a record lists its rules. It decides only where several rules hold, so tables of
the same records with reordered rules agree wherever at most one rule does.
-/

namespace PluralRules

structure RuleGroup.Reorders (group other : RuleGroup) : Prop where
  locales : other.locales = group.locales
  rules : other.rules.Perm group.rules

structure RuleRecord.Reorders (record other : RuleRecord) : Prop where
  locales : other.locales = record.locales
  rules : other.rules.Perm record.rules

section

variable {α β ε : Type}

theorem find?_eq_of_perm {as bs : List α} {p : α → Bool} (h : as.Perm bs)
    (hle : (bs.filter p).length ≤ 1) : as.find? p = bs.find? p := by
  have hsubsingleton : {a ∈ bs | p a}.Subsingleton := by
    intro a ha b hb
    replace ha := List.mem_filter.mpr ha
    replace hb := List.mem_filter.mpr hb
    obtain ⟨c, hc⟩ := List.length_eq_one_iff.mp (hle.antisymm (List.length_pos_of_mem ha))
    rw [hc, List.mem_singleton] at ha hb
    rw [ha, hb]
  exact (List.find?_eq_find?_of_perm h.symm hsubsingleton).symm

theorem mapM_eq_ok_iff_forall₂ {f : α → Except ε β} {as : List α} {bs : List β} :
    as.mapM f = .ok bs ↔ List.Forall₂ (fun a b => f a = .ok b) as bs := by
  induction as generalizing bs with
  | nil =>
    constructor
    · intro h
      cases h
      exact .nil
    · intro h
      cases h
      rfl
  | cons a as ih =>
    rw [List.mapM_cons]
    constructor
    · intro h
      obtain ⟨b, hb, h⟩ := ok_of_bind_eq_ok h
      obtain ⟨others, hothers, h⟩ := ok_of_bind_eq_ok h
      cases h
      exact .cons hb (ih.mp hothers)
    · rintro (_ | ⟨hb, hothers⟩)
      rw [hb, ih.mpr hothers]
      rfl

end

structure Named (rule : String × String) (entry : RuleEntry) : Prop where
  category : Category.ofName rule.1 = .ok entry.category
  text : entry.text = rule.2

theorem RuleGroup.toRecord_eq_ok_iff {group : RuleGroup} {record : RuleRecord} :
    group.toRecord = .ok record ↔
      record.locales = group.locales ∧ List.Forall₂ Named group.rules record.rules := by
  constructor
  · intro h
    obtain ⟨entries, hentries, hok⟩ := ok_of_bind_eq_ok h
    cases hok
    refine ⟨rfl, (mapM_eq_ok_iff_forall₂.mp hentries).imp fun rule entry hentry => ?_⟩
    obtain ⟨category, hcategory, hok⟩ := ok_of_bind_eq_ok hentry
    cases hok
    exact ⟨hcategory, rfl⟩
  · rintro ⟨hlocales, hrules⟩
    have hread {rule : String × String} {entry : RuleEntry} (h : Named rule entry) :
        (Category.ofName rule.1 >>= fun category => pure ⟨category, rule.2⟩) =
          Except.ok entry := by
      rw [h.category, ← h.text]
      rfl
    have hentries := mapM_eq_ok_iff_forall₂.mpr (hrules.imp fun _ _ => hread)
    rw [toRecord, hentries, ← hlocales]
    rfl

theorem RuleGroup.Reorders.exists_toRecord {group other : RuleGroup} {record : RuleRecord}
    (h : group.Reorders other) (hrecord : group.toRecord = .ok record) :
    ∃ another, other.toRecord = .ok another ∧ record.Reorders another := by
  obtain ⟨hlocales, hrules⟩ := RuleGroup.toRecord_eq_ok_iff.mp hrecord
  obtain ⟨entries, hentries, hperm⟩ := List.perm_comp_forall₂ h.rules hrules
  refine ⟨⟨other.locales, entries⟩, RuleGroup.toRecord_eq_ok_iff.mpr ⟨rfl, hentries⟩, ?_, hperm⟩
  rw [h.locales, hlocales]

theorem exists_mapM_toRecord {groups others : List RuleGroup} {records : List RuleRecord}
    (h : List.Forall₂ RuleGroup.Reorders groups others)
    (hrecords : groups.mapM RuleGroup.toRecord = .ok records) :
    ∃ reordered, others.mapM RuleGroup.toRecord = .ok reordered ∧
      List.Forall₂ RuleRecord.Reorders records reordered := by
  simp only [mapM_eq_ok_iff_forall₂] at hrecords ⊢
  induction h generalizing records with
  | nil =>
    cases hrecords
    exact ⟨[], .nil, .nil⟩
  | cons hgroup _ ih =>
    obtain _ | ⟨hrecord, hrest⟩ := hrecords
    obtain ⟨another, hanother, hreorders⟩ := hgroup.exists_toRecord hrecord
    obtain ⟨rest, hothers, hall⟩ := ih hrest
    exact ⟨another :: rest, .cons hanother hothers, .cons hreorders hall⟩

theorem ValidEntries.of_perm {entries others : List RuleEntry} (h : ValidEntries entries)
    (hperm : others.Perm entries) : ValidEntries others := by
  have hexplicit : (explicitEntries others).Perm (explicitEntries entries) := hperm.filter _
  refine ⟨(hexplicit.map RuleEntry.category).nodup_iff.mpr h.nodup, fun entry hentry => ?_⟩
  exact h.parses entry (hexplicit.mem_iff.mp hentry)

theorem RuleRecord.Reorders.declaredCategory_eq {record other : RuleRecord}
    (h : record.Reorders other) {x : Operand}
    (hle : (record.rules.filter (·.selects x)).length ≤ 1) :
    other.declaredCategory x = record.declaredCategory x := by
  simp only [declaredCategory, find?_eq_of_perm h.rules hle]

section

variable {records reordered : List RuleRecord}

theorem declaredLocales_eq_of_reorders (h : List.Forall₂ RuleRecord.Reorders records reordered) :
    declaredLocales reordered = declaredLocales records := by
  induction h with
  | nil => rfl
  | cons hrecord _ ih =>
    rw [declaredLocales, declaredLocales, List.flatMap_cons, List.flatMap_cons, hrecord.locales]
    exact congrArg _ ih

theorem ValidRecords.of_reorders (h : ValidRecords records)
    (hreorders : List.Forall₂ RuleRecord.Reorders records reordered) : ValidRecords reordered where
  nonempty record hrecord := by
    obtain ⟨original, hmem, hsame⟩ := exists_of_mem_of_forall₂ hreorders hrecord
    rw [hsame.locales]
    exact h.nonempty original hmem
  nodup := by
    rw [declaredLocales_eq_of_reorders hreorders]
    exact h.nodup
  entries record hrecord := by
    obtain ⟨original, hmem, hsame⟩ := exists_of_mem_of_forall₂ hreorders hrecord
    exact (h.entries original hmem).of_perm hsame.rules

end

namespace RuleTable

variable {records reordered : List RuleRecord} {table other : RuleTable}

theorem exists_ruleSet?_of_mem (h : build records = .ok table) {record : RuleRecord}
    (hrecord : record ∈ records) {locale : String} (hlocale : locale ∈ record.locales) :
    ∃ ruleSet, table.ruleSet? locale = some ruleSet ∧ Compiled record ruleSet := by
  have hnodup := ((exists_build_eq_ok_iff records).mp ⟨table, h⟩).nodup
  have hrepresents := represents_of_build h
  rw [hrepresents.ruleSet?]
  exact find?_ruleSets_eq_some hrepresents.ruleSets hnodup hrecord hlocale

theorem categoryFor_of_mem (h : build records = .ok table) {record : RuleRecord}
    (hrecord : record ∈ records) {locale : String} (hlocale : locale ∈ record.locales)
    (x : Operand) : table.categoryFor locale x = .ok (record.declaredCategory x) := by
  obtain ⟨ruleSet, hruleSet, hcompiled⟩ := exists_ruleSet?_of_mem h hrecord hlocale
  rw [categoryFor, hruleSet]
  exact congrArg Except.ok (hcompiled.categoryFor_eq x)

theorem categoryFor_of_notMem (h : build records = .ok table) {locale : String}
    (hlocale : locale ∉ declaredLocales records) (x : Operand) :
    table.categoryFor locale x = .error ⟨locale, suggestions locale table.locales⟩ := by
  have hrepresents := represents_of_build h
  rw [categoryFor, hrepresents.ruleSet?, find?_ruleSets_eq_none hrepresents.ruleSets hlocale]

theorem locales_eq_of_perm (h : build records = .ok table) (hother : build reordered = .ok other)
    (hlocales : (declaredLocales reordered).Perm (declaredLocales records)) :
    other.locales = table.locales := by
  have hperm {records : List RuleRecord} {table : RuleTable} (h : build records = .ok table) :
      table.locales.Perm (declaredLocales records) := by
    rw [← flatMap_locales_of_compiled (represents_of_build h).ruleSets]
    exact (consistent_of_build h).locales_perm
  have hsame : other.locales.Perm table.locales :=
    (hperm hother).trans (hlocales.trans (hperm h).symm)
  exact hsame.eq_of_pairwise (fun _ _ _ _ hlt hgt => absurd hgt (String.lt_asymm hlt))
    other.byLocale.keys_pairwise table.byLocale.keys_pairwise

theorem categoryFor_eq_of_reorders (h : build records = .ok table)
    (hother : build reordered = .ok other)
    (hreorders : List.Forall₂ RuleRecord.Reorders records reordered) {x : Operand}
    (hle : ∀ record ∈ records, (record.rules.filter (·.selects x)).length ≤ 1) (locale : String) :
    other.categoryFor locale x = table.categoryFor locale x := by
  have hlocales := declaredLocales_eq_of_reorders hreorders
  by_cases hlocale : locale ∈ declaredLocales reordered
  · obtain ⟨record, hrecord, hlists⟩ := List.mem_flatMap.mp hlocale
    obtain ⟨original, horiginal, hsame⟩ := exists_of_mem_of_forall₂ hreorders hrecord
    rw [categoryFor_of_mem hother hrecord hlists,
      categoryFor_of_mem h horiginal (hsame.locales ▸ hlists),
      hsame.declaredCategory_eq (hle original horiginal)]
  · rw [categoryFor_of_notMem hother hlocale, categoryFor_of_notMem h (hlocales ▸ hlocale),
      locales_eq_of_perm h hother (.of_eq hlocales)]

end RuleTable

end PluralRules
