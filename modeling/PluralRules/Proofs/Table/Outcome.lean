import PluralRules.Proofs.FirstFault
import PluralRules.Proofs.Table.Validity

/-!
Building succeeds on the valid lists of records, and reports the first violation of any other. The
loops over locales, over entries and over records each stop at the first fault.
-/

namespace PluralRules

def Claims (records : List RuleRecord) (owners : Owners) : Prop :=
  ∀ locale, owners.lookup locale = owner? records locale

def LocaleFault (before : List RuleRecord) (claimed : List String) (locale : String)
    (error : BuildError) : Prop :=
  ∃ first, owner? (before ++ [⟨claimed, []⟩]) locale = some first ∧
    error = .duplicateLocale locale first before.length

theorem forall_not_localeFault_iff {before : List RuleRecord} {claimed : List String}
    {locale : String} :
    (∀ e, ¬LocaleFault before claimed locale e) ↔ locale ∉ declaredLocales before ++ claimed := by
  rw [← declaredLocales_snoc before ⟨claimed, []⟩, ← owner?_eq_none_iff,
    Option.eq_none_iff_forall_ne_some]
  constructor
  · intro h first hfirst
    exact h _ ⟨first, hfirst, rfl⟩
  · rintro h e ⟨first, hfirst, -⟩
    exact h first hfirst

theorem claims_snoc {before : List RuleRecord} {claimed : List String} {owners : Owners}
    {locale : String} (h : Claims (before ++ [⟨claimed, []⟩]) owners)
    (hlocale : owners.lookup locale = none) :
    Claims (before ++ [⟨claimed ++ [locale], []⟩]) ((locale, before.length) :: owners) := by
  intro other
  rw [LocaleMap.lookup_cons_eq_ite, h other, owner?_snoc, owner?_snoc]
  -- Only the new locale gets another owner, and so far it had none.
  by_cases hother : other = locale
  · subst other
    rw [h locale, owner?_snoc, Option.or_eq_none_iff] at hlocale
    simp [hlocale.1]
  · simp [hother]

theorem claimLoop (before : List RuleRecord) :
    FaultLoop (claimLocales before.length)
      (fun claimed => (declaredLocales before ++ claimed).Nodup) (LocaleFault before)
      (fun claimed owners => Claims (before ++ [⟨claimed, []⟩]) owners) where
  nil owners := ⟨owners, rfl⟩
  good_snoc claimed locale := by
    rw [forall_not_localeFault_iff, ← List.append_assoc, List.nodup_append_comm,
      List.singleton_append, List.nodup_cons, and_comm]
  stop := by
    rintro claimed owners locale locales e hclaims - ⟨first, hfirst, rfl⟩
    simp only [claimLocales, hclaims locale, hfirst]
  step := by
    intro claimed owners locale hclaims _ hnone
    have hlocale : owners.lookup locale = none := by
      rw [hclaims locale, owner?_eq_none_iff, declaredLocales_snoc]
      exact forall_not_localeFault_iff.mp hnone
    refine ⟨_, claims_snoc hclaims hlocale, fun locales e => ?_⟩
    simp only [claimLocales, hlocale]

theorem claims_of_claimLocales {before : List RuleRecord} {claimed locales : List String}
    {owners owners' : Owners} (hclaims : Claims (before ++ [⟨claimed, []⟩]) owners)
    (h : claimLocales before.length owners locales = .ok owners') :
    Claims (before ++ [⟨claimed ++ locales, []⟩]) owners' := by
  induction locales generalizing claimed owners with
  | nil =>
    cases h
    rwa [List.append_nil]
  | cons locale locales ih =>
    cases hlocale : owners.lookup locale with
    | some first => simp only [claimLocales, hlocale, reduceCtorEq] at h
    | none =>
      simp only [claimLocales, hlocale] at h
      rw [List.append_cons claimed]
      exact ih (claims_snoc hclaims hlocale) h

theorem claims_snoc_nil {before : List RuleRecord} {owners : Owners} (h : Claims before owners) :
    Claims (before ++ [⟨[], []⟩]) owners := by
  intro locale
  simp [owner?_snoc, h locale]

theorem claims_snoc_congr {before : List RuleRecord} {record other : RuleRecord} {owners : Owners}
    (h : Claims (before ++ [record]) owners) (hlocales : record.locales = other.locales) :
    Claims (before ++ [other]) owners := by
  intro locale
  rw [h locale, owner?_snoc, owner?_snoc, hlocales]

theorem owner?_snoc_of_mem {before : List RuleRecord} {record : RuleRecord} {claimed : List String}
    {locale : String} (hsub : claimed ⊆ record.locales)
    (h : locale ∈ declaredLocales before ++ claimed) :
    owner? (before ++ [record]) locale = owner? (before ++ [⟨claimed, []⟩]) locale := by
  rw [owner?_snoc, owner?_snoc]
  rcases List.mem_append.mp h with h | h
  -- An earlier record owns the locale, whatever the last record lists.
  · have howned : owner? before locale ≠ none := fun hnone => owner?_eq_none_iff.mp hnone h
    obtain ⟨first, hfirst⟩ := Option.ne_none_iff_exists'.mp howned
    rw [hfirst, Option.some_or, Option.some_or]
  · rw [if_pos (hsub h), if_pos h]

theorem localeFault_iff {before : List RuleRecord} {record : RuleRecord} {claimed : List String}
    {locale : String} {e : BuildError} (hsub : claimed ⊆ record.locales) :
    LocaleFault before claimed locale e ↔
      locale ∈ declaredLocales before ++ claimed ∧
        ∃ first, owner? (before ++ [record]) locale = some first ∧
          e = .duplicateLocale locale first before.length := by
  constructor
  · rintro ⟨first, hfirst, rfl⟩
    have hmem : locale ∈ declaredLocales before ++ claimed := by
      rw [← declaredLocales_snoc before ⟨claimed, []⟩]
      by_contra hmem
      rw [owner?_eq_none_iff.mpr hmem] at hfirst
      cases hfirst
    exact ⟨hmem, first, by rwa [owner?_snoc_of_mem hsub hmem], rfl⟩
  · rintro ⟨hmem, first, hfirst, rfl⟩
    exact ⟨first, by rwa [← owner?_snoc_of_mem hsub hmem], rfl⟩

theorem forall_not_entryFault_iff {locales : List String} {checked : List RuleEntry}
    {entry : RuleEntry} :
    (∀ e, ¬EntryFault locales checked entry e) ↔
      entry.category = .other ∨ entry.category ∉ declaredCategories checked ∧
        ∃ condition, Condition.ofText entry.text = .ok condition := by
  constructor
  · intro hnone
    by_cases hother : entry.category = .other
    · exact .inl hother
    · have hfresh : entry.category ∉ declaredCategories checked := fun hdeclared =>
        hnone _ (.duplicateCategory hdeclared)
      refine .inr ⟨hfresh, exists_eq_ok_iff.mpr fun error herror => ?_⟩
      exact hnone _ (.ruleCompilation hother hfresh herror
        (Condition.rule_of_ofText_eq_error herror))
  · rintro h e (hdeclared | ⟨hother, hfresh, hparse, -⟩)
    · rcases h with hother | ⟨hfresh, -⟩
      · exact ne_other_of_mem_declaredCategories hdeclared hother
      · exact hfresh hdeclared
    · rcases h with h | ⟨-, condition, hcondition⟩
      · exact hother h
      · rw [hcondition] at hparse
        cases hparse

def Sees (checked : List RuleEntry) (seen : List Category) : Prop :=
  ∀ category, category ∈ seen ↔ category ∈ declaredCategories checked

theorem sees_nil : Sees [] [] := fun _ => Iff.rfl

theorem sees_snoc_of_other {checked : List RuleEntry} {seen : List Category} {entry : RuleEntry}
    (h : Sees checked seen) (hother : entry.category = .other) :
    Sees (checked ++ [entry]) seen := by
  intro category
  rw [h category, declaredCategories_snoc_of_other hother]

theorem sees_snoc_of_ne {checked : List RuleEntry} {seen : List Category} {entry : RuleEntry}
    (h : Sees checked seen) (hother : entry.category ≠ .other) :
    Sees (checked ++ [entry]) (entry.category :: seen) := by
  intro category
  rw [declaredCategories_snoc_of_ne hother, List.mem_cons, h category, List.mem_append,
    List.mem_singleton, or_comm]

theorem entryLoop (locales : List String) :
    FaultLoop (fun seen entries => (compileEntries locales seen entries).result) ValidEntries
      (EntryFault locales) Sees where
  nil seen := ⟨[], rfl⟩
  good_snoc checked entry := by rw [validEntries_snoc_iff, forall_not_entryFault_iff]
  stop := by
    rintro checked seen entry entries e hsees - (hdeclared | ⟨hother, hfresh, hparse, -⟩)
    · have hother := ne_other_of_mem_declaredCategories hdeclared
      simp only [compileEntries, hother, (hsees _).mpr hdeclared, if_true, if_false,
        Build.result_ofResult]
    · simp only [compileEntries, hother, mt (hsees _).mp hfresh, if_false, Build.result_bind,
        Build.result_ofResult, hparse]
      rfl
  step := by
    intro checked seen entry hsees _ hnone
    by_cases hother : entry.category = .other
    · refine ⟨seen, sees_snoc_of_other hsees hother, fun entries e => ?_⟩
      simp only [compileEntries, hother, if_true, Build.result_bind, Build.result_emit]
      rfl
    · obtain ⟨hfresh, condition, hparse⟩ :=
        (forall_not_entryFault_iff.mp hnone).resolve_left hother
      refine ⟨entry.category :: seen, sees_snoc_of_ne hsees hother, fun entries e => ?_⟩
      simp only [compileEntries, hother, mt (hsees _).mp hfresh, if_false, Build.result_bind,
        Build.result_ofResult, hparse]
      cases (compileEntries locales (entry.category :: seen) entries).result with
      | error e' => exact Iff.rfl
      | ok rules => exact ⟨nofun, nofun⟩

theorem result_addRecord (index : Nat) (draft : Draft) (record : RuleRecord) :
    (addRecord index draft record).result =
      if record.locales = [] then .error (.emptyLocales index)
      else
        claimLocales index draft.owners record.locales >>= fun owners =>
        (compileEntries record.locales [] record.rules).result >>= fun rules =>
        .ok ⟨owners, draft.table.add ⟨record.locales, rules⟩⟩ := by
  unfold addRecord compileRecord
  split
  · rename_i h
    rw [if_pos (List.isEmpty_iff.mp h)]
    rfl
  · rename_i h
    rw [if_neg (mt List.isEmpty_iff.mpr h)]
    simp only [Build.result_bind, Build.result_ofResult, bind_assoc]
    rfl

theorem addRecord_eq_ok {index : Nat} {draft next : Draft} {record : RuleRecord}
    (h : (addRecord index draft record).result = .ok next) :
    ∃ rules, claimLocales index draft.owners record.locales = .ok next.owners ∧
      (compileEntries record.locales [] record.rules).result = .ok rules ∧
      next.table = draft.table.add ⟨record.locales, rules⟩ := by
  rw [result_addRecord] at h
  split at h
  · cases h
  · obtain ⟨owners, howners, h⟩ := ok_of_bind_eq_ok h
    obtain ⟨rules, hrules, h⟩ := ok_of_bind_eq_ok h
    cases h
    exact ⟨rules, howners, hrules, rfl⟩

theorem claimLocales_eq_error_iff {before : List RuleRecord} {record : RuleRecord}
    {owners : Owners} (hclaims : Claims before owners) (hnodup : (declaredLocales before).Nodup)
    {e : BuildError} :
    claimLocales before.length owners record.locales = .error e ↔
      ∃ claimed locale rest, record.locales = claimed ++ locale :: rest ∧
        (declaredLocales before ++ claimed).Nodup ∧ locale ∈ declaredLocales before ++ claimed ∧
        ∃ first, owner? (before ++ [record]) locale = some first ∧
          e = .duplicateLocale locale first before.length := by
  have hnil : (declaredLocales before ++ []).Nodup := by rwa [List.append_nil]
  rw [(claimLoop before).run_eq_error_iff (claims_snoc_nil hclaims) hnil record.locales e]
  refine exists_congr fun claimed => exists_congr fun locale => exists_congr fun rest =>
    and_congr_right fun hsplit => and_congr_right fun _ => ?_
  have hsub : claimed ⊆ record.locales := hsplit ▸ List.subset_append_left ..
  exact localeFault_iff hsub

theorem claimLocales_eq_ok_iff {before : List RuleRecord} {locales : List String}
    {owners : Owners} (hclaims : Claims before owners) (hnodup : (declaredLocales before).Nodup) :
    (∃ owners', claimLocales before.length owners locales = .ok owners') ↔
      (declaredLocales before ++ locales).Nodup := by
  have hnil : (declaredLocales before ++ []).Nodup := by rwa [List.append_nil]
  exact (claimLoop before).run_eq_ok_iff (claims_snoc_nil hclaims) hnil locales

theorem compileEntries_eq_error_iff {locales : List String} {entries : List RuleEntry}
    {e : BuildError} :
    (compileEntries locales [] entries).result = .error e ↔
      ∃ checked entry rest, entries = checked ++ entry :: rest ∧ ValidEntries checked ∧
        EntryFault locales checked entry e :=
  (entryLoop locales).run_eq_error_iff sees_nil validEntries_nil entries e

theorem addRecord_eq_error_iff {before : List RuleRecord} {record : RuleRecord} {draft : Draft}
    (hclaims : Claims before draft.owners) (hnodup : (declaredLocales before).Nodup)
    {e : BuildError} :
    (addRecord before.length draft record).result = .error e ↔ Violation before record e := by
  rw [result_addRecord]
  split
  · rename_i hempty
    constructor
    · intro h
      cases h
      exact .emptyLocales hempty
    · rintro (_ | ⟨hsplit, -, -, -⟩ | ⟨hne, -, -, -, -⟩)
      · rfl
      · simp [hempty] at hsplit
      · exact absurd hempty hne
  · rename_i hne
    constructor
    · intro h
      -- The entries are looked at only once all locales are claimed.
      rcases bind_eq_error_iff.mp h with h | ⟨owners, howners, h⟩
      · obtain ⟨claimed, locale, rest, hsplit, hfresh, hdeclared, first, hfirst, rfl⟩ :=
          (claimLocales_eq_error_iff hclaims hnodup).mp h
        exact .duplicateLocale hsplit hfresh hdeclared hfirst
      · have hfresh := (claimLocales_eq_ok_iff hclaims hnodup).mp ⟨owners, howners⟩
        rcases bind_eq_error_iff.mp h with h | ⟨rules, -, h⟩
        · obtain ⟨checked, entry, rest, hsplit, hvalid, hfault⟩ := compileEntries_eq_error_iff.mp h
          exact .entry hne hfresh hsplit hvalid hfault
        · cases h
    · rintro (hempty | ⟨hsplit, hfresh, hdeclared, hfirst⟩ | ⟨-, hfresh, hsplit, hvalid, hfault⟩)
      · exact absurd hempty hne
      · have hlocale := (claimLocales_eq_error_iff hclaims hnodup).mpr
          ⟨_, _, _, hsplit, hfresh, hdeclared, _, hfirst, rfl⟩
        exact bind_eq_error_iff.mpr (.inl hlocale)
      · obtain ⟨owners, howners⟩ := (claimLocales_eq_ok_iff hclaims hnodup).mpr hfresh
        have hentry := compileEntries_eq_error_iff.mpr ⟨_, _, _, hsplit, hvalid, hfault⟩
        refine bind_eq_error_iff.mpr (.inr ⟨owners, howners, ?_⟩)
        exact bind_eq_error_iff.mpr (.inl hentry)

theorem claims_of_addRecord {before : List RuleRecord} {record : RuleRecord} {draft next : Draft}
    (hclaims : Claims before draft.owners)
    (h : (addRecord before.length draft record).result = .ok next) :
    Claims (before ++ [record]) next.owners := by
  obtain ⟨rules, howners, -, -⟩ := addRecord_eq_ok h
  have hlocales : Claims (before ++ [⟨record.locales, []⟩]) next.owners :=
    claims_of_claimLocales (claims_snoc_nil hclaims) howners
  exact claims_snoc_congr hlocales rfl

theorem validRecords_snoc_iff {before : List RuleRecord} {record : RuleRecord} :
    ValidRecords (before ++ [record]) ↔
      ValidRecords before ∧ ∀ e, ¬Violation before record e := by
  constructor
  · rintro ⟨hne, hnodup, hentries⟩
    rw [declaredLocales_snoc] at hnodup
    rw [List.forall_mem_append, List.forall_mem_singleton] at hne hentries
    refine ⟨⟨hne.1, hnodup.of_append_left, hentries.1⟩, ?_⟩
    rintro e (hempty | ⟨hsplit, -, hdeclared, -⟩ | ⟨-, -, hsplit, -, hfault⟩)
    · exact hne.2 hempty
    · rw [hsplit, ← List.append_assoc] at hnodup
      exact List.disjoint_of_nodup_append hnodup hdeclared List.mem_cons_self
    · exact (entryLoop record.locales).not_fault_of_append (hsplit ▸ hentries.2) _ hfault
  · rintro ⟨⟨hne, hnodup, hentries⟩, hnone⟩
    have hlocales : record.locales ≠ [] := fun hempty => hnone _ (.emptyLocales hempty)
    have hfresh : (declaredLocales before ++ record.locales).Nodup := by
      refine ((claimLoop before).good_append_iff (by rwa [List.append_nil]) record.locales).mpr ?_
      intro claimed locale rest e hsplit hclaimed hfault
      have hsub : claimed ⊆ record.locales := hsplit ▸ List.subset_append_left ..
      obtain ⟨hdeclared, first, hfirst, rfl⟩ := (localeFault_iff hsub).mp hfault
      exact hnone _ (.duplicateLocale hsplit hclaimed hdeclared hfirst)
    have hrules : ValidEntries record.rules := by
      refine ((entryLoop record.locales).good_append_iff validEntries_nil record.rules).mpr ?_
      intro checked entry rest e hsplit hvalid hfault
      exact hnone _ (.entry hlocales hfresh hsplit hvalid hfault)
    refine ⟨?_, by rwa [declaredLocales_snoc], ?_⟩
    · rw [List.forall_mem_append, List.forall_mem_singleton]
      exact ⟨hne, hlocales⟩
    · rw [List.forall_mem_append, List.forall_mem_singleton]
      exact ⟨hentries, hrules⟩

def Awaits (before : List RuleRecord) (state : Nat × Draft) : Prop :=
  state.1 = before.length ∧ Claims before state.2.owners

theorem awaits_start : Awaits [] (0, .start) :=
  ⟨rfl, fun _ => rfl⟩

theorem recordLoop :
    FaultLoop (fun (state : Nat × Draft) records => (addRecords state.1 state.2 records).result)
      ValidRecords Violation Awaits where
  nil state := ⟨state.2, rfl⟩
  good_snoc before record := validRecords_snoc_iff
  stop := by
    rintro before ⟨_, draft⟩ record records e ⟨rfl, hclaims⟩ hvalid hviolation
    have hrecord := (addRecord_eq_error_iff hclaims hvalid.nodup).mpr hviolation
    simp only [addRecords, Build.result_bind, hrecord]
    rfl
  step := by
    rintro before ⟨_, draft⟩ record ⟨rfl, hclaims⟩ hvalid hnone
    obtain ⟨next, hnext⟩ := exists_eq_ok_iff.mpr fun e he =>
      hnone e ((addRecord_eq_error_iff hclaims hvalid.nodup).mp he)
    refine ⟨(before.length + 1, next), ⟨by simp, claims_of_addRecord hclaims hnext⟩, ?_⟩
    intro records e
    simp only [addRecords, Build.result_bind, hnext]
    rfl

namespace RuleTable

theorem result_loggedBuild (records : List RuleRecord) :
    (loggedBuild records).result =
      (addRecords 0 .start records).result >>= fun draft => .ok draft.table := by
  simp only [loggedBuild, Build.result_bind]
  rfl

theorem build_eq_ok_iff {records : List RuleRecord} {table : RuleTable} :
    build records = .ok table ↔
      ∃ draft, (addRecords 0 .start records).result = .ok draft ∧ draft.table = table := by
  rw [build, result_loggedBuild]
  constructor
  · intro h
    obtain ⟨draft, hdraft, h⟩ := ok_of_bind_eq_ok h
    exact ⟨draft, hdraft, Except.ok.inj h⟩
  · rintro ⟨draft, hdraft, rfl⟩
    rw [hdraft]
    rfl

theorem exists_build_eq_ok_iff (records : List RuleRecord) :
    (∃ table, build records = .ok table) ↔ ValidRecords records := by
  have hok := recordLoop.run_eq_ok_iff awaits_start validRecords_nil records
  constructor
  · rintro ⟨table, htable⟩
    obtain ⟨draft, hdraft, -⟩ := build_eq_ok_iff.mp htable
    exact hok.mp ⟨draft, hdraft⟩
  · intro hvalid
    obtain ⟨draft, hdraft⟩ := hok.mpr hvalid
    exact ⟨draft.table, build_eq_ok_iff.mpr ⟨draft, hdraft, rfl⟩⟩

end RuleTable

end PluralRules
