import PluralRules.Proofs.Table.Outcome

/-!
Entries for `other` are inert. However many of them a record has, where and with which texts, the
same table is built or the build fails with the same error.
-/

namespace PluralRules

/-- The second list comes from the first if entries for `other` are put in and taken out. -/
inductive OtherEdits : List RuleEntry → List RuleEntry → Prop
  | nil : OtherEdits [] []
  | keep (entry : RuleEntry) {entries edited : List RuleEntry} : OtherEdits entries edited →
    OtherEdits (entry :: entries) (entry :: edited)
  | insert (text : String) {entries edited : List RuleEntry} : OtherEdits entries edited →
    OtherEdits entries (⟨.other, text⟩ :: edited)
  | delete (text : String) {entries edited : List RuleEntry} : OtherEdits entries edited →
    OtherEdits (⟨.other, text⟩ :: entries) edited

structure RuleRecord.OtherEdited (record edited : RuleRecord) : Prop where
  locales : edited.locales = record.locales
  rules : OtherEdits record.rules edited.rules

theorem compileEntries_cons_other (locales : List String) (seen : List Category) (text : String)
    (entries : List RuleEntry) :
    (compileEntries locales seen (⟨.other, text⟩ :: entries)).result =
      (compileEntries locales seen entries).result := by
  rw [compileEntries, if_pos rfl, Build.result_bind, Build.result_emit]
  rfl

theorem compileEntries_cons_congr {locales : List String} {entries edited : List RuleEntry}
    (h : ∀ seen, (compileEntries locales seen edited).result =
      (compileEntries locales seen entries).result) (entry : RuleEntry) (seen : List Category) :
    (compileEntries locales seen (entry :: edited)).result =
      (compileEntries locales seen (entry :: entries)).result := by
  by_cases hother : entry.category = .other
  · simp only [compileEntries, hother, if_true, Build.result_bind, h]
  · by_cases hseen : entry.category ∈ seen
    · simp only [compileEntries, hother, hseen, if_true, if_false]
    · simp only [compileEntries, hother, hseen, if_false, Build.result_bind, h]

theorem compileEntries_eq_of_otherEdits {entries edited : List RuleEntry}
    (h : OtherEdits entries edited) (locales : List String) (seen : List Category) :
    (compileEntries locales seen edited).result = (compileEntries locales seen entries).result := by
  induction h generalizing seen with
  | nil => rfl
  | keep entry _ ih => exact compileEntries_cons_congr ih entry seen
  | insert text _ ih => rw [compileEntries_cons_other, ih]
  | delete text _ ih => rw [compileEntries_cons_other, ih]

theorem RuleRecord.OtherEdited.addRecord_eq {record edited : RuleRecord}
    (h : record.OtherEdited edited) (index : ℕ) (draft : Draft) :
    (addRecord index draft edited).result = (addRecord index draft record).result := by
  rw [result_addRecord, result_addRecord, h.locales, compileEntries_eq_of_otherEdits h.rules]

section

variable {records edited : List RuleRecord}

theorem addRecords_eq_of_otherEdited (h : List.Forall₂ RuleRecord.OtherEdited records edited)
    (index : ℕ) (draft : Draft) :
    (addRecords index draft edited).result = (addRecords index draft records).result := by
  induction h generalizing index draft with
  | nil => rfl
  | cons hrecord _ ih =>
    rw [addRecords, addRecords, Build.result_bind, Build.result_bind, hrecord.addRecord_eq]
    exact bind_congr fun next => ih (index + 1) next

namespace RuleTable

/-- Entries for `other` have no part in the outcome: the same error, or the same table with all its
rule sets and answers. -/
theorem build_ignores_other (h : List.Forall₂ RuleRecord.OtherEdited records edited) :
    build edited = build records := by
  rw [build, build, result_loggedBuild, result_loggedBuild, addRecords_eq_of_otherEdited h]

theorem build_ignores_other_before_fault :
    let english : RuleRecord := ⟨["en"], [⟨.one, "n = 1"⟩, ⟨.other, "%"⟩]⟩
    let edited : RuleRecord := ⟨["en"], [⟨.other, ""⟩, ⟨.other, "n = 1"⟩, ⟨.one, "n = 1"⟩]⟩
    let german : RuleRecord := ⟨["de"], [⟨.one, "n = 1"⟩, ⟨.one, "n = 2"⟩]⟩
    let spaced : RuleRecord := ⟨["de"], [⟨.one, "n = 1"⟩, ⟨.other, "%"⟩, ⟨.one, "n = 2"⟩]⟩
    build [edited] = build [english] ∧ (build [edited]).isOk = true ∧
      build [edited, spaced] = build [english, german] ∧
      build [edited, spaced] = .error (.duplicateCategory "de" .one) := by
  intro english edited german spaced
  have henglish : english.OtherEdited edited :=
    ⟨rfl, .insert _ (.insert _ (.keep _ (.delete _ .nil)))⟩
  have hgerman : german.OtherEdited spaced := ⟨rfl, .keep _ (.insert _ (.keep _ .nil))⟩
  exact ⟨build_ignores_other (.cons henglish .nil), by decide +kernel,
    build_ignores_other (.cons henglish (.cons hgerman .nil)), by decide +kernel⟩

end RuleTable

end

end PluralRules
