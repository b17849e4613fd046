import PluralRules.Proofs.Json.Fields
import PluralRules.Record.Json

/-!
Rule records survive their JSON form, in every layout and with fields that a record does not have.
The reader stops right behind the list and looks only at whether anything but spaces follows.
-/

namespace PluralRules

open Json

theorem takes_categoryName (category : Category) (after : List Char) :
    Takes categoryName (category.name.toList.flatMap JsonValue.escapeChar ++ '"' :: after) category
      after := by
  obtain ⟨_, hname⟩ := takes_iff.mp (takes_stringRest category.name after)
  rw [Takes, categoryName, hname]
  simp only [bind, Except.bind, Category.ofName_name]
  exact ⟨_, rfl, rfl, rfl⟩

theorem readsBack_category : ReadsBack category fun category => .string category.name := by
  intro category text h
  cases h
  refine ⟨opens_stringText _, fun {input after} hinput => ⟨after, ?_, rfl⟩⟩
  apply takes_skipping
  rw [hinput, stringText_append]
  exact (takes_categoryName category after).behind rfl

theorem readsBack_entry : ReadsBack entry RuleEntry.toJson := by
  intro rule text h
  have hpair : Reads (pairOf ⟨"struct RuleEntry", "category", "rule"⟩ category string) text
      (rule.category, rule.text) :=
    reads_pairOf (.cons (.first (readsBack_category _))
      (.cons (.second (by decide) (readsBack_string _)) .nil)) h
  exact hpair.map (fun pair => (⟨pair.1, pair.2⟩ : RuleEntry)) fun _ => rfl

theorem reads_record {fields : List (String × JsonValue)} {text : List Char}
    {locales : List String} {rules : List RuleEntry}
    (h : AddsAll ⟨"struct RuleRecord", "locales", "rules"⟩ (listOf string) (listOf entry)
      (none, none) fields (some locales, some rules))
    (hwritten : Written (.object fields) text) : Reads Json.record text ⟨locales, rules⟩ := by
  have hpair := reads_pairOf h hwritten
  exact hpair.map (fun pair => (⟨pair.1, pair.2⟩ : RuleRecord)) fun _ => rfl

theorem readsBack_record : ReadsBack record RuleRecord.toJson := by
  intro record text h
  apply reads_record _ h
  exact .cons (.first (readsBack_string.listOf _))
    (.cons (.second (by decide) (readsBack_entry.listOf _)) .nil)

theorem records_append {γ : Type} {write : γ → JsonValue} {value : γ → RuleRecord}
    (h : ∀ c text, Written (write c) text → Reads record text (value c)) {values : List γ}
    {text : List Char} (hwritten : Written (.array (values.map write)) text) {before : List Char}
    (hbefore : IsGap before) (after : List Char) :
    Json.records (before ++ (text ++ after)) =
      if (skipSpaces after).isEmpty then .ok (values.map value) else .error .grammar := by
  have hreads := reads_listOf h hwritten
  obtain ⟨rest, htakes, hrest⟩ := hreads.takes_gap hbefore after
  obtain ⟨_, htakes⟩ := takes_iff.mp htakes
  simp only [records, htakes, bind, Except.bind, hrest]

theorem isEmpty_skipSpaces_iff {text : List Char} :
    (skipSpaces text).isEmpty = true ↔ IsGap text := by
  rw [List.isEmpty_iff]
  exact List.dropWhile_eq_nil_iff

theorem records_eq_ok {γ : Type} {write : γ → JsonValue} {value : γ → RuleRecord}
    (h : ∀ c text, Written (write c) text → Reads record text (value c)) {values : List γ}
    {text : List Char} (hwritten : Written (.array (values.map write)) text) {after : List Char}
    (hafter : IsGap after) : Json.records (text ++ after) = .ok (values.map value) := by
  have hrecords := records_append h hwritten isGap_nil after
  rwa [if_pos (isEmpty_skipSpaces_iff.mpr hafter)] at hrecords

theorem readRecords_append {records : List RuleRecord} {text before : List Char}
    (hwritten : Written (recordsJson records) text) (hbefore : IsGap before) (after : List Char) :
    (IsGap after → readRecords (String.ofList (before ++ (text ++ after))) = .ok records) ∧
      (¬IsGap after →
        readRecords (String.ofList (before ++ (text ++ after))) = .error .grammar) := by
  have hrecords := records_append readsBack_record hwritten hbefore after
  rw [List.map_id'] at hrecords
  rw [readRecords, String.toList_ofList, hrecords]
  constructor
  · intro hafter
    rw [if_pos (isEmpty_skipSpaces_iff.mpr hafter)]
    rfl
  · intro hafter
    rw [if_neg (isEmpty_skipSpaces_iff.not.mpr hafter)]
    rfl

/-- Every list of records is read back from what is written for it, without blanks or indented, and
from every other layout; the reader stops right behind the list. -/
theorem readRecords_recordsJson (records : List RuleRecord) :
    readRecords (recordsJson records).text = .ok records ∧
    readRecords (recordsJson records).indentedText = .ok records ∧
    ∀ text, Written (recordsJson records) text → ∀ before after, IsGap before →
      (IsGap after → readRecords (String.ofList (before ++ (text ++ after))) = .ok records) ∧
      (¬IsGap after →
        readRecords (String.ofList (before ++ (text ++ after))) = .error .grammar) := by
  have hwritten {text : List Char} (h : Written (recordsJson records) text) :
      readRecords (String.ofList text) = .ok records := by
    have hread := (readRecords_append h isGap_nil []).1 isGap_nil
    rwa [List.append_nil] at hread
  exact ⟨hwritten (written_compact _), hwritten (written_indented 0 _),
    fun _ h _ after hbefore => readRecords_append h hbefore after⟩

theorem readRecords_recordsJson_escaped :
    let records : List RuleRecord := [
      ⟨["\"\\", "\u0001\n日"], [⟨.few, "n = 2 @integer\t2"⟩, ⟨.other, "\u007f/"⟩]⟩, ⟨[], []⟩]
    let text := (recordsJson records).indented 0
    Written (recordsJson records) text ∧ IsGap ['\r', '\n'] ∧ IsGap ['\t'] ∧
      readRecords (String.ofList (['\r', '\n'] ++ (text ++ ['\t']))) = .ok records ∧
      ¬IsGap ['\t', ','] ∧
      readRecords (String.ofList (['\r', '\n'] ++ (text ++ ['\t', ',']))) = .error .grammar := by
  intro records text
  have hwritten : Written (recordsJson records) text := written_indented 0 _
  have hbefore : IsGap ['\r', '\n'] := List.all_eq_true.mp rfl
  have hafter : IsGap ['\t'] := List.all_eq_true.mp rfl
  have hbehind : ¬IsGap ['\t', ','] := fun h => absurd (h ',' (by simp)) (by decide)
  obtain ⟨-, -, hread⟩ := readRecords_recordsJson records
  exact ⟨hwritten, hbefore, hafter, (hread text hwritten _ _ hbefore).1 hafter, hbehind,
    (hread text hwritten _ _ hbefore).2 hbehind⟩

end PluralRules
