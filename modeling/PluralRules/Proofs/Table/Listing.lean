import PluralRules.Command.Locales
import PluralRules.Proofs.Record.Readback
import PluralRules.Proofs.Table.Invariant

/-!
The JSON listing of a table is a rule file of the same table. Each rule set is listed as a record
whose texts are canonical, and its list of categories is passed over when the record is read.
-/

namespace PluralRules

open Json

def Rule.toEntry (rule : Rule) : RuleEntry :=
  ⟨rule.category, rule.condition.text⟩

def RuleSet.toRecord (ruleSet : RuleSet) : RuleRecord :=
  ⟨ruleSet.locales, ruleSet.rules.map Rule.toEntry⟩

theorem RuleSet.reads_toRecord (ruleSet : RuleSet) (text : List Char)
    (h : Written ruleSet.toJson text) : Reads Json.record text ruleSet.toRecord := by
  have hcategories : ruleSet.categories.map (fun category => JsonValue.string category.name) =
      (ruleSet.categories.map Category.name).map .string := by
    rw [List.map_map]
    rfl
  have hrules (text : List Char) (hwritten : Written (.array (ruleSet.rules.map fun rule =>
      (⟨rule.category, rule.condition.text⟩ : RuleEntry).toJson)) text) :
      Reads (listOf entry) text (ruleSet.rules.map Rule.toEntry) :=
    reads_listOf (fun rule => readsBack_entry (Rule.toEntry rule)) hwritten
  rw [toJson, hcategories] at h
  apply reads_record _ h
  exact .cons (.first (readsBack_string.listOf _))
    (.cons (.other (by decide) (by decide) fun _ => passes_of_written_strings)
      (.cons (.second (by decide) hrules) .nil))

theorem readRecords_listing (table : RuleTable) :
    readRecords ((Command.tableJson table).indentedText ++ "\n") =
      .ok (table.ruleSets.map RuleSet.toRecord) := by
  have hwritten := written_indented 0 (Command.tableJson table)
  have hgap : IsGap ['\n'] := List.forall_mem_singleton.mpr rfl
  have hrecords := records_eq_ok RuleSet.reads_toRecord hwritten hgap
  have htext : ((Command.tableJson table).indentedText ++ "\n").toList =
      (Command.tableJson table).indented 0 ++ ['\n'] := by
    rw [String.toList_append, JsonValue.indentedText, String.toList_ofList]
    rfl
  rw [readRecords, htext, hrecords]
  rfl

theorem Rule.eq_of_compilesTo_toEntry {rule other : Rule} (h : CompilesTo rule.toEntry other) :
    other = rule := by
  have hcondition := (Condition.ofText_text_eq_ok_iff.mp h.condition).2
  have hcategory : other.category = rule.category := h.category
  cases other
  cases rule
  cases hcategory
  cases hcondition
  rfl

namespace RuleSet

variable {ruleSet : RuleSet}

theorem Proper.explicitEntries_toRecord (h : ruleSet.Proper) :
    explicitEntries ruleSet.toRecord.rules = ruleSet.rules.map Rule.toEntry := by
  apply List.filter_eq_self.mpr
  intro entry hentry
  obtain ⟨rule, hrule, rfl⟩ := List.mem_map.mp hentry
  exact decide_eq_true (h.explicit rule hrule)

theorem Proper.validEntries_toRecord (h : ruleSet.Proper) :
    ValidEntries ruleSet.toRecord.rules where
  nodup := by
    rw [declaredCategories, h.explicitEntries_toRecord, List.map_map]
    exact h.nodup
  parses entry hentry := by
    rw [h.explicitEntries_toRecord] at hentry
    obtain ⟨rule, hrule, rfl⟩ := List.mem_map.mp hentry
    have hwellFormed := h.wellFormed rule hrule
    exact ⟨rule.condition, Condition.ofText_text_eq_ok_iff.mpr ⟨hwellFormed, rfl⟩⟩

theorem Proper.eq_of_compiled_toRecord {other : RuleSet} (h : ruleSet.Proper)
    (hcompiled : Compiled ruleSet.toRecord other) : other = ruleSet := by
  have hlocales : other.locales = ruleSet.locales := hcompiled.locales
  have hrules : List.Forall₂ (fun rule other => CompilesTo rule.toEntry other) ruleSet.rules
      other.rules := by
    rw [← List.forall₂_map_left_iff, ← h.explicitEntries_toRecord]
    exact hcompiled.rules
  have heq : ruleSet.rules = other.rules := by
    rw [← List.forall₂_eq_eq_eq]
    exact hrules.imp fun _ _ hrule => (Rule.eq_of_compilesTo_toEntry hrule).symm
  cases other
  cases ruleSet
  cases hlocales
  cases heq
  rfl

end RuleSet

namespace RuleTable

variable {records : List RuleRecord} {table : RuleTable}

theorem build_induction {P : RuleTable → Prop} (hempty : P .empty)
    (hadd : ∀ table ruleSet, P table → P (table.add ruleSet)) (h : build records = .ok table) :
    P table := by
  have hrun {index : ℕ} {records : List RuleRecord} {draft last : Draft} (hdraft : P draft.table)
      (h : (addRecords index draft records).result = .ok last) : P last.table := by
    induction records generalizing index draft with
    | nil =>
      cases h
      exact hdraft
    | cons record records ih =>
      rw [addRecords, Build.result_bind] at h
      obtain ⟨next, hnext, h⟩ := ok_of_bind_eq_ok h
      obtain ⟨rules, -, -, htable⟩ := addRecord_eq_ok hnext
      refine ih ?_ h
      rw [htable]
      exact hadd _ _ hdraft
  obtain ⟨draft, hdraft, rfl⟩ := build_eq_ok_iff.mp h
  exact hrun hempty hdraft

theorem eq_foldl_add_of_build (h : build records = .ok table) :
    table.ruleSets.foldl add .empty = table := by
  refine build_induction (P := fun table => table.ruleSets.foldl add .empty = table) rfl ?_ h
  intro table ruleSet htable
  rw [add, List.foldl_append, htable]
  rfl

theorem declaredLocales_listing (ruleSets : List RuleSet) :
    declaredLocales (ruleSets.map RuleSet.toRecord) = ruleSets.flatMap RuleSet.locales :=
  List.flatMap_map ..

theorem validRecords_listing (h : build records = .ok table) :
    ValidRecords (table.ruleSets.map RuleSet.toRecord) where
  nonempty record hrecord := by
    obtain ⟨ruleSet, hruleSet, rfl⟩ := List.mem_map.mp hrecord
    have hvalid := (exists_build_eq_ok_iff records).mp ⟨table, h⟩
    obtain ⟨record, hrecord, hcompiled⟩ :=
      exists_of_mem_of_forall₂ (represents_of_build h).ruleSets hruleSet
    show ruleSet.locales ≠ []
    rw [hcompiled.locales]
    exact hvalid.nonempty record hrecord
  nodup := by
    rw [declaredLocales_listing]
    exact (consistent_of_build h).nodup
  entries record hrecord := by
    obtain ⟨ruleSet, hruleSet, rfl⟩ := List.mem_map.mp hrecord
    exact (proper_of_build h hruleSet).validEntries_toRecord

theorem build_listing (h : build records = .ok table) :
    build (table.ruleSets.map RuleSet.toRecord) = .ok table := by
  obtain ⟨again, hagain⟩ := (exists_build_eq_ok_iff _).mpr (validRecords_listing h)
  have hcompiled := List.forall₂_map_left_iff.mp (represents_of_build hagain).ruleSets
  have hproper : ∀ ruleSet ∈ table.ruleSets, ruleSet.Proper := fun _ => proper_of_build h
  have hruleSets : table.ruleSets = again.ruleSets := by
    rw [← List.forall₂_eq_eq_eq]
    exact ((List.forall₂_and_left ..).mpr ⟨hproper, hcompiled⟩).imp fun _ _ hboth =>
      (hboth.1.eq_of_compiled_toRecord hboth.2).symm
  rw [hagain, ← eq_foldl_add_of_build h, hruleSets, eq_foldl_add_of_build hagain]

/-- What the command prints for a table as JSON is a rule file of the very same table, so that every
locale and every number get the same answer from both. -/
theorem listing_reads_back (h : build records = .ok table) :
    let listing := (Command.tableJson table).indentedText ++ "\n"
    (∀ wording files rules? showRules,
      (Command.loadTable wording files rules?).table = .ok table →
        (Command.locales wording files rules? showRules true).stdout = listing) ∧
    (∃ written, readRecords listing = .ok written ∧ build written = .ok table) ∧
    ∀ wording files path, files path = .ok listing →
      (Command.loadTable wording files (some path)).table = .ok table := by
  intro listing
  have hread := readRecords_listing table
  have hbuild := build_listing h
  refine ⟨fun wording files rules? showRules hloaded => ?_, ⟨_, hread, hbuild⟩,
    fun wording files path hfile => ?_⟩
  · simp only [Command.locales, hloaded, if_true]
    rfl
  · have hfileRead : Command.readRuleFile wording files path =
        .ok (table.ruleSets.map RuleSet.toRecord) := by
      simp only [Command.readRuleFile, hfile, Except.mapError, bind, Except.bind]
      rw [hread]
    simp only [Command.loadTable, hfileRead]
    rw [← build, hbuild]
    rfl

theorem listing_reads_back_escaped :
    let quoted : RuleRecord :=
      ⟨["\"\\", "\n日"], [⟨.other, "%"⟩, ⟨.few, "n!=2..4,9 @integer 1"⟩]⟩
    ∃ table, build [quoted] = .ok table ∧
      let listing := (Command.tableJson table).indentedText ++ "\n"
      (∃ written, readRecords listing = .ok written ∧ build written = .ok table) ∧
        ∀ wording,
          (Command.loadTable wording (fun _ => .ok listing) (some "listing.json")).table =
            .ok table := by
  intro quoted
  have hisOk : (build [quoted]).isOk = true := by decide +kernel
  cases hbuild : build [quoted] with
  | error e =>
    rw [hbuild] at hisOk
    cases hisOk
  | ok table =>
    obtain ⟨-, hread, hload⟩ := listing_reads_back hbuild
    exact ⟨table, rfl, hread, fun wording => hload wording _ "listing.json" rfl⟩

end RuleTable

end PluralRules
