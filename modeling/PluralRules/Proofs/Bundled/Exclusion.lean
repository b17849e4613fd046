import PluralRules.Proofs.Bundled.Spelling
import PluralRules.Proofs.Condition.Whole

/-!
The conditions of a bundled group exclude each other on whole numbers. They are coarse, and no
sample meets two of them, so at most one rule of a group holds for a whole number, and the order in
which the group lists its rules does not matter.
-/

namespace PluralRules

section

variable {α β : Type} {p : α → Bool} {q : β → Bool}

theorem length_filter_le_one {as : List α}
    (h : as.Pairwise fun a b => p a = true → p b = false) : (as.filter p).length ≤ 1 := by
  induction h with
  | nil => exact Nat.zero_le 1
  | @cons a as ha _ ih =>
    cases hpa : p a with
    | false =>
      rw [List.filter_cons_of_neg (by simp [hpa])]
      exact ih
    | true =>
      have hnone : as.filter p = [] := by
        rw [List.filter_eq_nil_iff]
        intro b hb
        simp [ha b hb hpa]
      rw [List.filter_cons_of_pos hpa, hnone]
      exact le_rfl

theorem length_filter_eq_of_forall₂ {R : α → β → Prop} {as : List α} {bs : List β}
    (h : List.Forall₂ R as bs) (hpq : ∀ {a b}, R a b → p a = q b) :
    (as.filter p).length = (bs.filter q).length := by
  induction h with
  | nil => rfl
  | cons hab _ ih =>
    rw [List.filter_cons, List.filter_cons, hpq hab]
    split <;> simp [ih]

end

theorem filter_selects (entries : List RuleEntry) (x : Operand) :
    entries.filter (·.selects x) = (explicitEntries entries).filter (·.conditionHolds x) := by
  rw [explicitEntries, List.filter_filter]
  refine List.filter_congr fun entry _ => ?_
  rw [RuleEntry.selects, Bool.decide_and, Bool.decide_eq_true, Bool.and_comm]

theorem exists_compileRecord {record : RuleRecord} (h : ValidEntries record.rules) :
    ∃ ruleSet, (compileRecord record).result = .ok ruleSet ∧ Compiled record ruleSet := by
  obtain ⟨rules, hrules⟩ :=
    ((entryLoop record.locales).run_eq_ok_iff sees_nil validEntries_nil record.rules).mpr h
  refine ⟨⟨record.locales, rules⟩, ?_, rfl, compilesTo_of_compileEntries hrules⟩
  simp only [compileRecord, Build.result_bind, hrules]
  rfl

theorem Compiled.length_filter_holds {record : RuleRecord} {ruleSet : RuleSet}
    (h : Compiled record ruleSet) (x : Operand) :
    (ruleSet.rules.filter fun rule => rule.condition.holds x).length =
      ((explicitEntries record.rules).filter (·.conditionHolds x)).length := by
  refine (length_filter_eq_of_forall₂ h.rules fun hentry => ?_).symm
  rw [RuleEntry.conditionHolds, hentry.condition]

namespace SpelledGroup

structure IsExclusive (spelled : SpelledGroup) : Prop where
  coarse : ∀ rule ∈ spelled.ruleSet.rules, rule.condition.isCoarse = true
  apart : spelled.ruleSet.rules.Pairwise fun rule other =>
    rule.condition.apart other.condition = true

instance (spelled : SpelledGroup) : Decidable spelled.IsExclusive :=
  decidable_of_iff (_ ∧ _) ⟨fun ⟨h, h'⟩ => ⟨h, h'⟩, fun ⟨h, h'⟩ => ⟨h, h'⟩⟩

theorem IsExclusive.length_filter_holds {spelled : SpelledGroup} (h : spelled.IsExclusive)
    {x : Operand} {k v : ℕ} (hx : x.IsWhole k v) :
    (spelled.ruleSet.rules.filter fun rule => rule.condition.holds x).length ≤ 1 := by
  apply length_filter_le_one
  refine h.apart.imp_of_mem fun {rule other} hrule hother hapart hholds => ?_
  rw [Condition.holds_eq_admits hx (wellFormed_of_mem_ruleSet hrule)] at hholds
  rw [Condition.holds_eq_admits hx (wellFormed_of_mem_ruleSet hother)]
  exact Condition.not_admits_of_apart hapart (h.coarse rule hrule) (h.coarse other hother) hholds

end SpelledGroup

namespace Bundled

theorem isExclusive_of_mem : ∀ spelled ∈ spelledGroups.val, spelled.IsExclusive := by
  decide +kernel

theorem exists_tableOf {groups : List RuleGroup}
    (h : List.Forall₂ RuleGroup.Reorders cardinalGroups groups) :
    ∃ reordered built, tableOf groups = .ok built ∧ RuleTable.build reordered = .ok built ∧
      List.Forall₂ RuleRecord.Reorders records reordered := by
  obtain ⟨reordered, hrecords, hreorders⟩ := exists_mapM_toRecord h mapM_toRecord
  obtain ⟨built, hbuilt⟩ :=
    (RuleTable.exists_build_eq_ok_iff reordered).mpr (validRecords.of_reorders hreorders)
  exact ⟨reordered, built, (tableOf_eq_build hrecords).trans hbuilt, hbuilt, hreorders⟩

/-- At most one rule of a bundled group holds for a number that has no fraction digit but zeros, and
tables of the bundled groups with their rules in any order select the same category for it. -/
theorem rules_exclude_each_other :
    (∀ group ∈ cardinalGroups, ∃ record ruleSet,
      group.toRecord = .ok record ∧ (compileRecord record).result = .ok ruleSet ∧
      List.Forall₂ CompilesTo (explicitEntries record.rules) ruleSet.rules ∧
      ∀ numeral x, Numeral.operand numeral = .ok x → x.t = 0 →
        (ruleSet.rules.filter fun rule => rule.condition.holds x).length ≤ 1) ∧
    ∀ groups, List.Forall₂ RuleGroup.Reorders cardinalGroups groups →
      ∃ built reordered, table = .ok built ∧ tableOf groups = .ok reordered ∧
        ∀ locale numeral x, Numeral.operand numeral = .ok x → x.t = 0 →
          reordered.categoryFor locale x = built.categoryFor locale x := by
  constructor
  · intro group hgroup
    rw [← spelledGroups.property] at hgroup
    obtain ⟨spelled, hspelled, rfl⟩ := List.mem_map.mp hgroup
    obtain ⟨ruleSet, hruleSet, hcompiled⟩ :=
      exists_compileRecord (isValid_of_mem spelled hspelled).validEntries
    refine ⟨spelled.record, ruleSet, spelled.toRecord_group, hruleSet, hcompiled.rules, ?_⟩
    intro numeral x hx ht
    obtain ⟨k, hwhole⟩ := Operand.exists_isWhole hx ht
    rw [hcompiled.length_filter_holds,
      ← (isValid_of_mem spelled hspelled).compiled.length_filter_holds]
    exact (isExclusive_of_mem spelled hspelled).length_filter_holds hwhole
  · intro groups hgroups
    obtain ⟨built, hbuilt⟩ := exists_table
    obtain ⟨reordered, other, hother, hbuild, hreorders⟩ := exists_tableOf hgroups
    refine ⟨built, other, hbuilt, hother, fun locale numeral x hx ht => ?_⟩
    obtain ⟨k, hwhole⟩ := Operand.exists_isWhole hx ht
    refine RuleTable.categoryFor_eq_of_reorders (table_eq_build ▸ hbuilt) hbuild hreorders ?_ locale
    intro record hrecord
    obtain ⟨spelled, hspelled, rfl⟩ := List.mem_map.mp hrecord
    rw [filter_selects, ← (isValid_of_mem spelled hspelled).compiled.length_filter_holds]
    exact (isExclusive_of_mem spelled hspelled).length_filter_holds hwhole

theorem rules_exclude_each_other_backwards :
    ∃ x reordered, (Numeral.literal "3.0").operand = .ok x ∧ x.t = 0 ∧
      tableOf (cardinalGroups.map fun group => ⟨group.locales, group.rules.reverse⟩) =
        .ok reordered ∧
      reordered.categoryFor "sl" x = .ok .few := by
  have hbackwards : List.Forall₂ RuleGroup.Reorders cardinalGroups
      (cardinalGroups.map fun group => ⟨group.locales, group.rules.reverse⟩) := by
    rw [List.forall₂_map_right_iff, List.forall₂_same]
    exact fun group _ => ⟨rfl, List.reverse_perm group.rules⟩
  have hx : (Numeral.literal "3.0").operand =
      .ok (Operand.ofDigits ['3'] ['0']) := by decide +kernel
  have hslovenian : ∃ spelled ∈ spelledGroups.val, ['s', 'l'] ∈ spelled.locales ∧
      spelled.ruleSet.categoryFor (Operand.ofDigits ['3'] ['0']) = .few := by decide +kernel
  obtain ⟨built, reordered, hbuilt, hreordered, hsame⟩ :=
    rules_exclude_each_other.2 _ hbackwards
  obtain ⟨spelled, hspelled, hlocale, hfew⟩ := hslovenian
  refine ⟨_, reordered, hx, by decide, hreordered, ?_⟩
  rw [hsame "sl" _ _ hx (by decide), ← hfew]
  exact categoryFor_of_mem hbuilt hspelled hlocale _

end Bundled

end PluralRules
