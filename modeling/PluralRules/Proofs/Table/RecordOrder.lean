import PluralRules.Proofs.Table.Reordering

/-!
The order of the records. It decides which of several violations is reported, and it is the order of
the rule sets, but what a table answers does not depend on it: the locales are listed in an order of
their own, and with them the suggestions.
-/

namespace PluralRules

variable {records reordered : List RuleRecord}

theorem declaredLocales_perm (h : reordered.Perm records) :
    (declaredLocales reordered).Perm (declaredLocales records) :=
  h.flatMap fun _ _ => .refl _

theorem ValidRecords.of_perm (h : ValidRecords records) (hperm : reordered.Perm records) :
    ValidRecords reordered where
  nonempty record hrecord := h.nonempty record (hperm.mem_iff.mp hrecord)
  nodup := (declaredLocales_perm hperm).nodup_iff.mpr h.nodup
  entries record hrecord := h.entries record (hperm.mem_iff.mp hrecord)

namespace RuleTable

variable {table other : RuleTable}

theorem categoryFor_eq_of_perm (h : build records = .ok table)
    (hother : build reordered = .ok other) (hperm : reordered.Perm records) (locale : String)
    (x : Operand) :
    other.categoryFor locale x = table.categoryFor locale x := by
  have hlocales := declaredLocales_perm hperm
  by_cases hlocale : locale ∈ declaredLocales reordered
  · obtain ⟨record, hrecord, hlists⟩ := List.mem_flatMap.mp hlocale
    rw [categoryFor_of_mem hother hrecord hlists,
      categoryFor_of_mem h (hperm.mem_iff.mp hrecord) hlists]
  · rw [categoryFor_of_notMem hother hlocale,
      categoryFor_of_notMem h (mt hlocales.mem_iff.mpr hlocale),
      locales_eq_of_perm h hother hlocales]

/-- A table is built from reordered records if it is from the records, and it lists the same locales
and gives every locale and number the same answer, suggestions included. -/
theorem build_forgets_record_order (hperm : reordered.Perm records) :
    ((∃ table, build records = .ok table) ↔ ∃ other, build reordered = .ok other) ∧
      ∀ table other, build records = .ok table → build reordered = .ok other →
        other.locales = table.locales ∧
          ∀ locale x, other.categoryFor locale x = table.categoryFor locale x := by
  constructor
  · rw [exists_build_eq_ok_iff, exists_build_eq_ok_iff]
    exact ⟨fun h => h.of_perm hperm, fun h => h.of_perm hperm.symm⟩
  · intro table other h hother
    exact ⟨locales_eq_of_perm h hother (declaredLocales_perm hperm),
      categoryFor_eq_of_perm h hother hperm⟩

theorem build_forgets_record_order_suggestions :
    let english : RuleRecord := ⟨["en", "en_US"], [⟨.one, "i = 1 and v = 0"⟩]⟩
    let esperanto : RuleRecord := ⟨["eo"], [⟨.one, "n = 1"⟩]⟩
    ∃ table other, build [english, esperanto] = .ok table ∧
      build [esperanto, english] = .ok other ∧ other.locales = ["en", "en_US", "eo"] ∧
      other.categoryFor "eu" (Operand.ofInt 1) = .error ⟨"eu", ["en", "eo"]⟩ := by
  intro english esperanto
  have hperm : [esperanto, english].Perm [english, esperanto] := .swap ..
  have hlisted : (build [english, esperanto]).map RuleTable.locales =
      .ok ["en", "en_US", "eo"] := by
    decide +kernel
  have hcodes : nearCodes "eu" ["en", "en_US", "eo"] = [(1, "en"), (1, "eo")] := by
    decide +kernel
  have hsorted : [(1, "en"), (1, "eo")].Pairwise fun a b => decide (a.1 ≤ b.1) = true := by
    decide
  have hnear : suggestions "eu" ["en", "en_US", "eo"] = ["en", "eo"] := by
    rw [suggestions, hcodes, List.mergeSort_of_pairwise hsorted]
    rfl
  obtain ⟨hiff, hsame⟩ := build_forgets_record_order hperm
  cases hbuild : build [english, esperanto] with
  | error e =>
    rw [hbuild] at hlisted
    cases hlisted
  | ok table =>
    obtain ⟨other, hother⟩ := hiff.mp ⟨table, hbuild⟩
    obtain ⟨hlocales, hcategory⟩ := hsame table other hbuild hother
    rw [hbuild] at hlisted
    have htable : table.locales = ["en", "en_US", "eo"] := Except.ok.inj hlisted
    refine ⟨table, other, rfl, hother, hlocales.trans htable, ?_⟩
    rw [hcategory, categoryFor_of_notMem hbuild (by decide), htable, hnear]

end RuleTable

end PluralRules
