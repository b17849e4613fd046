import Mathlib.Data.List.Nodup
import Mathlib.Data.List.Pairwise
import PluralRules.Proofs.RuleText.Canonical
import PluralRules.Proofs.Table.Agreement
import PluralRules.Proofs.Text.Utf8Order

/-!
What holds of every built table. The list of rule sets and the map from locales agree, no two rule
sets share a locale, and a rule set selects among the categories that it lists.
-/

namespace PluralRules

structure RuleSet.Proper (ruleSet : RuleSet) : Prop where
  nodup : (ruleSet.rules.map Rule.category).Nodup
  explicit : ∀ rule ∈ ruleSet.rules, rule.category ≠ .other
  wellFormed : ∀ rule ∈ ruleSet.rules, rule.condition.WellFormed

/-- Every locale leads to the one rule set that lists it, and no other locale leads anywhere. -/
structure RuleTable.Consistent (table : RuleTable) : Prop where
  nodup : (table.ruleSets.flatMap RuleSet.locales).Nodup
  ruleSet?_eq_some_iff : ∀ locale ruleSet, table.ruleSet? locale = some ruleSet ↔
    ruleSet ∈ table.ruleSets ∧ locale ∈ ruleSet.locales

theorem exists_of_mem_of_forall₂ {α β : Type} {R : α → β → Prop} {as : List α} {bs : List β}
    (h : List.Forall₂ R as bs) {b : β} (hb : b ∈ bs) : ∃ a ∈ as, R a b := by
  induction h with
  | nil => cases hb
  | @cons a head as bs hhead _ ih =>
    rcases List.mem_cons.mp hb with rfl | hb
    · exact ⟨a, List.mem_cons_self, hhead⟩
    · obtain ⟨a, ha, hab⟩ := ih hb
      exact ⟨a, List.mem_cons_of_mem _ ha, hab⟩

theorem map_category_of_compilesTo {entries : List RuleEntry} {rules : List Rule}
    (h : List.Forall₂ CompilesTo entries rules) :
    rules.map Rule.category = entries.map RuleEntry.category := by
  induction h with
  | nil => rfl
  | cons hrule _ ih => rw [List.map_cons, List.map_cons, hrule.category, ih]

theorem Compiled.proper {record : RuleRecord} {ruleSet : RuleSet} (h : Compiled record ruleSet)
    (hvalid : ValidEntries record.rules) : ruleSet.Proper := by
  have hcategories : ruleSet.rules.map Rule.category = declaredCategories record.rules :=
    map_category_of_compilesTo h.rules
  refine ⟨hcategories ▸ hvalid.nodup, fun rule hrule => ?_, fun rule hrule => ?_⟩
  · have hmem : rule.category ∈ declaredCategories record.rules :=
      hcategories ▸ List.mem_map_of_mem hrule
    exact ne_other_of_mem_declaredCategories hmem
  · obtain ⟨entry, -, hentry⟩ := exists_of_mem_of_forall₂ h.rules hrule
    exact Condition.wellFormed_of_ofText hentry.condition

namespace RuleSet

variable {ruleSet : RuleSet}

theorem Proper.other_notMem (h : ruleSet.Proper) : .other ∉ ruleSet.rules.map Rule.category := by
  intro hmem
  obtain ⟨rule, hrule, hother⟩ := List.mem_map.mp hmem
  exact h.explicit rule hrule hother

theorem Proper.nodup_categories (h : ruleSet.Proper) : ruleSet.categories.Nodup := by
  rw [categories, List.nodup_append_comm, List.singleton_append, List.nodup_cons]
  exact ⟨h.other_notMem, h.nodup⟩

theorem categoryFor_mem_categories (ruleSet : RuleSet) (x : Operand) :
    ruleSet.categoryFor x ∈ ruleSet.categories := by
  unfold categoryFor categories
  split
  case h_1 rule hrule =>
    exact List.mem_append_left _ (List.mem_map_of_mem (List.mem_of_find?_eq_some hrule))
  case h_2 => exact List.mem_append_right _ (List.mem_singleton_self _)

theorem eq_of_mem_locales {ruleSets : List RuleSet}
    (hnodup : (ruleSets.flatMap RuleSet.locales).Nodup) {a b : RuleSet} (ha : a ∈ ruleSets)
    (hb : b ∈ ruleSets) {locale : String} (hlocaleA : locale ∈ a.locales)
    (hlocaleB : locale ∈ b.locales) : a = b := by
  have hsymm : Std.Symm (Function.onFun List.Disjoint RuleSet.locales) :=
    ⟨fun _ _ h _ hb ha => h ha hb⟩
  by_contra hne
  exact (List.nodup_flatMap.mp hnodup).2.forall ha hb hne hlocaleA hlocaleB

end RuleSet

namespace LocaleMap

variable {α : Type} (map : LocaleMap α)

theorem mem_keys_iff {locale : String} :
    locale ∈ map.keys ↔ ∃ value, map.find? locale = some value := by
  rw [← Option.isSome_iff_exists, find?, List.lookup_isSome_iff, keys, List.mem_map]
  constructor
  · rintro ⟨binding, hbinding, rfl⟩
    exact ⟨binding, hbinding, beq_self_eq_true _⟩
  · rintro ⟨binding, hbinding, hkey⟩
    exact ⟨binding, hbinding, (beq_iff_eq.mp hkey).symm⟩

theorem keys_pairwise : map.keys.Pairwise (· < ·) :=
  map.ordered.map Prod.fst fun _ _ h => h

theorem nodup_keys : map.keys.Nodup :=
  map.keys_pairwise.imp fun h => String.ne_of_lt h

end LocaleMap

namespace RuleTable

variable {table : RuleTable}

theorem Consistent.locales_perm (h : table.Consistent) :
    table.locales.Perm (table.ruleSets.flatMap RuleSet.locales) := by
  apply (List.perm_ext_iff_of_nodup table.byLocale.nodup_keys h.nodup).mpr
  intro locale
  rw [List.mem_flatMap]
  refine table.byLocale.mem_keys_iff.trans (exists_congr fun ruleSet => ?_)
  exact h.ruleSet?_eq_some_iff locale ruleSet

theorem Consistent.size_eq (h : table.Consistent) :
    table.size = (table.ruleSets.map fun ruleSet => ruleSet.locales.length).sum := by
  have hlength := h.locales_perm.length_eq
  rw [List.length_flatMap] at hlength
  rw [← hlength]
  exact (List.length_map Prod.fst).symm

theorem Consistent.findIdx?_eq_some_iff (h : table.Consistent) {locale : String} {i : ℕ} :
    (table.ruleSets.findIdx? fun ruleSet => ruleSet.locales.contains locale) = some i ↔
      ∃ hi : i < table.ruleSets.length, locale ∈ table.ruleSets[i].locales := by
  rw [List.findIdx?_eq_some_iff_getElem]
  refine exists_congr fun hi => ?_
  rw [List.contains_iff_mem]
  refine and_iff_left_of_imp fun hlocale j hearlier => ?_
  have hdisjoint := List.pairwise_iff_getElem.mp (List.nodup_flatMap.mp h.nodup).2
  rw [List.contains_iff_mem]
  exact fun hlists => hdisjoint j i (hearlier.trans hi) hi hearlier hlists hlocale

theorem Consistent.sameRuleSet?_iff (h : table.Consistent) {a b : String} :
    table.sameRuleSet? a b = some true ↔
      ∃ ruleSet ∈ table.ruleSets, a ∈ ruleSet.locales ∧ b ∈ ruleSet.locales := by
  unfold sameRuleSet?
  simp only [Option.bind_eq_bind, Option.bind_eq_some_iff, h.findIdx?_eq_some_iff]
  constructor
  · rintro ⟨i, ⟨hi, ha⟩, j, ⟨hj, hb⟩, hsame⟩
    obtain rfl : i = j := by simpa using hsame
    exact ⟨table.ruleSets[i], List.getElem_mem hi, ha, hb⟩
  · rintro ⟨ruleSet, hruleSet, ha, hb⟩
    obtain ⟨i, hi, rfl⟩ := List.getElem_of_mem hruleSet
    exact ⟨i, ⟨hi, ha⟩, i, ⟨hi, hb⟩, by simp⟩

theorem locales_utf8_sorted (table : RuleTable) :
    table.locales.Pairwise fun a b => a.toUTF8.data.toList < b.toUTF8.data.toList :=
  table.byLocale.keys_pairwise.imp Text.toUTF8_lt_of_lt

theorem flatMap_locales_of_compiled {records : List RuleRecord} {ruleSets : List RuleSet}
    (h : List.Forall₂ Compiled records ruleSets) :
    ruleSets.flatMap RuleSet.locales = declaredLocales records := by
  induction h with
  | nil => rfl
  | cons hrecord _ ih =>
    rw [declaredLocales, List.flatMap_cons, List.flatMap_cons, hrecord.locales, ih, declaredLocales]

end RuleTable

theorem Represents.consistent {records : List RuleRecord} {table : RuleTable}
    (h : Represents records table) (hdeclared : (declaredLocales records).Nodup) :
    table.Consistent := by
  have hnodup : (table.ruleSets.flatMap RuleSet.locales).Nodup := by
    rwa [RuleTable.flatMap_locales_of_compiled h.ruleSets]
  refine ⟨hnodup, fun locale ruleSet => ?_⟩
  rw [h.ruleSet?]
  constructor
  · intro hfind
    have hlists := List.find?_some hfind
    exact ⟨List.mem_of_find?_eq_some hfind, of_decide_eq_true hlists⟩
  · rintro ⟨hruleSet, hlocale⟩
    have hsome : (table.ruleSets.find? fun ruleSet => locale ∈ ruleSet.locales).isSome := by
      rw [List.find?_isSome]
      exact ⟨ruleSet, hruleSet, decide_eq_true hlocale⟩
    obtain ⟨found, hfound⟩ := Option.isSome_iff_exists.mp hsome
    have hmem := List.mem_of_find?_eq_some hfound
    have hlists := List.find?_some hfound
    rw [hfound, RuleSet.eq_of_mem_locales hnodup hmem hruleSet (of_decide_eq_true hlists) hlocale]

namespace RuleTable

variable {records : List RuleRecord} {table : RuleTable}

theorem proper_of_build (h : build records = .ok table) {ruleSet : RuleSet}
    (hruleSet : ruleSet ∈ table.ruleSets) : ruleSet.Proper := by
  have hvalid := (exists_build_eq_ok_iff records).mp ⟨table, h⟩
  obtain ⟨record, hrecord, hcompiled⟩ :=
    exists_of_mem_of_forall₂ (represents_of_build h).ruleSets hruleSet
  exact hcompiled.proper (hvalid.entries record hrecord)

theorem consistent_of_build (h : build records = .ok table) : table.Consistent :=
  (represents_of_build h).consistent ((exists_build_eq_ok_iff records).mp ⟨table, h⟩).nodup

structure Invariant (records : List RuleRecord) (table : RuleTable) : Prop where
  ruleSets : List.Forall₂ Compiled records table.ruleSets
  ruleSet?_eq_some_iff : ∀ locale ruleSet, table.ruleSet? locale = some ruleSet ↔
    ruleSet ∈ table.ruleSets ∧ locale ∈ ruleSet.locales
  locales_perm : table.locales.Perm (table.ruleSets.flatMap RuleSet.locales)
  sameRuleSet?_iff : ∀ a b, table.sameRuleSet? a b = some true ↔
    ∃ ruleSet ∈ table.ruleSets, a ∈ ruleSet.locales ∧ b ∈ ruleSet.locales
  size_eq : table.size = (table.ruleSets.map fun ruleSet => ruleSet.locales.length).sum
  locales_sorted : table.locales.Pairwise fun a b => a.toUTF8.data.toList < b.toUTF8.data.toList
  rules : ∀ ruleSet ∈ table.ruleSets,
    (ruleSet.rules.map Rule.category).Nodup ∧ .other ∉ ruleSet.rules.map Rule.category
  categories : ∀ ruleSet ∈ table.ruleSets, ruleSet.categories.Nodup ∧
    ∃ others, ruleSet.categories = others ++ [.other] ∧ .other ∉ others
  conditions : ∀ ruleSet ∈ table.ruleSets, ∀ rule ∈ ruleSet.rules, rule.condition.WellFormed ∧
    ∀ relation ∈ rule.condition.relations, ∀ modulus ∈ relation.expression.modulus?,
      1 ≤ modulus.toNat ∧ modulus.toNat ≤ 4294967295
  answers : ∀ ruleSet ∈ table.ruleSets, ∀ locale ∈ ruleSet.locales, ∀ x,
    ∃ category ∈ ruleSet.categories, table.categoryFor locale x = .ok category

theorem modulus_mem_Icc {condition : Condition} (h : condition.WellFormed) {relation : Relation}
    (hrelation : relation ∈ condition.relations) {modulus : UInt32}
    (hmodulus : modulus ∈ relation.expression.modulus?) :
    1 ≤ modulus.toNat ∧ modulus.toNat ≤ 4294967295 :=
  ⟨(h.of_mem_relations hrelation).1 modulus hmodulus, Nat.le_of_lt_succ modulus.toNat_lt⟩

/-- Every table that is built keeps to the invariant. -/
theorem invariant_of_build (h : build records = .ok table) : table.Invariant records := by
  have hconsistent := consistent_of_build h
  have hproper {ruleSet : RuleSet} (hruleSet : ruleSet ∈ table.ruleSets) : ruleSet.Proper :=
    proper_of_build h hruleSet
  refine ⟨(represents_of_build h).ruleSets, hconsistent.ruleSet?_eq_some_iff,
    hconsistent.locales_perm, fun _ _ => hconsistent.sameRuleSet?_iff, hconsistent.size_eq,
    locales_utf8_sorted table, ?rules, ?categories, ?conditions, ?answers⟩
  case rules =>
    intro ruleSet hruleSet
    exact ⟨(hproper hruleSet).nodup, (hproper hruleSet).other_notMem⟩
  case categories =>
    intro ruleSet hruleSet
    exact ⟨(hproper hruleSet).nodup_categories, _, rfl, (hproper hruleSet).other_notMem⟩
  case conditions =>
    intro ruleSet hruleSet rule hrule
    have hwellFormed := (hproper hruleSet).wellFormed rule hrule
    exact ⟨hwellFormed, fun relation hrelation modulus => modulus_mem_Icc hwellFormed hrelation⟩
  case answers =>
    intro ruleSet hruleSet locale hlocale x
    have hfound := (hconsistent.ruleSet?_eq_some_iff locale ruleSet).mpr ⟨hruleSet, hlocale⟩
    refine ⟨ruleSet.categoryFor x, ruleSet.categoryFor_mem_categories x, ?_⟩
    rw [categoryFor, hfound]

theorem invariant_of_build_unordered :
    let shared : RuleRecord := ⟨["日", "z"], [⟨.other, "%"⟩, ⟨.one, "n % 10 = 1..2"⟩]⟩
    let ruleless : RuleRecord := ⟨["é"], []⟩
    ∃ table, build [shared, ruleless] = .ok table ∧ table.Invariant [shared, ruleless] ∧
      table.locales = ["z", "é", "日"] := by
  intro shared ruleless
  have hlocales : (build [shared, ruleless]).map locales = .ok ["z", "é", "日"] := by
    decide +kernel
  cases hbuild : build [shared, ruleless] with
  | error e =>
    rw [hbuild] at hlocales
    cases hlocales
  | ok table =>
    rw [hbuild] at hlocales
    exact ⟨table, rfl, invariant_of_build hbuild, Except.ok.inj hlocales⟩

end RuleTable

end PluralRules
