import Mathlib.Data.List.Infix
import PluralRules.Proofs.Bundled.Exclusion
import PluralRules.Proofs.Condition.Partial

/-!
The sections of samples at the end of the bundled texts. A text without a section for integers is
for no number without visible fraction digits, and one without a section for decimals is for no
number with such digits. For `other` this says that the conditions of its group leave no number of
the kind over.
-/

namespace PluralRules

/-- The text has a section of samples that the word announces. -/
def HasSection (word text : String) : Prop :=
  word.toList <:+: text.toList

theorem hasSection_ofList {word : String} {text : List Char} :
    HasSection word (String.ofList text) ↔ word.toList <:+: text := by
  rw [HasSection, String.toList_ofList]

def RuleSet.wholeCategory (ruleSet : RuleSet) (k v : ℕ) : Category :=
  ((ruleSet.rules.find? fun rule => rule.condition.admits k v).map Rule.category).getD .other

theorem SpelledGroup.categoryFor_eq_wholeCategory {x : Operand} {k v : ℕ} (hx : x.IsWhole k v)
    (spelled : SpelledGroup) :
    spelled.ruleSet.categoryFor x = spelled.ruleSet.wholeCategory k v := by
  rw [RuleSet.categoryFor_eq, RuleSet.wholeCategory, List.find?_congr fun rule hrule =>
    Condition.holds_eq_admits hx (wellFormed_of_mem_ruleSet hrule)]

theorem RuleSet.wholeCategory_representative {ruleSet : RuleSet}
    (h : ∀ rule ∈ ruleSet.rules, rule.condition.isCoarse = true) (k v : ℕ) :
    ruleSet.wholeCategory (representative k) (min v 3) = ruleSet.wholeCategory k v := by
  rw [wholeCategory, wholeCategory, List.find?_congr fun rule hrule =>
    Condition.admits_representative (h rule hrule) k v]

def Relation.onDecimals (relation : Relation) : Option Bool :=
  if relation.expression = ⟨.v, none⟩ ∧ relation.ranges.all fun item => item.top < 1 then
    some relation.negated
  else none

def Condition.refusesDecimals (condition : Condition) : Bool :=
  condition.alternatives.all fun relations =>
    relations.any fun relation => relation.onDecimals = some false

def Condition.acceptsDecimals (condition : Condition) : Bool :=
  condition.alternatives.any fun relations =>
    relations.all fun relation => relation.onDecimals = some true

section

variable {x : Operand}

theorem Relation.holds_of_onDecimals {relation : Relation} {b : Bool}
    (h : relation.onDecimals = some b) (hv : 0 < x.v) : relation.holds x = b := by
  obtain ⟨⟨hexpression, hitems⟩, rfl⟩ := Option.ite_some_none_eq_some.mp h
  have hnone : relation.ranges.any (fun item => item.contains (.integer x.v)) = false := by
    rw [List.any_eq_false]
    intro item hitem
    have htop : item.top < 1 := of_decide_eq_true (List.all_eq_true.mp hitems item hitem)
    rw [RangeItem.contains_eq_admits, RangeItem.admits_eq_false (htop.trans_le hv)]
    exact Bool.false_ne_true
  have hquantity : relation.expression.quantity x = .integer x.v := by
    rw [hexpression]
    rfl
  simp only [holds, hquantity, hnone, Bool.false_bne]

theorem Condition.reports_onDecimals (condition : Condition) (hv : 0 < x.v) :
    condition.Reports Relation.onDecimals (·.holds x) :=
  fun relation _ _ h => relation.holds_of_onDecimals h hv

theorem Condition.holds_eq_false_of_refusesDecimals {condition : Condition}
    (h : condition.refusesDecimals = true) (hcondition : condition.WellFormed) (hv : 0 < x.v) :
    condition.holds x = false := by
  have hrefuses : condition.refuses Relation.onDecimals = true := h
  exact holdsBy_eq_false_of_refuses hrefuses (condition.reports_onDecimals hv) hcondition

theorem Condition.holds_of_acceptsDecimals {condition : Condition}
    (h : condition.acceptsDecimals = true) (hv : 0 < x.v) : condition.holds x = true := by
  have haccepts : condition.accepts Relation.onDecimals = true := h
  exact holdsBy_of_accepts haccepts (condition.reports_onDecimals hv)

end

def RuleSet.sparesDecimals (ruleSet : RuleSet) (category : Category) : Bool :=
  if category = .other then ruleSet.rules.any fun rule => rule.condition.acceptsDecimals
  else ruleSet.rules.all fun rule => rule.category ≠ category || rule.condition.refusesDecimals

namespace SpelledGroup

variable {spelled : SpelledGroup} {category : Category} {x : Operand}

theorem categoryFor_ne_of_sparesDecimals (h : spelled.ruleSet.sparesDecimals category = true)
    (hv : 0 < x.v) : spelled.ruleSet.categoryFor x ≠ category := by
  rintro rfl
  unfold RuleSet.categoryFor at h
  cases hfound : spelled.ruleSet.rules.find? fun rule => rule.condition.holds x with
  | none =>
    rw [hfound] at h
    obtain ⟨rule, hrule, haccepts⟩ := List.any_eq_true.mp h
    exact List.find?_eq_none.mp hfound rule hrule (Condition.holds_of_acceptsDecimals haccepts hv)
  | some found =>
    have hmem := List.mem_of_find?_eq_some hfound
    have hrefuses : found.condition.refusesDecimals = true := by
      rw [hfound, RuleSet.sparesDecimals, if_neg (category_ne_other_of_mem_ruleSet hmem)] at h
      simpa using List.all_eq_true.mp h found hmem
    have hholds := List.find?_some hfound
    rw [Condition.holds_eq_false_of_refusesDecimals hrefuses (wellFormed_of_mem_ruleSet hmem) hv]
      at hholds
    cases hholds

/-- A text without a section for integers is for no sample without zeros, and one without a section
for decimals is for no decimal. -/
structure KeepsSections (spelled : SpelledGroup) : Prop where
  integers : ∀ entry ∈ spelled.entries, ¬"@integer".toList <:+: entry.text →
    ∀ k ∈ integerSamples, spelled.ruleSet.wholeCategory k 0 ≠ entry.category
  decimals : ∀ entry ∈ spelled.entries, ¬"@decimal".toList <:+: entry.text →
    spelled.ruleSet.sparesDecimals entry.category = true

instance (spelled : SpelledGroup) : Decidable spelled.KeepsSections :=
  decidable_of_iff (_ ∧ _) ⟨fun ⟨h, h'⟩ => ⟨h, h'⟩, fun ⟨h, h'⟩ => ⟨h, h'⟩⟩

end SpelledGroup

namespace Bundled

theorem keepsSections_of_mem : ∀ spelled ∈ spelledGroups.val, spelled.KeepsSections := by
  decide +kernel

section

variable {spelled : SpelledGroup} {entry : SpelledEntry} {numeral : Numeral} {x : Operand}

theorem categoryFor_ne_of_integer (hspelled : spelled ∈ spelledGroups.val)
    (hentry : entry ∈ spelled.entries) (hsection : ¬"@integer".toList <:+: entry.text)
    (hx : numeral.operand = .ok x) (hv : x.v = 0) :
    spelled.ruleSet.categoryFor x ≠ entry.category := by
  obtain ⟨k, hwhole⟩ := Operand.exists_isWhole hx (Operand.t_eq_zero_of_v hx hv)
  have hsample : spelled.ruleSet.wholeCategory (representative k) 0 =
      spelled.ruleSet.wholeCategory k 0 :=
    RuleSet.wholeCategory_representative (isExclusive_of_mem spelled hspelled).coarse k 0
  rw [spelled.categoryFor_eq_wholeCategory hwhole, hv, ← hsample]
  exact (keepsSections_of_mem spelled hspelled).integers entry hentry hsection _
    (representative_mem k)

theorem categoryFor_ne_of_decimal (hspelled : spelled ∈ spelledGroups.val)
    (hentry : entry ∈ spelled.entries) (hsection : ¬"@decimal".toList <:+: entry.text)
    (hv : 0 < x.v) : spelled.ruleSet.categoryFor x ≠ entry.category :=
  SpelledGroup.categoryFor_ne_of_sparesDecimals
    ((keepsSections_of_mem spelled hspelled).decimals entry hentry hsection) hv

theorem exists_other_without_integers : ∀ name ∈ ["pl", "be", "ru", "uk"],
    ∃ spelled ∈ spelledGroups.val, name.toList ∈ spelled.locales ∧
      ∃ entry ∈ spelled.entries, entry.category = .other ∧
        ¬"@integer".toList <:+: entry.text := by
  decide +kernel

theorem exists_other_without_decimals : ∀ name ∈ ["sl", "cs", "sk", "ro"],
    ∃ spelled ∈ spelledGroups.val, name.toList ∈ spelled.locales ∧
      ∃ entry ∈ spelled.entries, entry.category = .other ∧
        ¬"@decimal".toList <:+: entry.text := by
  decide +kernel

end

/-- A bundled text without a section for integers is for no number without visible fraction digits,
and one without a section for decimals is for no number that has some. -/
theorem categories_keep_to_sections :
    ∃ built, table = .ok built ∧
      (∀ group ∈ cardinalGroups, ∀ entry ∈ group.rules, ∀ locale ∈ group.locales,
        ∀ numeral x, Numeral.operand numeral = .ok x →
          ∃ category selected, Category.ofName entry.1 = .ok category ∧
            built.categoryFor locale x = .ok selected ∧
            (¬HasSection "@integer" entry.2 → x.v = 0 → selected ≠ category) ∧
            (¬HasSection "@decimal" entry.2 → 0 < x.v → selected ≠ category)) ∧
      (∀ locale ∈ ["pl", "be", "ru", "uk"], ∀ numeral x, Numeral.operand numeral = .ok x →
        x.v = 0 → ∃ selected, built.categoryFor locale x = .ok selected ∧ selected ≠ .other) ∧
      ∀ locale ∈ ["sl", "cs", "sk", "ro"], ∀ numeral x, Numeral.operand numeral = .ok x →
        0 < x.v → ∃ selected, built.categoryFor locale x = .ok selected ∧ selected ≠ .other := by
  obtain ⟨built, hbuilt⟩ := exists_table
  refine ⟨built, hbuilt, ?_, ?_, ?_⟩
  · intro group hgroup entry hentry locale hlocale numeral x hx
    rw [← spelledGroups.property] at hgroup
    obtain ⟨spelled, hspelled, rfl⟩ := List.mem_map.mp hgroup
    obtain ⟨entry, hmem, rfl⟩ := List.mem_map.mp hentry
    obtain ⟨name, hname, rfl⟩ := List.mem_map.mp hlocale
    refine ⟨entry.category, spelled.ruleSet.categoryFor x, Category.ofName_name _,
      categoryFor_of_mem hbuilt hspelled hname x, fun hsection hv => ?_, fun hsection hv => ?_⟩
    · exact categoryFor_ne_of_integer hspelled hmem (mt hasSection_ofList.mpr hsection) hx hv
    · exact categoryFor_ne_of_decimal hspelled hmem (mt hasSection_ofList.mpr hsection) hv
  · intro locale hlocale numeral x hx hv
    obtain ⟨spelled, hspelled, hname, entry, hmem, hother, hsection⟩ :=
      exists_other_without_integers locale hlocale
    have hcategory := categoryFor_of_mem hbuilt hspelled hname x
    rw [String.ofList_toList] at hcategory
    exact ⟨_, hcategory, hother ▸ categoryFor_ne_of_integer hspelled hmem hsection hx hv⟩
  · intro locale hlocale numeral x hx hv
    obtain ⟨spelled, hspelled, hname, entry, hmem, hother, hsection⟩ :=
      exists_other_without_decimals locale hlocale
    have hcategory := categoryFor_of_mem hbuilt hspelled hname x
    rw [String.ofList_toList] at hcategory
    exact ⟨_, hcategory, hother ▸ categoryFor_ne_of_decimal hspelled hmem hsection hv⟩

theorem categories_keep_to_sections_polish :
    ∃ x y built, (Numeral.literal "5.0").operand = .ok x ∧ (Numeral.literal "5").operand = .ok y ∧
      table = .ok built ∧ built.categoryFor "pl" x ≠ .ok .many ∧
      built.categoryFor "pl" y ≠ .ok .other := by
  have hx : (Numeral.literal "5.0").operand = .ok (Operand.ofDigits ['5'] ['0']) := by
    decide +kernel
  have hy : (Numeral.literal "5").operand = .ok (Operand.ofDigits ['5'] []) := by
    decide +kernel
  have hpolish : ∃ spelled ∈ spelledGroups.val, ['p', 'l'] ∈ spelled.locales ∧
      ∃ entry ∈ spelled.entries, entry.category = .many ∧
        ¬"@decimal".toList <:+: entry.text := by
    decide +kernel
  obtain ⟨spelled, hspelled, hname, entry, hentry, hmany, hsection⟩ := hpolish
  obtain ⟨built, hbuilt, hall, hinteger, -⟩ := categories_keep_to_sections
  refine ⟨_, _, built, hx, hy, hbuilt, fun hselected => ?_, fun hselected => ?_⟩
  · have hgroup : spelled.group ∈ cardinalGroups :=
      spelledGroups.property ▸ List.mem_map_of_mem hspelled
    obtain ⟨category, selected, hcategory, hfor, -, hne⟩ := hall spelled.group hgroup entry.pair
      (List.mem_map_of_mem hentry) "pl" (List.mem_map_of_mem hname) _ _ hx
    rw [SpelledEntry.pair, Category.ofName_name, hmany] at hcategory
    cases hcategory
    rw [hselected] at hfor
    cases hfor
    exact hne (mt hasSection_ofList.mp hsection) (by decide) rfl
  · obtain ⟨selected, hfor, hne⟩ := hinteger "pl" (by decide) _ _ hy (by decide)
    rw [hselected] at hfor
    cases hfor
    exact hne rfl

end Bundled

end PluralRules
