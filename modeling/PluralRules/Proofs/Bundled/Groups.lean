import PluralRules.Proofs.Bundled.Spelling

/-!
The table of a list of groups against the list itself. A search through the groups and the look-up
in the table find the same locales, and what the table finds is the group that the search finds,
with its texts read.
-/

namespace PluralRules

def RuleGroup.explicitRules (group : RuleGroup) : List (String × String) :=
  group.rules.filter fun named => named.1 ≠ "other"

def textHolds (text : String) (x : Operand) : Bool :=
  match Condition.ofText text with
  | .ok condition => condition.holds x
  | .error _ => false

/-- The name of the first explicit entry whose condition holds, or else `other`. -/
def RuleGroup.categoryName (group : RuleGroup) (x : Operand) : String :=
  ((group.explicitRules.find? fun named => textHolds named.2 x).map Prod.fst).getD "other"

structure Parses (named : String × String) (rule : Rule) : Prop where
  category : Category.ofName named.1 = .ok rule.category
  condition : Condition.ofText named.2 = .ok rule.condition

structure RuleGroup.Parsed (group : RuleGroup) (ruleSet : RuleSet) : Prop where
  locales : ruleSet.locales = group.locales
  rules : List.Forall₂ Parses group.explicitRules ruleSet.rules

theorem Category.name_of_ofName {name : String} {category : Category}
    (h : ofName name = .ok category) : category.name = name := by
  unfold ofName at h
  split at h
  case h_1 found hfound =>
    cases h
    have hname := List.find?_some hfound
    exact beq_iff_eq.mp hname
  case h_2 => cases h

section

variable {α β γ : Type} {R : α → β → Prop} {S : β → γ → Prop} {T : α → γ → Prop}

theorem forall₂_trans (h : ∀ a b c, R a b → S b c → T a c) {as : List α} {bs : List β}
    {cs : List γ} (hab : List.Forall₂ R as bs) (hbc : List.Forall₂ S bs cs) :
    List.Forall₂ T as cs := by
  induction hab generalizing cs with
  | nil =>
    cases hbc
    exact .nil
  | cons hhead _ ih =>
    cases hbc with
    | cons hhead' htail' => exact .cons (h _ _ _ hhead hhead') (ih htail')

theorem rel_find? {p : α → Bool} {q : β → Bool} (hpq : ∀ a b, R a b → p a = q b)
    {as : List α} {bs : List β} (h : List.Forall₂ R as bs) :
    Option.Rel R (as.find? p) (bs.find? q) := by
  induction h with
  | nil => exact .none
  | @cons a b as bs hab _ ih =>
    rw [List.find?_cons, List.find?_cons, hpq a b hab]
    cases q b with
    | true => exact .some hab
    | false => exact ih

variable {a? : Option α} {b? : Option β}

theorem isSome_iff_of_rel (h : Option.Rel R a? b?) : a?.isSome ↔ b?.isSome := by
  cases h with
  | none => exact Iff.rfl
  | some _ => exact Iff.rfl

theorem exists_of_rel (h : Option.Rel R a? b?) {a : α} (ha : a? = some a) :
    ∃ b, b? = some b ∧ R a b := by
  cases h with
  | none => cases ha
  | @some a b hab =>
    cases ha
    exact ⟨b, rfl, hab⟩

theorem map_eq_of_rel {f : α → γ} {g : β → γ} (hfg : ∀ a b, R a b → f a = g b)
    (h : Option.Rel R a? b?) : a?.map f = b?.map g := by
  cases h with
  | none => rfl
  | some hab => exact congrArg some (hfg _ _ hab)

end

theorem Named.explicit_iff {named : String × String} {entry : RuleEntry} (h : Named named entry) :
    named.1 ≠ "other" ↔ entry.category ≠ .other := by
  rw [← Category.name_of_ofName h.category]
  cases entry.category <;> decide

theorem parses_of_named (named : String × String) (entry : RuleEntry) (rule : Rule)
    (hnamed : Named named entry) (hrule : CompilesTo entry rule) : Parses named rule where
  category := hrule.category ▸ hnamed.category
  condition := hnamed.text ▸ hrule.condition

theorem parsed_of_compiled (group : RuleGroup) (record : RuleRecord) (ruleSet : RuleSet)
    (hgroup : group.toRecord = .ok record) (h : Compiled record ruleSet) :
    group.Parsed ruleSet := by
  obtain ⟨hlocales, hnamed⟩ := RuleGroup.toRecord_eq_ok_iff.mp hgroup
  have hexplicit : List.Forall₂ Named group.explicitRules (explicitEntries record.rules) :=
    List.rel_filter (fun _ _ hentry => by simpa using hentry.explicit_iff) hnamed
  exact ⟨h.locales.trans hlocales, forall₂_trans parses_of_named hexplicit h.rules⟩

theorem RuleGroup.Parsed.name_categoryFor {group : RuleGroup} {ruleSet : RuleSet}
    (h : group.Parsed ruleSet) (x : Operand) :
    (ruleSet.categoryFor x).name = group.categoryName x := by
  have hfirst : Option.Rel Parses (group.explicitRules.find? fun named => textHolds named.2 x)
      (ruleSet.rules.find? fun rule => rule.condition.holds x) := by
    refine rel_find? (fun named rule hrule => ?_) h.rules
    rw [textHolds, hrule.condition]
  have hname (named : String × String) (rule : Rule) (hrule : Parses named rule) :
      named.1 = rule.category.name :=
    (Category.name_of_ofName hrule.category).symm
  rw [RuleSet.categoryFor_eq, categoryName, map_eq_of_rel hname hfirst]
  cases ruleSet.rules.find? fun rule => rule.condition.holds x <;> rfl

theorem RuleTable.rel_find?_ruleSet? {groups : List RuleGroup} {records : List RuleRecord}
    {table : RuleTable} (hgroups : groups.mapM RuleGroup.toRecord = .ok records)
    (h : build records = .ok table) (locale : String) :
    Option.Rel RuleGroup.Parsed (groups.find? fun group => group.locales.contains locale)
      (table.ruleSet? locale) := by
  have hrepresents := represents_of_build h
  have hparsed : List.Forall₂ RuleGroup.Parsed groups table.ruleSets :=
    forall₂_trans parsed_of_compiled (mapM_eq_ok_iff_forall₂.mp hgroups) hrepresents.ruleSets
  rw [hrepresents.ruleSet?]
  refine rel_find? (fun group ruleSet hgroup => ?_) hparsed
  rw [hgroup.locales, List.contains_eq_mem]

namespace Bundled

/-- The table of the bundled groups is built. It has a rule set for a locale if a group lists the
locale, and then it is that of the group, and selects the category of the group's first entry whose
condition holds. -/
theorem table_agrees_with_groupFor :
    ∃ built, table = .ok built ∧ ∀ locale,
      ((groupFor? locale).isSome ↔ (built.ruleSet? locale).isSome) ∧
      ∀ group, groupFor? locale = some group →
        ∃ ruleSet, built.ruleSet? locale = some ruleSet ∧ ruleSet.locales = group.locales ∧
          List.Forall₂ Parses group.explicitRules ruleSet.rules ∧
          ∀ x, ∃ category, built.categoryFor locale x = .ok category ∧
            category.name = group.categoryName x := by
  obtain ⟨built, hbuilt⟩ := exists_table
  refine ⟨built, hbuilt, fun locale => ?_⟩
  have hrel : Option.Rel RuleGroup.Parsed (groupFor? locale) (built.ruleSet? locale) :=
    RuleTable.rel_find?_ruleSet? mapM_toRecord (table_eq_build ▸ hbuilt) locale
  refine ⟨isSome_iff_of_rel hrel, fun group hgroup => ?_⟩
  obtain ⟨ruleSet, hruleSet, hparsed⟩ := exists_of_rel hrel hgroup
  refine ⟨ruleSet, hruleSet, hparsed.locales, hparsed.rules, fun x => ?_⟩
  refine ⟨ruleSet.categoryFor x, ?_, hparsed.name_categoryFor x⟩
  rw [RuleTable.categoryFor, hruleSet]

theorem table_agrees_with_groupFor_alias :
    ∃ built ruleSet, table = .ok built ∧ built.ruleSet? "iw" = some ruleSet ∧
      ruleSet.locales = ["he", "iw"] ∧ built.categoryFor "iw" (Operand.ofInt 2) = .ok .two ∧
      built.ruleSet? "tlh" = none := by
  have hebrew : ∃ group, groupFor? "iw" = some group ∧ group.locales = ["he", "iw"] ∧
      group.categoryName (Operand.ofInt 2) = "two" := by
    decide +kernel
  have klingon : groupFor? "tlh" = none := by
    decide +kernel
  obtain ⟨group, hgroup, hlocales, hname⟩ := hebrew
  obtain ⟨built, hbuilt, hagrees⟩ := table_agrees_with_groupFor
  obtain ⟨ruleSet, hruleSet, hgroupLocales, -, hcategory⟩ := (hagrees "iw").2 group hgroup
  obtain ⟨category, hfor, hcategoryName⟩ := hcategory (Operand.ofInt 2)
  have htwo : category = .two := by
    have hread := Category.ofName_name category
    rw [hcategoryName, hname] at hread
    exact Except.ok.inj (hread.symm.trans (Category.ofName_name .two))
  refine ⟨built, ruleSet, hbuilt, hruleSet, hgroupLocales.trans hlocales, htwo ▸ hfor, ?_⟩
  have hnone := (hagrees "tlh").1
  rw [klingon] at hnone
  exact Option.not_isSome_iff_eq_none.mp fun hsome => Bool.false_ne_true (hnone.mpr hsome)

end Bundled

end PluralRules
