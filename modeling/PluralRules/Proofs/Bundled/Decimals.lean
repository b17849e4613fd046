import PluralRules.Proofs.Bundled.Sections
import PluralRules.Proofs.Condition.IntegerReading
import PluralRules.Proofs.Condition.Partial

/-!
The bundled rules on numbers with a nonzero fraction digit. The samples in the texts read a range of
`n` as integers, which no such number is, but the rules compare it with the bounds. For most locales
this selects the same category. The others depart from the samples by the integer part alone.
-/

namespace PluralRules

def Relation.onPart (k : ℕ) (relation : Relation) : Option Bool :=
  match relation.expression.symbol with
  | .n => some (relation.ranges.any (RangeItem.spans (relation.expression.wholeValue k 0)) !=
      relation.negated)
  | .i => some (relation.admits k 0)
  | .v => relation.onDecimals
  | .w | .f | .t | .e => none

def Relation.onPartOfIntegers (k : ℕ) (relation : Relation) : Option Bool :=
  if relation.expression.symbol = .n then some relation.negated else relation.onPart k

def Relation.keepsToIntegers (k : ℕ) (relation : Relation) : Bool :=
  relation.expression.symbol ≠ .n ||
    !relation.ranges.any (RangeItem.spans (relation.expression.wholeValue k 0))

def Condition.keepsToIntegers (k : ℕ) (condition : Condition) : Bool :=
  condition.relations.all (Relation.keepsToIntegers k) ||
    condition.refuses (Relation.onPart k) && condition.refuses (Relation.onPartOfIntegers k) ||
    condition.accepts (Relation.onPart k) && condition.accepts (Relation.onPartOfIntegers k)

def RuleSet.answersOnPart (k : ℕ) (category? : Option Category) (ruleSet : RuleSet) : Bool :=
  match category? with
  | some category => ruleSet.settles (Relation.onPart k) category
  | none => ruleSet.rules.all fun rule => rule.condition.keepsToIntegers k

structure Relation.Free (relation : Relation) (x : Operand) : Prop where
  coarse : relation.isCoarse = true
  wellFormed : relation.expression.WellFormed
  untied : ¬relation.Tied x

section

variable {text : String} {x : Operand} {relation : Relation} {condition : Condition}
  {ruleSet : RuleSet} {b : Bool}

theorem Relation.admits_part (hx : Operand.ofLiteral text = .ok x)
    (hi : relation.expression.symbol = .i) : relation.admits x.i.toNat 0 = relation.holds x := by
  have hpart := Operand.natCast_part hx
  have hvalue : relation.expression.quantity x =
      .integer (relation.expression.wholeValue x.i.toNat 0) := by
    obtain ⟨⟨symbol, modulus?⟩, negated, ranges⟩ := relation
    obtain rfl : symbol = .i := hi
    cases modulus? with
    | none => exact congrArg _ hpart.symm
    | some modulus =>
      have hresidue : x.i % modulus.toNat = (x.i.toNat % modulus.toNat : ℕ) := by
        rw [Int.natCast_mod, hpart]
      exact congrArg _ hresidue
  rw [holds, admits, hvalue]
  simp only [RangeItem.contains_eq_admits]

theorem Relation.spans_representative (h : relation.isCoarse = true)
    (hn : relation.expression.symbol = .n) (k : ℕ) :
    relation.ranges.any (RangeItem.spans (relation.expression.wholeValue (representative k) 0)) =
      relation.ranges.any (RangeItem.spans (relation.expression.wholeValue k 0)) := by
  obtain ⟨⟨symbol, modulus?⟩, negated, ranges⟩ := relation
  obtain rfl : symbol = .n := hn
  cases modulus? with
  | none => exact any_congr_above RangeItem.spans_eq_false h (representative_eq_or k)
  | some modulus => exact any_mod_representative RangeItem.spans_eq_false h k

theorem Relation.onPart_representative (h : relation.isCoarse = true) (k : ℕ) :
    relation.onPart (representative k) = relation.onPart k := by
  unfold onPart
  split
  case h_1 hn => rw [spans_representative h hn]
  case h_2 hi => exact congrArg some (relation.admits_representative h k 0)
  all_goals rfl

theorem Relation.holds_of_onPart (hx : Operand.ofLiteral text = .ok x) (ht : x.t ≠ 0)
    (hfree : relation.Free x) (h : relation.onPart (representative x.i.toNat) = some b) :
    relation.holds x = b := by
  rw [onPart_representative hfree.coarse] at h
  unfold onPart at h
  split at h
  case h_1 hn =>
    rw [holds_eq_spans hx ht hn hfree.wellFormed hfree.untied]
    exact Option.some.inj h
  case h_2 hi =>
    rw [← admits_part hx hi]
    exact Option.some.inj h
  case h_3 =>
    have hnumeral : (Numeral.literal text).operand = .ok x := hx
    have hv : 0 < x.v := Nat.pos_of_ne_zero fun hv => ht (Operand.t_eq_zero_of_v hnumeral hv)
    exact relation.holds_of_onDecimals h hv
  all_goals cases h

theorem Relation.holdsOnIntegers_of_onPartOfIntegers (hx : Operand.ofLiteral text = .ok x)
    (ht : x.t ≠ 0) (hfree : relation.Free x)
    (h : relation.onPartOfIntegers (representative x.i.toNat) = some b) :
    relation.holdsOnIntegers x = b := by
  unfold onPartOfIntegers at h
  split at h
  case isTrue hn =>
    rw [holdsOnIntegers_eq_negated hx ht hn hfree.wellFormed]
    exact Option.some.inj h
  case isFalse hn =>
    rw [holdsOnIntegers_of_ne hn]
    exact holds_of_onPart hx ht hfree h

theorem Relation.holds_eq_holdsOnIntegers (hx : Operand.ofLiteral text = .ok x) (ht : x.t ≠ 0)
    (hfree : relation.Free x)
    (h : relation.keepsToIntegers (representative x.i.toNat) = true) :
    relation.holds x = relation.holdsOnIntegers x := by
  by_cases hn : relation.expression.symbol = .n
  · have hnone : relation.ranges.any
        (RangeItem.spans (relation.expression.wholeValue x.i.toNat 0)) = false := by
      rw [← spans_representative hfree.coarse hn]
      simpa [keepsToIntegers, hn] using h
    rw [holdsOnIntegers_eq_negated hx ht hn hfree.wellFormed,
      holds_eq_spans hx ht hn hfree.wellFormed hfree.untied, hnone, Bool.false_bne]
  · rw [holdsOnIntegers_of_ne hn]

theorem Condition.reports_onPart (hx : Operand.ofLiteral text = .ok x) (ht : x.t ≠ 0)
    (hfree : ∀ relation ∈ condition.relations, relation.Free x) :
    condition.Reports (Relation.onPart (representative x.i.toNat)) (·.holds x) :=
  fun relation hrelation _ => Relation.holds_of_onPart hx ht (hfree relation hrelation)

theorem Condition.reports_onPartOfIntegers (hx : Operand.ofLiteral text = .ok x) (ht : x.t ≠ 0)
    (hfree : ∀ relation ∈ condition.relations, relation.Free x) :
    condition.Reports (Relation.onPartOfIntegers (representative x.i.toNat))
      (·.holdsOnIntegers x) :=
  fun relation hrelation _ =>
    Relation.holdsOnIntegers_of_onPartOfIntegers hx ht (hfree relation hrelation)

theorem Condition.holdsBy_eq_of_keepsToIntegers (hx : Operand.ofLiteral text = .ok x)
    (ht : x.t ≠ 0) (hcondition : condition.WellFormed)
    (hfree : ∀ relation ∈ condition.relations, relation.Free x)
    (h : condition.keepsToIntegers (representative x.i.toNat) = true) :
    condition.holdsBy (·.holds x) = condition.holdsBy (·.holdsOnIntegers x) := by
  have hcode := reports_onPart hx ht hfree
  have hintegers := reports_onPartOfIntegers hx ht hfree
  rw [keepsToIntegers, Bool.or_eq_true, Bool.or_eq_true, Bool.and_eq_true, Bool.and_eq_true] at h
  -- A relation that the readings tell apart does no harm where known ones decide the condition.
  rcases h with (hkeeps | ⟨hrefuses, hrefuses'⟩) | ⟨haccepts, haccepts'⟩
  · exact holdsBy_congr fun relation hrelation =>
      Relation.holds_eq_holdsOnIntegers hx ht (hfree relation hrelation)
        (List.all_eq_true.mp hkeeps relation hrelation)
  · rw [holdsBy_eq_false_of_refuses hrefuses hcode hcondition,
      holdsBy_eq_false_of_refuses hrefuses' hintegers hcondition]
  · rw [holdsBy_of_accepts haccepts hcode, holdsBy_of_accepts haccepts' hintegers]

theorem RuleSet.categoryFor_of_answersOnPart {category? : Option Category}
    (hx : Operand.ofLiteral text = .ok x) (ht : x.t ≠ 0)
    (hrules : ∀ rule ∈ ruleSet.rules, rule.condition.WellFormed)
    (hfree : ∀ rule ∈ ruleSet.rules, ∀ relation ∈ rule.condition.relations, relation.Free x)
    (h : ruleSet.answersOnPart (representative x.i.toNat) category? = true) :
    ruleSet.categoryFor x = category?.getD (ruleSet.categoryBy (·.holdsOnIntegers x)) := by
  rw [← categoryBy_holds]
  cases category? with
  | none =>
    exact categoryBy_congr fun rule hrule =>
      Condition.holdsBy_eq_of_keepsToIntegers hx ht (hrules rule hrule) (hfree rule hrule)
        (List.all_eq_true.mp h rule hrule)
  | some category =>
    exact categoryBy_of_settles h
      (fun rule hrule => Condition.reports_onPart hx ht (hfree rule hrule)) hrules

end

namespace Bundled

def partIn (modulus? : Option UInt32) (ranges : List RangeItem) : Relation :=
  ⟨⟨.i, modulus?⟩, false, ranges⟩

def partNotIn (modulus? : Option UInt32) (ranges : List RangeItem) : Relation :=
  ⟨⟨.i, modulus?⟩, true, ranges⟩

/-- The locales in which a range holds numbers between its integers, with the categories that this
gives them and the integer parts of the numbers. -/
def departures : List RuleSet := [
  { locales := ["ak", "bho", "guw", "ln", "mg", "nso", "pa", "ti", "wa"]
    rules := [⟨.one, ⟨[[partIn none [.single 0]]]⟩⟩] },
  { locales := ["tzm"]
    rules := [⟨.one, ⟨[[partIn none [.single 0, .range 11 98]]]⟩⟩] },
  { locales := ["lv", "prg"]
    rules := [⟨.zero, ⟨[[partIn (some 100) [.range 11 18]]]⟩⟩] },
  { locales := ["shi"]
    rules := [⟨.few, ⟨[[partIn none [.range 2 9]]]⟩⟩] },
  { locales := ["gd"]
    rules := [⟨.few, ⟨[[partIn none [.range 3 9, .range 13 18]]]⟩⟩] },
  { locales := ["be"]
    rules := [
      ⟨.few, ⟨[[partIn (some 10) [.range 2 3], partNotIn (some 100) [.range 12 13]]]⟩⟩,
      ⟨.many, ⟨[[partIn (some 10) [.range 5 8]], [partIn (some 100) [.range 11 13]]]⟩⟩] },
  { locales := ["lt"]
    rules := [⟨.few, ⟨[[partIn (some 10) [.range 2 8], partNotIn (some 100) [.range 11 18]]]⟩⟩] },
  { locales := ["ga"]
    rules := [⟨.few, ⟨[[partIn none [.range 3 5]]]⟩⟩, ⟨.many, ⟨[[partIn none [.range 7 9]]]⟩⟩] },
  { locales := ["ar", "ars"]
    rules := [
      ⟨.few, ⟨[[partIn (some 100) [.range 3 9]]]⟩⟩,
      ⟨.many, ⟨[[partIn (some 100) [.range 11 98]]]⟩⟩] }]

def departure? (locale : String) (x : Operand) : Option Category :=
  (departures.find? fun ruleSet => locale ∈ ruleSet.locales).bind fun ruleSet =>
    (ruleSet.rules.find? fun rule => rule.condition.holds x).map Rule.category

end Bundled

namespace SpelledGroup

def hasDepartures (spelled : SpelledGroup) (departures : RuleSet) : Bool :=
  departures.locales.map String.toList = spelled.locales

def departure? (spelled : SpelledGroup) (k : ℕ) : Option Category :=
  (Bundled.departures.find? spelled.hasDepartures).bind fun ruleSet =>
    (ruleSet.rules.find? fun rule => rule.condition.admits k 0).map Rule.category

structure Departs (spelled : SpelledGroup) : Prop where
  apart : ∀ departures ∈ Bundled.departures, spelled.hasDepartures departures = false →
    ∀ name ∈ spelled.locales, name ∉ departures.locales.map String.toList
  samples : ∀ k ∈ integerSamples, spelled.ruleSet.answersOnPart k (spelled.departure? k) = true
  bounds : ∀ rule ∈ spelled.ruleSet.rules, ∀ relation ∈ rule.condition.relations,
    relation.expression.symbol = .n → relation.hasSmallBounds = true

instance (spelled : SpelledGroup) : Decidable spelled.Departs :=
  decidable_of_iff (_ ∧ _ ∧ _)
    ⟨fun ⟨h, h', h''⟩ => ⟨h, h', h''⟩, fun ⟨h, h', h''⟩ => ⟨h, h', h''⟩⟩

end SpelledGroup

section

variable {text : String} {x : Operand}

theorem Condition.admits_part {condition : Condition} (hx : Operand.ofLiteral text = .ok x)
    (hnot : condition.isAlwaysTrue = false)
    (hi : ∀ relation ∈ condition.relations, relation.expression.symbol = .i) :
    condition.admits x.i.toNat 0 = condition.holds x := by
  rw [holds, hnot, Bool.false_or]
  exact any_all_congr fun relation hrelation => Relation.admits_part hx (hi relation hrelation)

theorem ofList_mem_iff {name : List Char} {locales : List String} :
    String.ofList name ∈ locales ↔ name ∈ locales.map String.toList := by
  rw [List.mem_map]
  constructor
  · intro h
    exact ⟨_, h, String.toList_ofList⟩
  · rintro ⟨locale, hlocale, rfl⟩
    rwa [String.ofList_toList]

theorem Bundled.departures_onPart : ∀ departures ∈ Bundled.departures,
    ∀ rule ∈ departures.rules, rule.condition.isCoarse = true ∧
      rule.condition.isAlwaysTrue = false ∧
      ∀ relation ∈ rule.condition.relations, relation.expression.symbol = .i := by
  decide +kernel

theorem SpelledGroup.Departs.departure?_eq {spelled : SpelledGroup} (h : spelled.Departs)
    (hx : Operand.ofLiteral text = .ok x) {name : List Char} (hname : name ∈ spelled.locales) :
    Bundled.departure? (String.ofList name) x =
      spelled.departure? (representative x.i.toNat) := by
  have hlocales : ∀ departures ∈ Bundled.departures,
      decide (String.ofList name ∈ departures.locales) = spelled.hasDepartures departures := by
    intro departures hdepartures
    cases hhas : spelled.hasDepartures departures with
    | true =>
      have hsame : departures.locales.map String.toList = spelled.locales :=
        of_decide_eq_true hhas
      exact decide_eq_true (ofList_mem_iff.mpr (hsame ▸ hname))
    | false =>
      exact decide_eq_false (mt ofList_mem_iff.mp (h.apart departures hdepartures hhas name hname))
  rw [Bundled.departure?, departure?, List.find?_congr hlocales]
  cases hfind : Bundled.departures.find? spelled.hasDepartures with
  | none => rfl
  | some departures =>
    have hrules : ∀ rule ∈ departures.rules,
        rule.condition.holds x = rule.condition.admits (representative x.i.toNat) 0 := by
      intro rule hrule
      obtain ⟨hcoarse, hnot, hi⟩ :=
        Bundled.departures_onPart departures (List.mem_of_find?_eq_some hfind) rule hrule
      rw [← Condition.admits_part hx hnot hi]
      exact (Condition.admits_representative hcoarse x.i.toNat 0).symm
    rw [Option.bind_some, Option.bind_some, List.find?_congr hrules]

end

namespace Bundled

theorem departs_of_mem : ∀ spelled ∈ spelledGroups.val, spelled.Departs := by
  decide +kernel

section

variable {spelled : SpelledGroup} {rule : Rule} {relation : Relation}

theorem wellFormed_expression (hrule : rule ∈ spelled.ruleSet.rules)
    (hrelation : relation ∈ rule.condition.relations) : relation.expression.WellFormed :=
  ((SpelledGroup.wellFormed_of_mem_ruleSet hrule).of_mem_relations hrelation).1

theorem free_of_not_tied (hspelled : spelled ∈ spelledGroups.val)
    (hrule : rule ∈ spelled.ruleSet.rules) (hrelation : relation ∈ rule.condition.relations)
    {x : Operand} (huntied : ¬relation.Tied x) : relation.Free x := by
  have hcoarse := (isExclusive_of_mem spelled hspelled).coarse rule hrule
  exact ⟨Condition.isCoarse_of_mem_relations hcoarse hrelation,
    wellFormed_expression hrule hrelation, huntied⟩

end

/-- On a number with a nonzero fraction digit, the bundled rules of a locale select the category
that they do if ranges of `n` stand for integers, unless the locale departs from it by the integer
part. This is so if no bound has the same double as the number, which takes it many digits. -/
theorem decimals_read_as_integers_or_depart :
    ∃ built, table = .ok built ∧ ∀ group ∈ cardinalGroups, ∃ record ruleSet,
      group.toRecord = .ok record ∧ Compiled record ruleSet ∧
      ∀ locale ∈ group.locales, built.ruleSet? locale = some ruleSet ∧
        ∀ text x, Operand.ofLiteral text = .ok x → x.t ≠ 0 →
          (∀ rule ∈ ruleSet.rules, ∀ relation ∈ rule.condition.relations,
            relation.expression.symbol = .n → relation.holdsOnIntegers x = relation.negated) ∧
          ((∀ rule ∈ ruleSet.rules, ∀ relation ∈ rule.condition.relations, ¬relation.Tied x) →
            built.categoryFor locale x =
              .ok ((departure? locale x).getD (ruleSet.categoryBy (·.holdsOnIntegers x)))) ∧
          ((min x.i 99 + 1) * 10 ^ x.w ≤ 2 ^ 52 →
            ∀ rule ∈ ruleSet.rules, ∀ relation ∈ rule.condition.relations, ¬relation.Tied x) := by
  obtain ⟨built, hbuilt⟩ := exists_table
  refine ⟨built, hbuilt, fun group hgroup => ?_⟩
  rw [← spelledGroups.property] at hgroup
  obtain ⟨spelled, hspelled, rfl⟩ := List.mem_map.mp hgroup
  have hdeparts := departs_of_mem spelled hspelled
  refine ⟨spelled.record, spelled.ruleSet, spelled.toRecord_group,
    (isValid_of_mem spelled hspelled).compiled, fun locale hlocale => ?_⟩
  obtain ⟨name, hname, rfl⟩ := List.mem_map.mp hlocale
  refine ⟨ruleSet?_of_mem hbuilt hspelled hname, fun text x hx ht => ⟨?_, ?_, ?_⟩⟩
  · intro rule hrule relation hrelation hn
    exact relation.holdsOnIntegers_eq_negated hx ht hn (wellFormed_expression hrule hrelation)
  · intro huntied
    rw [categoryFor_of_mem hbuilt hspelled hname, hdeparts.departure?_eq hx hname]
    refine congrArg _ (RuleSet.categoryFor_of_answersOnPart hx ht ?_ ?_ ?_)
    · exact fun rule => SpelledGroup.wellFormed_of_mem_ruleSet
    · exact fun rule hrule relation hrelation =>
        free_of_not_tied hspelled hrule hrelation (huntied rule hrule relation hrelation)
    · exact hdeparts.samples _ (representative_mem _)
  · intro hfew rule hrule relation hrelation htied
    have hsmall := hdeparts.bounds rule hrule relation hrelation htied.1
    exact relation.not_tied hx ht (wellFormed_expression hrule hrelation) hsmall hfew htied

theorem decimals_read_as_integers_or_depart_belarusian :
    ∃ x y built, Operand.ofLiteral "2.5" = .ok x ∧ Operand.ofLiteral "4.5" = .ok y ∧
      table = .ok built ∧ built.categoryFor "be" x = .ok .few ∧
      built.categoryFor "be" y = .ok .other := by
  have hx : Operand.ofLiteral "2.5" = .ok (.ofDigits ['2'] ['5']) := by decide +kernel
  have hy : Operand.ofLiteral "4.5" = .ok (.ofDigits ['4'] ['5']) := by decide +kernel
  have hbelarusian : ∃ spelled ∈ spelledGroups.val, ['b', 'e'] ∈ spelled.locales ∧
      spelled.ruleSet.categoryBy (·.holdsOnIntegers (.ofDigits ['4'] ['5'])) = .other := by
    decide +kernel
  obtain ⟨spelled, hspelled, hname, hother⟩ := hbelarusian
  obtain ⟨built, hbuilt, hall⟩ := decimals_read_as_integers_or_depart
  obtain ⟨record, ruleSet, -, -, hlocales⟩ := hall spelled.group
    (spelledGroups.property ▸ List.mem_map_of_mem hspelled)
  obtain ⟨hruleSet, hdecimals⟩ := hlocales "be" (List.mem_map_of_mem hname)
  have hsame : ruleSet = spelled.ruleSet :=
    Option.some.inj (hruleSet.symm.trans (ruleSet?_of_mem hbuilt hspelled hname))
  obtain ⟨-, hfew, huntied⟩ := hdecimals _ _ hx (by decide)
  obtain ⟨-, hother', huntied'⟩ := hdecimals _ _ hy (by decide)
  refine ⟨_, _, built, hx, hy, hbuilt, ?_, ?_⟩
  · have hdeparts : departure? "be" (.ofDigits ['2'] ['5']) = some .few := by decide +kernel
    rw [hfew (huntied (by decide +kernel)), hdeparts, Option.getD_some]
  · have hkeeps : departure? "be" (.ofDigits ['4'] ['5']) = none := by decide +kernel
    rw [hother' (huntied' (by decide +kernel)), hkeeps, Option.getD_none, hsame, hother]

theorem exists_ruleSet?_of_spelled {built : RuleTable} (hbuilt : table = .ok built)
    {name : List Char} {x : Operand} {selected meant : Category}
    (h : ∃ spelled ∈ spelledGroups.val, name ∈ spelled.locales ∧
      spelled.ruleSet.categoryFor x = selected ∧
      spelled.ruleSet.categoryBy (·.holdsOnIntegers x) = meant) :
    ∃ ruleSet, built.ruleSet? (String.ofList name) = some ruleSet ∧
      built.categoryFor (String.ofList name) x = .ok selected ∧
      ruleSet.categoryBy (·.holdsOnIntegers x) = meant := by
  obtain ⟨spelled, hspelled, hname, rfl, hmeant⟩ := h
  exact ⟨spelled.ruleSet, ruleSet?_of_mem hbuilt hspelled hname,
    categoryFor_of_mem hbuilt hspelled hname x, hmeant⟩

/-- A half lies between the integers of Akan, and in Afrikaans the double of a number below 1 is
that of 1. -/
theorem half_departs_and_last_fraction_ties :
    ∃ built, table = .ok built ∧
      (∃ x ruleSet, Operand.ofLiteral "0.5" = .ok x ∧ x.t ≠ 0 ∧
        built.ruleSet? "ak" = some ruleSet ∧ built.categoryFor "ak" x = .ok .one ∧
        ruleSet.categoryBy (·.holdsOnIntegers x) = .other) ∧
      ∃ x ruleSet, Operand.ofLiteral "0.99999999999999999" = .ok x ∧ x.t ≠ 0 ∧
        built.ruleSet? "af" = some ruleSet ∧ built.categoryFor "af" x = .ok .one ∧
        ruleSet.categoryBy (·.holdsOnIntegers x) = .other := by
  obtain ⟨built, hbuilt⟩ := exists_table
  refine ⟨built, hbuilt, ?_, ?_⟩
  · let x : Operand := .ofDigits ['0'] ['5']
    have hakan : ∃ spelled ∈ spelledGroups.val, ['a', 'k'] ∈ spelled.locales ∧
        spelled.ruleSet.categoryFor x = .one ∧
        spelled.ruleSet.categoryBy (·.holdsOnIntegers x) = .other := by decide +kernel
    obtain ⟨ruleSet, hcategories⟩ := exists_ruleSet?_of_spelled hbuilt hakan
    exact ⟨x, ruleSet, by decide +kernel, by decide, hcategories⟩
  · let x : Operand := .ofDigits ['0'] (List.replicate 17 '9')
    have hafrikaans : ∃ spelled ∈ spelledGroups.val, ['a', 'f'] ∈ spelled.locales ∧
        spelled.ruleSet.categoryFor x = .one ∧
        spelled.ruleSet.categoryBy (·.holdsOnIntegers x) = .other := by decide +kernel
    obtain ⟨ruleSet, hcategories⟩ := exists_ruleSet?_of_spelled hbuilt hafrikaans
    exact ⟨x, ruleSet, by decide +kernel, by decide, hcategories⟩

end Bundled

end PluralRules
