import Mathlib.Data.List.Find
import PluralRules.Proofs.Condition.Whole
import PluralRules.Proofs.Table.Agreement

/-!
Conditions of which only some relations are known. The others leave a condition open, unless each
alternative has a known relation that does not hold, or all relations of one are known to hold.
-/

namespace PluralRules

namespace Condition

def holdsBy (reads : Relation → Bool) (condition : Condition) : Bool :=
  condition.isAlwaysTrue || condition.alternatives.any fun relations => relations.all reads

def refuses (known : Relation → Option Bool) (condition : Condition) : Bool :=
  condition.alternatives.all fun relations =>
    relations.any fun relation => known relation = some false

def accepts (known : Relation → Option Bool) (condition : Condition) : Bool :=
  condition.alternatives.any fun relations =>
    relations.all fun relation => known relation = some true

def Reports (condition : Condition) (known : Relation → Option Bool) (reads : Relation → Bool) :
    Prop :=
  ∀ relation ∈ condition.relations, ∀ b, known relation = some b → reads relation = b

variable {condition : Condition} {known : Relation → Option Bool} {reads others : Relation → Bool}

theorem holdsBy_eq_false_of_refuses (h : condition.refuses known = true)
    (hknown : condition.Reports known reads) (hcondition : condition.WellFormed) :
    condition.holdsBy reads = false := by
  have hnot : condition.isAlwaysTrue = false := by simpa [isAlwaysTrue] using hcondition.1
  rw [holdsBy, hnot, Bool.false_or, List.any_eq_false]
  intro relations hrelations hall
  obtain ⟨relation, hrelation, hfalse⟩ :=
    List.any_eq_true.mp (List.all_eq_true.mp h relations hrelations)
  have hreads := hknown relation (List.mem_flatten_of_mem hrelations hrelation) false
    (of_decide_eq_true hfalse)
  rw [List.all_eq_true.mp hall relation hrelation] at hreads
  cases hreads

theorem holdsBy_of_accepts (h : condition.accepts known = true)
    (hknown : condition.Reports known reads) : condition.holdsBy reads = true := by
  obtain ⟨relations, hrelations, hall⟩ := List.any_eq_true.mp h
  rw [holdsBy, Bool.or_eq_true]
  refine .inr (List.any_eq_true.mpr ⟨relations, hrelations, List.all_eq_true.mpr ?_⟩)
  intro relation hrelation
  exact hknown relation (List.mem_flatten_of_mem hrelations hrelation) true
    (of_decide_eq_true (List.all_eq_true.mp hall relation hrelation))

theorem holdsBy_congr (h : ∀ relation ∈ condition.relations, reads relation = others relation) :
    condition.holdsBy reads = condition.holdsBy others := by
  rw [holdsBy, holdsBy, any_all_congr h]

end Condition

namespace RuleSet

def categoryBy (reads : Relation → Bool) (ruleSet : RuleSet) : Category :=
  ((ruleSet.rules.find? fun rule => rule.condition.holdsBy reads).map Rule.category).getD .other

def settles (known : Relation → Option Bool) (category : Category) (ruleSet : RuleSet) : Bool :=
  match ruleSet.rules.find? fun rule => !rule.condition.refuses known with
  | none => false
  | some rule => rule.condition.accepts known && rule.category = category

variable {ruleSet : RuleSet} {known : Relation → Option Bool} {reads others : Relation → Bool}

theorem categoryBy_holds (ruleSet : RuleSet) (x : Operand) :
    ruleSet.categoryBy (fun relation => relation.holds x) = ruleSet.categoryFor x :=
  (ruleSet.categoryFor_eq x).symm

theorem categoryBy_congr (h : ∀ rule ∈ ruleSet.rules,
    rule.condition.holdsBy reads = rule.condition.holdsBy others) :
    ruleSet.categoryBy reads = ruleSet.categoryBy others := by
  rw [categoryBy, categoryBy, List.find?_congr h]

theorem categoryBy_of_settles {category : Category} (h : ruleSet.settles known category = true)
    (hknown : ∀ rule ∈ ruleSet.rules, rule.condition.Reports known reads)
    (hrules : ∀ rule ∈ ruleSet.rules, rule.condition.WellFormed) :
    ruleSet.categoryBy reads = category := by
  unfold settles at h
  split at h
  case h_1 => cases h
  case h_2 rule hfind =>
    rw [Bool.and_eq_true, decide_eq_true_eq] at h
    obtain ⟨hrefuses, before, after, hsplit, hbefore⟩ := List.find?_eq_some_iff_append.mp hfind
    have hmem : rule ∈ ruleSet.rules := List.mem_of_find?_eq_some hfind
    -- The rules before this one are refused, so it is the first that holds.
    have hfirst : ruleSet.rules.find? (fun rule => rule.condition.holdsBy reads) = some rule := by
      refine List.find?_eq_some_iff_append.mpr ⟨?_, before, after, hsplit, fun other hother => ?_⟩
      · exact Condition.holdsBy_of_accepts h.1 (hknown rule hmem)
      · have hother' : other ∈ ruleSet.rules := hsplit ▸ List.mem_append_left _ hother
        have hnot := hbefore other hother
        rw [Bool.not_not] at hnot
        rw [Condition.holdsBy_eq_false_of_refuses hnot (hknown other hother')
          (hrules other hother'), Bool.not_false]
    rw [categoryBy, hfirst, ← h.2]
    rfl

end RuleSet

end PluralRules
