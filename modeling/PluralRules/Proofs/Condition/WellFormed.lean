import PluralRules.Proofs.RuleText.Grammar

/-!
Well-formed conditions: no list in them is empty, no modulus is zero and no range is upside down.
Every condition that the grammar derives is well formed.
-/

namespace PluralRules

def Expression.WellFormed (expression : Expression) : Prop :=
  ∀ modulus ∈ expression.modulus?, 0 < modulus.toNat

def RangeItem.WellFormed : RangeItem → Prop
  | single _ => True
  | range low high => low.toNat ≤ high.toNat

def Relation.WellFormed (relation : Relation) : Prop :=
  relation.expression.WellFormed ∧ relation.ranges ≠ [] ∧
    ∀ item ∈ relation.ranges, item.WellFormed

def Condition.WellFormed (condition : Condition) : Prop :=
  condition.alternatives ≠ [] ∧ ∀ relations ∈ condition.alternatives,
    relations ≠ [] ∧ ∀ relation ∈ relations, relation.WellFormed

instance : (expression : Expression) → Decidable expression.WellFormed
  | ⟨_, none⟩ => isTrue nofun
  | ⟨_, some modulus⟩ =>
    decidable_of_iff (0 < modulus.toNat) (by simp [Expression.WellFormed])

instance : (item : RangeItem) → Decidable item.WellFormed
  | .single _ => inferInstanceAs (Decidable True)
  | .range low high => inferInstanceAs (Decidable (low.toNat ≤ high.toNat))

instance (relation : Relation) : Decidable relation.WellFormed :=
  inferInstanceAs (Decidable (_ ∧ _ ∧ _))

instance (condition : Condition) : Decidable condition.WellFormed :=
  inferInstanceAs (Decidable (_ ∧ _))

theorem Condition.WellFormed.of_mem_relations {condition : Condition} (h : condition.WellFormed)
    {relation : Relation} (hrelation : relation ∈ condition.relations) : relation.WellFormed := by
  obtain ⟨relations, hrelations, hmem⟩ := List.mem_flatten.mp hrelation
  exact (h.2 relations hrelations).2 relation hmem

namespace Grammar

open Token (Kind)

theorem Item.wellFormed {kinds : List Kind} {item : RangeItem} (h : Item kinds item) :
    item.WellFormed := by
  cases h with
  | single => trivial
  | range _ _ hle => exact hle

theorem Expression.wellFormed {kinds : List Kind} {expression : PluralRules.Expression}
    (h : Expression kinds expression) : expression.WellFormed := by
  cases h with
  | plain => simp [PluralRules.Expression.WellFormed]
  | reduced _ hmodulus =>
    rintro modulus ⟨⟩
    exact hmodulus.2

theorem Separated.forall {α : Type} {separator : Kind} {Phrase : List Kind → α → Prop}
    {kinds : List Kind} {as : List α} (h : Separated separator Phrase kinds as) {Good : α → Prop}
    (hgood : ∀ kinds a, Phrase kinds a → Good a) : as ≠ [] ∧ ∀ a ∈ as, Good a := by
  induction h with
  | last hphrase => simpa using hgood _ _ hphrase
  | more hphrase _ ih => simpa using ⟨hgood _ _ hphrase, ih.2⟩

theorem Relation.wellFormed {kinds : List Kind} {relation : PluralRules.Relation}
    (h : Relation kinds relation) : relation.WellFormed := by
  cases h with
  | mk hexpression _ hranges =>
    exact ⟨hexpression.wellFormed, hranges.forall fun _ _ => Item.wellFormed⟩

theorem Condition.wellFormed {kinds : List Kind} {condition : PluralRules.Condition}
    (h : Condition kinds condition) : condition.WellFormed :=
  Separated.forall h fun _ _ hrelations => Separated.forall hrelations fun _ _ =>
    Relation.wellFormed

end Grammar

end PluralRules
