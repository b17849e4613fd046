import PluralRules.Proofs.RuleText.Grammar

/-!
How the tokens of a phrase bind. A separator binds looser than every token of the phrases that it
joins, so the tokens of a list fix where its items begin and end.
-/

namespace PluralRules

open Token (Kind)

def Token.Kind.looseness : Kind → Nat
  | number _ | modulo | range => 0
  | comma => 1
  | equal | notEqual => 2
  | word letters => if letters.length = 1 then 0 else if letters = ['a', 'n', 'd'] then 3 else 4

def Tight (bound : Nat) (kinds : List Kind) : Prop :=
  ∀ kind ∈ kinds, kind.looseness < bound

namespace Tight

@[simp] theorem nil (bound : Nat) : Tight bound [] := nofun

@[simp] theorem cons_iff {bound : Nat} {kind : Kind} {kinds : List Kind} :
    Tight bound (kind :: kinds) ↔ kind.looseness < bound ∧ Tight bound kinds :=
  List.forall_mem_cons

theorem notMem {kind : Kind} {kinds : List Kind} (h : Tight kind.looseness kinds) :
    kind ∉ kinds :=
  fun hmem => Nat.lt_irrefl _ (h kind hmem)

theorem mono {bound more : Nat} {kinds : List Kind} (h : Tight bound kinds) (hle : bound ≤ more) :
    Tight more kinds :=
  fun kind hmem => Nat.lt_of_lt_of_le (h kind hmem) hle

theorem append_cons {bound : Nat} {kinds rest : List Kind} {kind : Kind} (h : Tight bound kinds)
    (hkind : kind.looseness < bound) (hrest : Tight bound rest) :
    Tight bound (kinds ++ kind :: rest) := by
  intro other hmem
  rcases List.mem_append.mp hmem with hmem | hmem
  · exact h other hmem
  · rcases List.mem_cons.mp hmem with rfl | hmem
    · exact hkind
    · exact hrest other hmem

theorem intercalate {bound : Nat} {separator : Kind} (hseparator : separator.looseness < bound)
    {phrases : List (List Kind)} (h : ∀ kinds ∈ phrases, Tight bound kinds) :
    Tight bound ([separator].intercalate phrases) := by
  induction phrases with
  | nil => exact nil bound
  | cons kinds phrases ih =>
    obtain ⟨hfirst, hothers⟩ := List.forall_mem_cons.mp h
    cases phrases with
    | nil => simpa using hfirst
    | cons more phrases => simpa using hfirst.append_cons hseparator (ih hothers)

theorem append_cons_inj {bound : Nat} {first first' rest rest' : List Kind} {kind kind' : Kind}
    (hfirst : Tight bound first) (hfirst' : Tight bound first') (hkind : bound ≤ kind.looseness)
    (hkind' : bound ≤ kind'.looseness) (h : first ++ kind :: rest = first' ++ kind' :: rest') :
    first = first' ∧ kind = kind' ∧ rest = rest' := by
  -- If one list ended first, its loose token would stand among the tight ones of the other.
  induction first generalizing first' with
  | nil =>
    cases first' with
    | nil => simpa using h
    | cons other first' =>
      obtain ⟨rfl, -⟩ := List.cons.inj h
      exact absurd (hfirst' kind List.mem_cons_self) (Nat.not_lt.mpr hkind)
  | cons other first ih =>
    cases first' with
    | nil =>
      obtain ⟨rfl, -⟩ := List.cons.inj h
      exact absurd (hfirst other List.mem_cons_self) (Nat.not_lt.mpr hkind')
    | cons other' first' =>
      obtain ⟨rfl, htail⟩ := List.cons.inj h
      obtain ⟨rfl, hrest⟩ := ih (fun k hk => hfirst k (List.mem_cons_of_mem _ hk))
        (fun k hk => hfirst' k (List.mem_cons_of_mem _ hk)) htail
      exact ⟨rfl, hrest⟩

end Tight

namespace Grammar

theorem Item.tight {kinds : List Kind} {item : RangeItem} (h : Item kinds item) :
    Tight 1 kinds := by
  cases h <;> simp [Kind.looseness]

theorem Expression.tight {kinds : List Kind} {expression : PluralRules.Expression}
    (h : Expression kinds expression) : Tight 1 kinds := by
  cases h <;> simp [Kind.looseness]

theorem Separated.tight {α : Type} {separator : Kind} {Phrase : List Kind → α → Prop}
    {bound : Nat} (hseparator : separator.looseness < bound)
    (hphrase : ∀ kinds a, Phrase kinds a → Tight bound kinds) {kinds : List Kind} {as : List α}
    (h : Separated separator Phrase kinds as) : Tight bound kinds := by
  induction h with
  | last ha => exact hphrase _ _ ha
  | more ha _ ih => exact (hphrase _ _ ha).append_cons hseparator ih

theorem Relation.tight {kinds : List Kind} {relation : PluralRules.Relation}
    (h : Relation kinds relation) : Tight 3 kinds := by
  cases h with
  | mk hleft hsign hright =>
    have hranges : Tight 3 _ := hright.tight (by decide) fun _ _ hitem =>
      hitem.tight.mono (by decide)
    exact (hleft.tight.mono (by decide)).append_cons (by cases hsign <;> decide) hranges

theorem Conjunction.tight {kinds : List Kind} {relations : List PluralRules.Relation}
    (h : Conjunction kinds relations) : Tight 4 kinds :=
  Separated.tight (by decide) (fun _ _ hrelation => hrelation.tight.mono (by decide)) h

section Separated

variable {α : Type} {separator : Kind} {Phrase : List Kind → α → Prop}

theorem separated_of_notMem_iff {kinds : List Kind} {as : List α} (h : separator ∉ kinds) :
    Separated separator Phrase kinds as ↔ ∃ a, Phrase kinds a ∧ as = [a] := by
  constructor
  · rintro (hlast | _)
    · exact ⟨_, hlast, rfl⟩
    · exact absurd (by simp) h
  · rintro ⟨a, ha, rfl⟩
    exact .last ha

theorem separated_append_cons_iff
    (hphrase : ∀ kinds a, Phrase kinds a → Tight separator.looseness kinds)
    {first rest : List Kind} {as : List α} (h : Tight separator.looseness first) :
    Separated separator Phrase (first ++ separator :: rest) as ↔
      ∃ a others, Phrase first a ∧ Separated separator Phrase rest others ∧ as = a :: others := by
  constructor
  · intro hseparated
    generalize hkinds : first ++ separator :: rest = kinds at hseparated
    cases hseparated with
    | last ha => exact absurd (hkinds ▸ by simp) (hphrase _ _ ha).notMem
    | more ha hothers =>
      obtain ⟨rfl, -, rfl⟩ :=
        h.append_cons_inj (hphrase _ _ ha) (Nat.le_refl _) (Nat.le_refl _) hkinds
      exact ⟨_, _, ha, hothers, rfl⟩
  · rintro ⟨a, others, ha, hothers, rfl⟩
    exact .more ha hothers

end Separated

end Grammar

end PluralRules
