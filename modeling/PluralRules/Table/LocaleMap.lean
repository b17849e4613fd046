/-!
Maps from locales. The bindings are in the order of the locales by code point, one for each locale;
a locale that is bound again loses its old value.
-/

namespace PluralRules

structure LocaleMap (α : Type) where
  bindings : List (String × α)
  ordered : bindings.Pairwise fun a b => a.1 < b.1
deriving DecidableEq

namespace LocaleMap

variable {α : Type}

def insertBinding (locale : String) (value : α) : List (String × α) → List (String × α)
  | [] => [(locale, value)]
  | (key, old) :: bindings =>
    if locale < key then (locale, value) :: (key, old) :: bindings
    else if locale = key then (locale, value) :: bindings
    else (key, old) :: insertBinding locale value bindings

theorem eq_or_mem_of_mem_insertBinding {locale : String} {value : α}
    {bindings : List (String × α)} {binding : String × α}
    (h : binding ∈ insertBinding locale value bindings) :
    binding = (locale, value) ∨ binding ∈ bindings := by
  induction bindings with
  | nil => exact .inl (List.mem_singleton.mp h)
  | cons head bindings ih =>
    unfold insertBinding at h
    split at h
    · exact List.mem_cons.mp h
    · split at h
      · exact (List.mem_cons.mp h).imp_right (List.mem_cons_of_mem head)
      · rcases List.mem_cons.mp h with rfl | h
        · exact .inr List.mem_cons_self
        · exact (ih h).imp_right (List.mem_cons_of_mem head)

theorem ordered_insertBinding (locale : String) (value : α) {bindings : List (String × α)}
    (h : bindings.Pairwise fun a b => a.1 < b.1) :
    (insertBinding locale value bindings).Pairwise fun a b => a.1 < b.1 := by
  induction bindings with
  | nil => exact List.pairwise_singleton _ _
  | cons head bindings ih =>
    obtain ⟨key, old⟩ := head
    obtain ⟨hkey, hbindings⟩ := List.pairwise_cons.mp h
    unfold insertBinding
    by_cases hlt : locale < key
    · rw [if_pos hlt]
      refine List.pairwise_cons.mpr ⟨fun binding hbinding => ?_, h⟩
      rcases List.mem_cons.mp hbinding with rfl | hbinding
      · exact hlt
      · exact String.lt_trans hlt (hkey binding hbinding)
    · rw [if_neg hlt]
      by_cases heq : locale = key
      · subst heq
        rw [if_pos rfl]
        exact List.pairwise_cons.mpr ⟨hkey, hbindings⟩
      · rw [if_neg heq]
        have hgt : key < locale :=
          String.not_le.mp fun hle => heq (String.le_antisymm hle (String.not_lt.mp hlt))
        refine List.pairwise_cons.mpr ⟨fun binding hbinding => ?_, ih hbindings⟩
        rcases eq_or_mem_of_mem_insertBinding hbinding with rfl | hbinding
        · exact hgt
        · exact hkey binding hbinding

theorem lookup_cons_eq_ite (locale key : String) (value : α) (bindings : List (String × α)) :
    ((key, value) :: bindings).lookup locale =
      if locale = key then some value else bindings.lookup locale := by
  rw [List.lookup_cons]
  by_cases h : locale = key
  · rw [if_pos h, h, beq_self_eq_true]
  · rw [if_neg h, beq_false_of_ne h]

theorem lookup_insertBinding (locale other : String) (value : α) (bindings : List (String × α)) :
    (insertBinding locale value bindings).lookup other =
      if other = locale then some value else bindings.lookup other := by
  induction bindings with
  | nil => exact lookup_cons_eq_ite other locale value []
  | cons head bindings ih =>
    obtain ⟨key, old⟩ := head
    unfold insertBinding
    split
    · exact lookup_cons_eq_ite other locale value _
    · split
      · subst key
        rw [lookup_cons_eq_ite, lookup_cons_eq_ite]
        split <;> rfl
      · rename_i hne
        rw [lookup_cons_eq_ite, ih, lookup_cons_eq_ite]
        by_cases h : other = key
        · rw [if_pos h, if_pos h, if_neg (h ▸ Ne.symm hne)]
        · rw [if_neg h, if_neg h]

def empty : LocaleMap α := ⟨[], .nil⟩

def insert (map : LocaleMap α) (locale : String) (value : α) : LocaleMap α :=
  ⟨insertBinding locale value map.bindings, ordered_insertBinding locale value map.ordered⟩

def find? (map : LocaleMap α) (locale : String) : Option α :=
  map.bindings.lookup locale

def keys (map : LocaleMap α) : List String :=
  map.bindings.map Prod.fst

def size (map : LocaleMap α) : Nat :=
  map.bindings.length

@[simp] theorem find?_empty (locale : String) : (empty : LocaleMap α).find? locale = none := rfl

@[simp] theorem find?_insert (map : LocaleMap α) (locale other : String) (value : α) :
    (map.insert locale value).find? other =
      if other = locale then some value else map.find? other :=
  lookup_insertBinding locale other value map.bindings

end LocaleMap

end PluralRules
