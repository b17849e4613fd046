import Mathlib.Order.Bounds.Basic
import Mathlib.Order.MinMax
import PluralRules.Text.EditDistance

/-!
Scripts of single edits, and the edit distance as the length of a shortest one. The rows that the
distance is computed from satisfy the usual recursion over both texts; a script is read off the
recursion, and no edit lowers the distance to a target by more than one.
-/

namespace PluralRules.Text

/-- One character is inserted, deleted or substituted, anywhere in the text. -/
inductive Edit : List Char → List Char → Prop
  | insert (before after : List Char) (c : Char) : Edit (before ++ after) (before ++ c :: after)
  | delete (before after : List Char) (c : Char) : Edit (before ++ c :: after) (before ++ after)
  | substitute (before after : List Char) (c d : Char) :
    Edit (before ++ c :: after) (before ++ d :: after)

inductive Edits : ℕ → List Char → List Char → Prop
  | done (text : List Char) : Edits 0 text text
  | step {n : ℕ} {text next target : List Char} : Edit text next → Edits n next target →
    Edits (n + 1) text target

theorem Edit.cons (c : Char) {text next : List Char} (h : Edit text next) :
    Edit (c :: text) (c :: next) := by
  cases h with
  | insert before after d => exact .insert (c :: before) after d
  | delete before after d => exact .delete (c :: before) after d
  | substitute before after d e => exact .substitute (c :: before) after d e

theorem Edits.cons (c : Char) {n : ℕ} {text target : List Char} (h : Edits n text target) :
    Edits n (c :: text) (c :: target) := by
  induction h with
  | done text => exact .done (c :: text)
  | step hedit _ ih => exact .step (hedit.cons c) ih

theorem edits_append (text more : List Char) : Edits more.length text (text ++ more) := by
  induction text with
  | nil =>
    induction more with
    | nil => exact .done []
    | cons c more ih => exact .step (.insert [] [] c) (ih.cons c)
  | cons c text ih => exact ih.cons c

theorem edits_nil (text : List Char) : Edits text.length text [] := by
  induction text with
  | nil => exact .done []
  | cons c text ih => exact .step (.delete [] text c) ih

theorem Edits.length_le {n : ℕ} {text target : List Char} (h : Edits n text target) :
    target.length ≤ text.length + n := by
  induction h with
  | done text => exact le_rfl
  | step hedit _ ih =>
    cases hedit with
    | insert before after c =>
      simp only [List.length_append, List.length_cons] at ih ⊢
      omega
    | delete before after c =>
      simp only [List.length_append, List.length_cons] at ih ⊢
      omega
    | substitute before after c d =>
      simp only [List.length_append, List.length_cons] at ih ⊢
      omega

theorem distanceRow_cons_left (c : Char) (text target : List Char) :
    distanceRow (c :: text) target = extendRow c target (distanceRow text target) := rfl

theorem distanceRow_cons_right (text : List Char) (b : Char) (target : List Char) :
    distanceRow text (b :: target) =
      editDistance text (b :: target) :: distanceRow text target := by
  induction text with
  | nil => rfl
  | cons c text ih =>
    rw [editDistance, distanceRow_cons_left, ih]
    rfl

theorem editDistance_nil_left (target : List Char) : editDistance [] target = target.length := by
  cases target <;> rfl

theorem distanceRow_nil_right (text : List Char) : distanceRow text [] = [text.length] := by
  induction text with
  | nil => rfl
  | cons c text ih =>
    rw [distanceRow_cons_left, ih]
    rfl

theorem editDistance_nil_right (text : List Char) : editDistance text [] = text.length := by
  rw [editDistance, distanceRow_nil_right]
  rfl

theorem editDistance_cons_cons (c b : Char) (text target : List Char) :
    editDistance (c :: text) (b :: target) =
      min (min (editDistance text (b :: target) + 1) (editDistance (c :: text) target + 1))
        (editDistance text target + if c = b then 0 else 1) := by
  rw [editDistance, distanceRow_cons_left, distanceRow_cons_right]
  rfl

theorem edits_editDistance (text target : List Char) :
    Edits (editDistance text target) text target := by
  induction text generalizing target with
  | nil =>
    rw [editDistance_nil_left]
    exact edits_append [] target
  | cons c text ihText =>
    induction target with
    | nil =>
      rw [editDistance_nil_right]
      exact edits_nil (c :: text)
    | cons b target ihTarget =>
      have hdelete : Edits (editDistance text (b :: target) + 1) (c :: text) (b :: target) :=
        .step (.delete [] text c) (ihText (b :: target))
      have hinsert : Edits (editDistance (c :: text) target + 1) (c :: text) (b :: target) :=
        .step (.insert [] (c :: text) b) (ihTarget.cons b)
      have hsubstitute : Edits (editDistance text target + if c = b then 0 else 1) (c :: text)
          (b :: target) := by
        by_cases h : c = b
        · rw [if_pos h, h]
          exact (ihText target).cons b
        · rw [if_neg h]
          exact .step (.substitute [] text c b) ((ihText target).cons b)
      rw [editDistance_cons_cons]
      exact min_rec' (Edits · (c :: text) (b :: target))
        (min_rec' (Edits · (c :: text) (b :: target)) hdelete hinsert) hsubstitute

theorem editDistance_self (text : List Char) : editDistance text text = 0 := by
  induction text with
  | nil => rfl
  | cons c text ih =>
    rw [editDistance_cons_cons, ih, if_pos rfl]
    exact Nat.min_zero _

theorem editDistance_cons_left_le (c : Char) (text target : List Char) :
    editDistance (c :: text) target ≤ editDistance text target + 1 := by
  cases target with
  | nil =>
    rw [editDistance_nil_right, editDistance_nil_right, List.length_cons]
  | cons b target =>
    rw [editDistance_cons_cons]
    omega

theorem editDistance_cons_right_le (text : List Char) (b : Char) (target : List Char) :
    editDistance text (b :: target) ≤ editDistance text target + 1 := by
  cases text with
  | nil =>
    rw [editDistance_nil_left, editDistance_nil_left, List.length_cons]
  | cons c text =>
    rw [editDistance_cons_cons]
    omega

theorem editDistance_le_cons_left (c : Char) (text target : List Char) :
    editDistance text target ≤ editDistance (c :: text) target + 1 := by
  induction target with
  | nil =>
    rw [editDistance_nil_right, editDistance_nil_right, List.length_cons]
    omega
  | cons b target ih =>
    have hlonger := editDistance_cons_right_le text b target
    rw [editDistance_cons_cons]
    omega

theorem editDistance_substitute_le (c d : Char) (text target : List Char) :
    editDistance (c :: text) target ≤ editDistance (d :: text) target + 1 := by
  induction target with
  | nil =>
    rw [editDistance_nil_right, editDistance_nil_right, List.length_cons, List.length_cons]
    omega
  | cons b target ih =>
    rw [editDistance_cons_cons, editDistance_cons_cons]
    split <;> split <;> omega

theorem editDistance_cons_le_of_le (c : Char) {text next : List Char}
    (h : ∀ target, editDistance text target ≤ editDistance next target + 1)
    (target : List Char) :
    editDistance (c :: text) target ≤ editDistance (c :: next) target + 1 := by
  induction target with
  | nil =>
    have hnil := h []
    rw [editDistance_nil_right, editDistance_nil_right] at hnil ⊢
    simp only [List.length_cons]
    omega
  | cons b target ih =>
    have hwhole := h (b :: target)
    have hshorter := h target
    rw [editDistance_cons_cons, editDistance_cons_cons]
    omega

theorem editDistance_append_le_of_le (before : List Char) {text next : List Char}
    (h : ∀ target, editDistance text target ≤ editDistance next target + 1)
    (target : List Char) :
    editDistance (before ++ text) target ≤ editDistance (before ++ next) target + 1 := by
  induction before generalizing target with
  | nil => exact h target
  | cons c before ih => exact editDistance_cons_le_of_le c ih target

theorem Edit.editDistance_le {text next : List Char} (h : Edit text next) (target : List Char) :
    editDistance text target ≤ editDistance next target + 1 := by
  cases h with
  | insert before after c =>
    exact editDistance_append_le_of_le before (editDistance_le_cons_left c after) target
  | delete before after c =>
    exact editDistance_append_le_of_le before (editDistance_cons_left_le c after) target
  | substitute before after c d =>
    exact editDistance_append_le_of_le before (editDistance_substitute_le c d after) target

theorem Edits.editDistance_le {n : ℕ} {text target : List Char} (h : Edits n text target) :
    editDistance text target ≤ n := by
  induction h with
  | done text => exact (editDistance_self text).le
  | step hedit _ ih => exact (hedit.editDistance_le _).trans (Nat.succ_le_succ ih)

/-- The edit distance is the least number of edits that turn one text into the other. -/
theorem isLeast_editDistance (text target : List Char) :
    IsLeast {n | Edits n text target} (editDistance text target) :=
  ⟨edits_editDistance text target, fun _ h => h.editDistance_le⟩

theorem editDistance_eq_zero_iff {text target : List Char} :
    editDistance text target = 0 ↔ text = target := by
  constructor
  · intro h
    have hscript := edits_editDistance text target
    rw [h] at hscript
    cases hscript
    rfl
  · rintro rfl
    exact editDistance_self text

end PluralRules.Text
