import Mathlib.Data.Nat.Notation
import PluralRules.Text.CodePoint

/-!
The length of a text in bytes: it bounds the number of characters, and it fixes where a text is cut.
-/

namespace PluralRules.Text

theorem byteLength_eq_zero_iff {text : List Char} : byteLength text = 0 ↔ text = [] := by
  cases text with
  | nil => simp [byteLength]
  | cons c text =>
    have hpos := c.utf8Size_pos
    simp only [byteLength, reduceCtorEq, iff_false]
    omega

theorem exists_eq_append_of_byteLength_le {front front' back back' : List Char}
    (h : front ++ back = front' ++ back') (hlength : byteLength front ≤ byteLength front') :
    ∃ middle, front' = front ++ middle := by
  rcases List.append_eq_append_iff.mp h with ⟨middle, rfl, -⟩ | ⟨middle, rfl, -⟩
  · exact ⟨middle, rfl⟩
  · rw [byteLength_append] at hlength
    obtain rfl := byteLength_eq_zero_iff.mp (show byteLength middle = 0 by omega)
    exact ⟨[], by simp⟩

theorem append_inj_of_byteLength_eq {front front' back back' : List Char}
    (h : front ++ back = front' ++ back') (hlength : byteLength front = byteLength front') :
    front = front' ∧ back = back' := by
  obtain ⟨middle, rfl⟩ := exists_eq_append_of_byteLength_le h (Nat.le_of_eq hlength)
  rw [byteLength_append] at hlength
  obtain rfl := byteLength_eq_zero_iff.mp (show byteLength middle = 0 by omega)
  rw [List.append_nil] at h ⊢
  exact ⟨rfl, List.append_cancel_left h⟩

theorem utf8ByteSize_ofList (text : List Char) :
    (String.ofList text).utf8ByteSize = byteLength text := by
  induction text with
  | nil => rfl
  | cons c text ih =>
    rw [String.ofList_cons, String.utf8ByteSize_append, String.utf8ByteSize_singleton, ih,
      byteLength]

theorem isValid_byteLength (front back : List Char) :
    (⟨byteLength front⟩ : String.Pos.Raw).IsValid (String.ofList (front ++ back)) := by
  refine String.Pos.Raw.isValid_iff_exists_append.mpr
    ⟨String.ofList front, String.ofList back, String.ofList_append, ?_⟩
  rw [String.rawEndPos, utf8ByteSize_ofList]

theorem dropBytes_byteLength_append (front back : List Char) :
    dropBytes (byteLength front) (front ++ back) = back := by
  induction front with
  | nil => cases back <;> rfl
  | cons c front ih =>
    have hpos := c.utf8Size_pos
    have hlength : byteLength (c :: front) = c.utf8Size + byteLength front - 1 + 1 := by
      simp only [byteLength]
      omega
    have hrest : c.utf8Size + byteLength front - 1 + 1 - c.utf8Size = byteLength front := by omega
    rw [hlength, List.cons_append, dropBytes, hrest, ih]

theorem length_le_byteLength (text : List Char) : text.length ≤ byteLength text := by
  induction text with
  | nil => exact Nat.le_refl 0
  | cons c text ih =>
    have hpos := c.utf8Size_pos
    simp only [List.length_cons, byteLength]
    omega

theorem length_le_utf8ByteSize (s : String) : s.length ≤ s.utf8ByteSize := by
  have hbytes := utf8ByteSize_ofList s.toList
  rw [String.ofList_toList] at hbytes
  rw [hbytes, ← String.length_toList]
  exact length_le_byteLength s.toList

end PluralRules.Text
