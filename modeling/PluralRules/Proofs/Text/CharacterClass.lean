import PluralRules.Text.Blank
import PluralRules.Text.Letter

/-!
Blanks, letters and digits are disjoint, so the first character of a token decides which kind of
token it is, and no token holds a blank.
-/

namespace PluralRules.Text

theorem isDigit_iff {c : Char} : c.isDigit = true ↔ 48 ≤ c.toNat ∧ c.toNat ≤ 57 := by
  simp [Char.isDigit, UInt32.le_iff_toNat_le, ← Char.toNat_val]

theorem isAlpha_iff {c : Char} :
    c.isAlpha = true ↔ 65 ≤ c.toNat ∧ c.toNat ≤ 90 ∨ 97 ≤ c.toNat ∧ c.toNat ≤ 122 := by
  show (decide (65 ≤ c.val ∧ c.val ≤ 90) || decide (97 ≤ c.val) && decide (c.val ≤ 122)) = true ↔ _
  simp [UInt32.le_iff_toNat_le, ← Char.toNat_val]

theorem inRanges_iff {ranges : List (Nat × Nat)} {c : Char} :
    inRanges ranges c = true ↔ ∃ range ∈ ranges, range.1 ≤ c.toNat ∧ c.toNat ≤ range.2 := by
  simp only [inRanges, List.any_eq_true, Bool.and_eq_true, decide_eq_true_eq]

theorem isLetter_eq_false_of_isDigit {c : Char} (h : c.isDigit = true) : isLetter c = false := by
  rw [isDigit_iff] at h
  rw [isLetter_of_lt (by omega), ← Bool.not_eq_true, isAlpha_iff]
  omega

theorem isDigit_eq_false_of_isLetter {c : Char} (h : isLetter c = true) : c.isDigit = false := by
  rw [← Bool.not_eq_true]
  intro hdigit
  simp only [isLetter_eq_false_of_isDigit hdigit, Bool.false_eq_true] at h

theorem blankRanges_ascii : ∀ blank ∈ blankRanges, blank.1 < 128 → blank.2 < 48 := by
  decide

theorem blankRanges_disjoint_letterRanges :
    ∀ blank ∈ blankRanges, ∀ letter ∈ letterRanges, blank.2 < letter.1 ∨ letter.2 < blank.1 := by
  decide +kernel

theorem isDigit_eq_false_of_isBlank {c : Char} (h : isBlank c = true) : c.isDigit = false := by
  obtain ⟨blank, hblank, hlow, hhigh⟩ := inRanges_iff.mp h
  rw [← Bool.not_eq_true, isDigit_iff]
  intro hdigit
  have hascii := blankRanges_ascii blank hblank (by omega)
  omega

theorem isLetter_eq_false_of_isBlank {c : Char} (h : isBlank c = true) : isLetter c = false := by
  obtain ⟨blank, hblank, hlow, hhigh⟩ := inRanges_iff.mp h
  rw [← Bool.not_eq_true]
  by_cases hc : c.toNat < 128
  · rw [isLetter_of_lt hc, isAlpha_iff]
    have hascii := blankRanges_ascii blank hblank (by omega)
    omega
  · rw [isLetter, if_neg hc, inRanges_iff]
    rintro ⟨letter, hletter, hfrom, hto⟩
    have hdisjoint := blankRanges_disjoint_letterRanges blank hblank letter hletter
    omega

end PluralRules.Text
