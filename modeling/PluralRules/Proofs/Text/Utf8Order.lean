import Mathlib.Algebra.Order.Ring.Nat
import Mathlib.Data.Char

/-!
UTF-8 keeps the order of code points. A greater leading byte means a greater code point, and behind
the same one the other bytes are digits to the base 64.
-/

namespace PluralRules.Text

def continuation (code : ℕ) : ℕ → List UInt8
  | 0 => []
  | n + 1 => UInt8.ofNat (code / 64 ^ n % 64 + 128) :: continuation code n

inductive Leads (code : ℕ) : ℕ → ℕ → Prop
  | one : code ≤ 127 → Leads code 0 code
  | two : 127 < code → code ≤ 2047 → Leads code 1 (code / 64 + 192)
  | three : 2047 < code → code ≤ 65535 → Leads code 2 (code / 64 ^ 2 + 224)
  | four : 65535 < code → code < 1114112 → Leads code 3 (code / 64 ^ 3 + 240)

theorem exists_leads (c : Char) : ∃ n lead, Leads c.toNat n lead ∧
    String.utf8EncodeChar c = UInt8.ofNat lead :: continuation c.toNat n := by
  have hvalid : c.toNat < 0xD800 ∨ 0xDFFF < c.toNat ∧ c.toNat < 0x110000 := c.valid
  have hencode : String.utf8EncodeChar c =
      if c.toNat ≤ 127 then [UInt8.ofNat c.toNat]
      else if c.toNat ≤ 2047 then
        UInt8.ofNat (c.toNat / 64 % 32 + 192) :: continuation c.toNat 1
      else if c.toNat ≤ 65535 then
        UInt8.ofNat (c.toNat / 64 ^ 2 % 16 + 224) :: continuation c.toNat 2
      else UInt8.ofNat (c.toNat / 64 ^ 3 % 8 + 240) :: continuation c.toNat 3 := by
    simp only [continuation, pow_zero, Nat.div_one, pow_one]
    rfl
  rw [hencode]
  split_ifs with h1 h2 h3
  · exact ⟨0, _, .one h1, rfl⟩
  · have hlead : c.toNat / 64 % 32 = c.toNat / 64 := Nat.mod_eq_of_lt (by omega)
    rw [hlead]
    exact ⟨1, _, .two (by omega) h2, rfl⟩
  · have hlead : c.toNat / 64 ^ 2 % 16 = c.toNat / 64 ^ 2 := Nat.mod_eq_of_lt (by omega)
    rw [hlead]
    exact ⟨2, _, .three (by omega) h3, rfl⟩
  · have hlead : c.toNat / 64 ^ 3 % 8 = c.toNat / 64 ^ 3 := Nat.mod_eq_of_lt (by omega)
    rw [hlead]
    exact ⟨3, _, .four (by omega) (by omega), rfl⟩

theorem ofNat_lt_ofNat {a b : ℕ} (h : a < b) (hb : b < 256) : UInt8.ofNat a < UInt8.ofNat b := by
  rw [UInt8.lt_iff_toNat_lt, UInt8.toNat_ofNat_of_lt' (h.trans hb), UInt8.toNat_ofNat_of_lt' hb]
  exact h

theorem continuation_lt {a b n : ℕ} (h : a < b) (hlead : a / 64 ^ n = b / 64 ^ n)
    (x y : List UInt8) : continuation a n ++ x < continuation b n ++ y := by
  induction n with
  | zero =>
    rw [pow_zero, Nat.div_one, Nat.div_one] at hlead
    omega
  | succ n ih =>
    rw [continuation, continuation, List.cons_append, List.cons_append, List.cons_lt_cons_iff]
    have hdiv : a / 64 ^ n ≤ b / 64 ^ n := Nat.div_le_div_right h.le
    rw [pow_succ, ← Nat.div_div_eq_div_mul, ← Nat.div_div_eq_div_mul] at hlead
    rcases hdiv.lt_or_eq with hlt | heq
    · exact .inl (ofNat_lt_ofNat (by omega) (by omega))
    · exact .inr ⟨by rw [heq], ih heq⟩

theorem Leads.lt_or_eq {a b n m low high : ℕ} (ha : Leads a n low) (hb : Leads b m high)
    (h : a < b) : low < high ∧ high < 256 ∨ low = high ∧ n = m ∧ a / 64 ^ n = b / 64 ^ n := by
  cases ha <;> cases hb <;> omega

theorem utf8EncodeChar_lt {c d : Char} (h : c < d) (x y : List UInt8) :
    String.utf8EncodeChar c ++ x < String.utf8EncodeChar d ++ y := by
  have hcode : c.toNat < d.toNat := h
  obtain ⟨n, low, hlow, hc⟩ := exists_leads c
  obtain ⟨m, high, hhigh, hd⟩ := exists_leads d
  rw [hc, hd, List.cons_append, List.cons_append, List.cons_lt_cons_iff]
  rcases hlow.lt_or_eq hhigh hcode with ⟨hlt, hbyte⟩ | ⟨rfl, rfl, hlead⟩
  · exact .inl (ofNat_lt_ofNat hlt hbyte)
  · exact .inr ⟨rfl, continuation_lt hcode hlead x y⟩

theorem flatMap_utf8EncodeChar_lt {a b : List Char} (h : a < b) :
    a.flatMap String.utf8EncodeChar < b.flatMap String.utf8EncodeChar := by
  have hlex : List.Lex (· < ·) a b := h
  clear h
  induction hlex with
  | @nil d b =>
    obtain ⟨n, lead, -, hd⟩ := exists_leads d
    rw [List.flatMap_nil, List.flatMap_cons, hd, List.cons_append]
    exact List.nil_lt_cons _ _
  | rel hlt => exact utf8EncodeChar_lt hlt _ _
  | cons _ ih =>
    rw [List.flatMap_cons, List.flatMap_cons]
    exact List.append_left_lt ih

theorem toList_toUTF8 (s : String) :
    s.toUTF8.data.toList = s.toList.flatMap String.utf8EncodeChar := by
  have hbytes : s.toUTF8 = (s.toList.flatMap String.utf8EncodeChar).toByteArray := by
    rw [String.toUTF8_eq_toByteArray, ← List.utf8Encode, ← String.toByteArray_ofList,
      String.ofList_toList]
  rw [hbytes, List.toList_data_toByteArray]

theorem toUTF8_lt_of_lt {a b : String} (h : a < b) :
    a.toUTF8.data.toList < b.toUTF8.data.toList := by
  rw [toList_toUTF8, toList_toUTF8]
  exact flatMap_utf8EncodeChar_lt h

end PluralRules.Text
