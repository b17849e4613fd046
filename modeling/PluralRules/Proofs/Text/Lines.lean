import Mathlib.Data.List.Infix
import PluralRules.Proofs.Text.ByteLength
import PluralRules.Proofs.Text.Utf8Order

/-!
The bytes of a text as lines. A byte of a line end is never a part of another character, so the
lines of the bytes are those of the text.
-/

namespace PluralRules.Text

def lineFeed : UInt8 := 10

def carriageReturn : UInt8 := 13

def EndsLine (bytes : List UInt8) : Prop :=
  bytes = [] ∨ ∃ before, bytes = before ++ [lineFeed]

def columnOf (bytes : List UInt8) : ℕ :=
  (bytes.reverse.takeWhile (· ≠ lineFeed)).length

/-- How many line ends have a carriage return before the line feed. -/
def returns : List UInt8 → ℕ
  | [] => 0
  | b :: bytes =>
    (if b = carriageReturn ∧ bytes.head? = some lineFeed then 1 else 0) + returns bytes

theorem exists_eq_lines_append (bytes : List UInt8) :
    ∃ front tail, bytes = front ++ tail ∧ EndsLine front ∧ lineFeed ∉ tail := by
  induction bytes using List.reverseRecOn with
  | nil => exact ⟨[], [], rfl, .inl rfl, List.not_mem_nil⟩
  | append_singleton bytes b ih =>
    by_cases hb : b = lineFeed
    · exact ⟨bytes ++ [b], [], by rw [List.append_nil], .inr ⟨bytes, by rw [hb]⟩,
        List.not_mem_nil⟩
    · obtain ⟨front, tail, rfl, hfront, htail⟩ := ih
      refine ⟨front, tail ++ [b], List.append_assoc .., hfront, ?_⟩
      rw [List.mem_append, List.mem_singleton, not_or]
      exact ⟨htail, Ne.symm hb⟩

theorem columnOf_append (bytes : List UInt8) {tail : List UInt8} (h : lineFeed ∉ tail) :
    columnOf (bytes ++ tail) = columnOf bytes + tail.length := by
  have hall : ∀ b ∈ tail.reverse, decide (b ≠ lineFeed) = true := by
    intro b hb
    refine decide_eq_true ?_
    rintro rfl
    exact h (List.mem_reverse.mp hb)
  rw [columnOf, List.reverse_append, List.takeWhile_append_of_pos hall, List.length_append,
    List.length_reverse, columnOf, Nat.add_comm]

theorem EndsLine.columnOf_eq_zero {bytes : List UInt8} (h : EndsLine bytes) :
    columnOf bytes = 0 := by
  rcases h with rfl | ⟨before, rfl⟩
  · rfl
  · rw [columnOf, List.reverse_append, List.reverse_singleton, List.singleton_append,
      List.takeWhile_cons_of_neg (by simp), List.length_nil]

theorem count_lines_append {front tail : List UInt8} (htail : lineFeed ∉ tail) :
    (front ++ tail).count lineFeed = front.count lineFeed := by
  rw [List.count_append, List.count_eq_zero.mpr htail, Nat.add_zero]

theorem EndsLine.eq_of_prefix {front other : List UInt8} (hother : EndsLine other)
    (hinit : front <+: other) (hcount : front.count lineFeed = other.count lineFeed) :
    front = other := by
  obtain ⟨more, rfl⟩ := hinit
  rw [List.count_append] at hcount
  have hmore : lineFeed ∉ more := List.count_eq_zero.mp (by omega)
  rcases List.eq_nil_or_concat more with rfl | ⟨before, b, rfl⟩
  · rw [List.append_nil]
  · exfalso
    rcases hother with hnil | ⟨lines, hlines⟩
    · simp at hnil
    · rw [List.concat_eq_append, ← List.append_assoc] at hlines
      have hb := (List.append_inj' hlines rfl).2
      rw [List.concat_eq_append, hb] at hmore
      exact hmore (List.mem_append_right _ (List.mem_singleton_self _))

theorem EndsLine.unique {bytes front other : List UInt8} (hfront : EndsLine front)
    (hother : EndsLine other) (hinit : front <+: bytes) (hinit' : other <+: bytes)
    (hcount : front.count lineFeed = other.count lineFeed) : front = other := by
  rcases List.prefix_or_prefix_of_prefix hinit hinit' with h | h
  · exact hother.eq_of_prefix h hcount
  · exact (hfront.eq_of_prefix h hcount.symm).symm

theorem EndsLine.append {front more : List UInt8} (hfront : EndsLine front)
    (hmore : EndsLine more) : EndsLine (front ++ more) := by
  rcases hmore with rfl | ⟨before, rfl⟩
  · rwa [List.append_nil]
  · exact .inr ⟨front ++ before, (List.append_assoc ..).symm⟩

theorem EndsLine.append_of_mem (front : List UInt8) {more : List UInt8} (hmore : EndsLine more)
    (hmem : lineFeed ∈ more) : EndsLine (front ++ more) := by
  rcases hmore with rfl | ⟨before, rfl⟩
  · exact absurd hmem List.not_mem_nil
  · exact .inr ⟨front ++ before, (List.append_assoc ..).symm⟩

theorem returns_cons_lf (bytes : List UInt8) : returns (lineFeed :: bytes) = returns bytes := by
  rw [returns, if_neg fun h => absurd h.1 (by decide), Nat.zero_add]

theorem returns_cons_crlf (bytes : List UInt8) :
    returns (carriageReturn :: lineFeed :: bytes) = returns bytes + 1 := by
  rw [returns, if_pos ⟨rfl, rfl⟩, returns_cons_lf, Nat.add_comm]

theorem returns_append_of_notMem {bytes : List UInt8} (h : carriageReturn ∉ bytes)
    (more : List UInt8) : returns (bytes ++ more) = returns more := by
  induction bytes with
  | nil => rfl
  | cons b bytes ih =>
    rw [List.mem_cons, not_or] at h
    rw [List.cons_append, returns, if_neg fun hb => h.1 hb.1.symm, ih h.2, Nat.zero_add]

theorem returns_eq_zero {bytes : List UInt8} (h : lineFeed ∉ bytes) : returns bytes = 0 := by
  induction bytes with
  | nil => rfl
  | cons b bytes ih =>
    rw [List.mem_cons, not_or] at h
    rw [returns, if_neg fun hb => h.2 (List.mem_of_head? hb.2), ih h.2]

theorem returns_append_tail (front : List UInt8) {tail : List UInt8} (h : lineFeed ∉ tail) :
    returns (front ++ tail) = returns front := by
  induction front with
  | nil => rw [List.nil_append, returns_eq_zero h, returns]
  | cons b front ih =>
    have hhead : (front ++ tail).head? = some lineFeed ↔ front.head? = some lineFeed := by
      cases front with
      | nil =>
        rw [List.nil_append, List.head?_nil]
        exact ⟨fun htail => absurd (List.mem_of_head? htail) h, nofun⟩
      | cons => rfl
    rw [List.cons_append, returns, returns, ih]
    simp only [hhead]

def encode (text : List Char) : List UInt8 :=
  text.flatMap String.utf8EncodeChar

theorem encode_cons (c : Char) (text : List Char) :
    encode (c :: text) = String.utf8EncodeChar c ++ encode text :=
  List.flatMap_cons

theorem encode_append (text more : List Char) :
    encode (text ++ more) = encode text ++ encode more :=
  List.flatMap_append

theorem encode_lf (text : List Char) : encode ('\n' :: text) = lineFeed :: encode text :=
  rfl

theorem encode_cr (text : List Char) :
    encode ('\r' :: text) = carriageReturn :: encode text :=
  rfl

theorem length_encode (text : List Char) : (encode text).length = byteLength text := by
  induction text with
  | nil => rfl
  | cons c text ih =>
    rw [encode_cons, List.length_append, String.length_utf8EncodeChar, ih, byteLength]

theorem le_of_mem_continuation {code n : ℕ} {b : UInt8} (h : b ∈ continuation code n) :
    128 ≤ b.toNat := by
  induction n with
  | zero => exact absurd h List.not_mem_nil
  | succ n ih =>
    rcases List.mem_cons.mp h with rfl | h
    · rw [UInt8.toNat_ofNat_of_lt' (show _ < 256 by omega)]
      omega
    · exact ih h

theorem toNat_eq_of_mem_utf8EncodeChar {c : Char} {b : UInt8}
    (h : b ∈ String.utf8EncodeChar c) (hb : b.toNat < 128) : c.toNat = b.toNat := by
  obtain ⟨n, lead, hlead, hc⟩ := exists_leads c
  rw [hc, List.mem_cons] at h
  rcases h with rfl | h
  · cases hlead with
    | one hcode => rw [UInt8.toNat_ofNat_of_lt' (show _ < 256 by omega)]
    | _ =>
      rw [UInt8.toNat_ofNat_of_lt' (show _ < 256 by omega)] at hb
      omega
  · exact absurd (le_of_mem_continuation h) (by omega)

theorem lineFeed_notMem_utf8EncodeChar {c : Char} (h : c ≠ '\n') :
    lineFeed ∉ String.utf8EncodeChar c :=
  fun hmem => h (Char.toNat_inj.mp (toNat_eq_of_mem_utf8EncodeChar hmem (by decide)))

theorem carriageReturn_notMem_utf8EncodeChar {c : Char} (h : c ≠ '\r') :
    carriageReturn ∉ String.utf8EncodeChar c :=
  fun hmem => h (Char.toNat_inj.mp (toNat_eq_of_mem_utf8EncodeChar hmem (by decide)))

theorem exists_eq_cons_of_head? {text : List Char}
    (h : (encode text).head? = some lineFeed) : ∃ rest, text = '\n' :: rest := by
  cases text with
  | nil => exact absurd h nofun
  | cons c rest =>
    refine ⟨rest, ?_⟩
    by_contra hne
    have hc : c ≠ '\n' := fun hc => hne (by rw [hc])
    obtain ⟨n, lead, -, hlead⟩ := exists_leads c
    have hmem := lineFeed_notMem_utf8EncodeChar hc
    rw [encode_cons, hlead, List.cons_append, List.head?_cons, Option.some_inj] at h
    exact hmem (by rw [hlead, h]; exact List.mem_cons_self)

theorem returns_encode_cons {c : Char} {text : List Char}
    (h : c = '\r' → (encode text).head? ≠ some lineFeed) :
    returns (encode (c :: text)) = returns (encode text) := by
  by_cases hc : c = '\r'
  · rw [hc, encode_cr, returns, if_neg fun hpair => h hc hpair.2, Nat.zero_add]
  · rw [encode_cons, returns_append_of_notMem (carriageReturn_notMem_utf8EncodeChar hc)]

end PluralRules.Text
