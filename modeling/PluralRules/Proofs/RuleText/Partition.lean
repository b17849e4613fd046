import Mathlib.Data.List.Basic
import PluralRules.Proofs.RuleText.Places

/-!
The tokens of a text as stretches of its bytes. They follow each other without overlap, cover all
characters but the blanks, and no word or number could go on. A text has at most one list of such
tokens, and it is the list that the scanner gives.
-/

namespace PluralRules

namespace Text

/-- The byte is one of the bytes of this character, in a text that starts at the offset `start`. -/
def ByteOf (start : Nat) (text : List Char) (byte : Nat) (c : Char) : Prop :=
  ∃ front back, text = front ++ c :: back ∧ start + byteLength front ≤ byte ∧
    byte < start + byteLength front + c.utf8Size

variable {start byte : Nat} {c : Char}

theorem not_byteOf_nil : ¬ByteOf start [] byte c := by
  rintro ⟨front, back, htext, -⟩
  simp at htext

theorem byteOf_cons_iff {d : Char} {text : List Char} :
    ByteOf start (d :: text) byte c ↔
      (c = d ∧ start ≤ byte ∧ byte < start + d.utf8Size) ∨
        ByteOf (start + d.utf8Size) text byte c := by
  constructor
  · rintro ⟨front, back, htext, hfrom, hto⟩
    cases front with
    | nil =>
      cases htext
      exact .inl ⟨rfl, hfrom, hto⟩
    | cons e front =>
      cases htext
      simp only [byteLength] at hfrom hto
      exact .inr ⟨front, back, rfl, by omega, by omega⟩
  · rintro (⟨rfl, hfrom, hto⟩ | ⟨front, back, rfl, hfrom, hto⟩)
    · exact ⟨[], text, rfl, hfrom, hto⟩
    · refine ⟨d :: front, back, rfl, ?_, ?_⟩
      · simp only [byteLength]
        omega
      · simp only [byteLength]
        omega

theorem byteOf_append_iff {text more : List Char} :
    ByteOf start (text ++ more) byte c ↔
      ByteOf start text byte c ∨ ByteOf (start + byteLength text) more byte c := by
  induction text generalizing start with
  | nil => simp [byteLength, not_byteOf_nil]
  | cons d text ih =>
    rw [List.cons_append, byteOf_cons_iff, byteOf_cons_iff, ih, byteLength, Nat.add_assoc, or_assoc]

theorem ByteOf.mem {text : List Char} (h : ByteOf start text byte c) : c ∈ text := by
  obtain ⟨front, back, rfl, -⟩ := h
  simp

theorem ByteOf.bounds {text : List Char} (h : ByteOf start text byte c) :
    start ≤ byte ∧ byte < start + byteLength text := by
  obtain ⟨front, back, rfl, hfrom, hto⟩ := h
  simp only [byteLength_append, byteLength]
  omega

end Text

namespace Token

open Text (ByteOf byteLength isBlank)

def stop (token : Token) : Nat :=
  token.offset + byteLength token.kind.text

def Holds (token : Token) (byte : Nat) : Prop :=
  token.offset ≤ byte ∧ byte < token.stop

structure LiesIn (start : Nat) (text : List Char) (token : Token) (front back : List Char) :
    Prop where
  split : text = front ++ (token.kind.text ++ back)
  offset_eq : token.offset = start + byteLength front
  spelt : token.kind.Spelt
  ends : token.kind.EndsBefore back

/-- The tokens stand in a text that starts at the offset `start`, each behind the one before it, and
cover exactly the characters that are not blank. -/
structure Partition (start : Nat) (text : List Char) (tokens : List Token) : Prop where
  lies : ∀ token ∈ tokens, ∃ front back, LiesIn start text token front back
  ordered : tokens.Pairwise fun token next => token.stop ≤ next.offset
  covers : ∀ byte c, ByteOf start text byte c →
    ((∃ token ∈ tokens, token.Holds byte) ↔ isBlank c = false)

variable {start : Nat} {text rest : List Char} {tokens others : List Token}

namespace LiesIn

variable {token : Token} {front back : List Char}

theorem start_le (h : LiesIn start text token front back) : start ≤ token.offset := by
  rw [h.offset_eq]
  exact Nat.le_add_right _ _

theorem offset_lt_stop (h : LiesIn start text token front back) : token.offset < token.stop := by
  have hlength : byteLength token.kind.text ≠ 0 :=
    mt Text.byteLength_eq_zero_iff.mp h.spelt.text_ne_nil
  rw [stop]
  omega

theorem longest (h : LiesIn start text token [] back) : Longest text token.kind back :=
  longest_iff.mpr ⟨h.spelt, h.split, h.ends⟩

theorem append_iff (passed : List Char) :
    LiesIn start (passed ++ text) token (passed ++ front) back ↔
      LiesIn (start + byteLength passed) text token front back := by
  constructor
  · intro h
    refine ⟨?_, ?_, h.spelt, h.ends⟩
    · have hsplit := h.split
      rwa [List.append_assoc, List.append_cancel_left_eq] at hsplit
    · rw [h.offset_eq, Text.byteLength_append, Nat.add_assoc]
  · intro h
    refine ⟨?_, ?_, h.spelt, h.ends⟩
    · rw [h.split, List.append_assoc]
    · rw [h.offset_eq, Text.byteLength_append, Nat.add_assoc]

theorem exists_of_append {passed : List Char}
    (h : LiesIn start (passed ++ text) token front back)
    (hoffset : start + byteLength passed ≤ token.offset) :
    ∃ front, LiesIn (start + byteLength passed) text token front back := by
  have hle : byteLength passed ≤ byteLength front := by
    have hfront := h.offset_eq
    omega
  obtain ⟨middle, rfl⟩ := Text.exists_eq_append_of_byteLength_le h.split hle
  exact ⟨middle, (append_iff passed).mp h⟩

end LiesIn

namespace Partition

variable {token : Token}

theorem start_le (h : Partition start text tokens) (htoken : token ∈ tokens) :
    start ≤ token.offset := by
  obtain ⟨front, back, hlies⟩ := h.lies token htoken
  exact hlies.start_le

theorem offset_lt_stop (h : Partition start text tokens) (htoken : token ∈ tokens) :
    token.offset < token.stop := by
  obtain ⟨front, back, hlies⟩ := h.lies token htoken
  exact hlies.offset_lt_stop

theorem increasing (h : Partition start text tokens) :
    tokens.Pairwise fun token next => token.offset < next.offset ∧ token.stop ≤ next.offset := by
  refine h.ordered.imp_of_mem fun htoken _ hordered => ?_
  exact ⟨Nat.lt_of_lt_of_le (h.offset_lt_stop htoken) hordered, hordered⟩

end Partition

theorem partition_nil_iff : Partition start [] tokens ↔ tokens = [] := by
  constructor
  · intro h
    rw [List.eq_nil_iff_forall_not_mem]
    intro token htoken
    obtain ⟨front, back, hlies⟩ := h.lies token htoken
    have hsplit := hlies.split
    simp [hlies.spelt.text_ne_nil] at hsplit
  · rintro rfl
    exact ⟨nofun, .nil, fun _ _ hbyte => absurd hbyte Text.not_byteOf_nil⟩

theorem partition_blank_iff {c : Char} (hblank : isBlank c = true) :
    Partition start (c :: text) tokens ↔ Partition (start + c.utf8Size) text tokens := by
  constructor
  · intro h
    refine ⟨fun token htoken => ?_, h.ordered, fun byte d hbyte =>
      h.covers byte d (Text.byteOf_cons_iff.mpr (.inr hbyte))⟩
    obtain ⟨front, back, hlies⟩ := h.lies token htoken
    cases front with
    | nil =>
      -- The token would start with the blank.
      simp [hlies.longest.isBlank_eq_false] at hblank
    | cons d front =>
      obtain rfl : c = d := List.head_eq_of_cons_eq hlies.split
      exact ⟨front, back, (LiesIn.append_iff [c]).mp hlies⟩
  · intro h
    refine ⟨fun token htoken => ?_, h.ordered, fun byte d hbyte => ?_⟩
    · obtain ⟨front, back, hlies⟩ := h.lies token htoken
      exact ⟨c :: front, back, (LiesIn.append_iff [c]).mpr hlies⟩
    · rcases Text.byteOf_cons_iff.mp hbyte with ⟨rfl, -, hto⟩ | hbyte
      · have hnone : ¬∃ token ∈ tokens, token.Holds byte := by
          rintro ⟨token, htoken, hfrom, -⟩
          have hstart := h.start_le htoken
          omega
        simp [hnone, hblank]
      · exact h.covers byte d hbyte

theorem Partition.exists_first {c : Char} (h : Partition start (c :: text) tokens)
    (hblank : isBlank c = false) :
    ∃ kind rest others, Longest (c :: text) kind rest ∧ tokens = ⟨kind, start⟩ :: others := by
  have hbyte : ByteOf start (c :: text) start c :=
    ⟨[], text, rfl, Nat.le_refl _, Nat.lt_add_of_pos_right c.utf8Size_pos⟩
  obtain ⟨token, htoken, hfrom, -⟩ := (h.covers start c hbyte).mpr hblank
  obtain ⟨front, back, hlies⟩ := h.lies token htoken
  have hoffset : token.offset = start := Nat.le_antisymm hfrom hlies.start_le
  cases tokens with
  | nil => cases htoken
  | cons first others =>
    rcases List.mem_cons.mp htoken with rfl | hmem
    · have hzero : byteLength front = 0 := by
        have hfront := hlies.offset_eq
        omega
      obtain rfl := Text.byteLength_eq_zero_iff.mp hzero
      subst hoffset
      exact ⟨token.kind, back, others, hlies.longest, rfl⟩
    · -- The tokens before it would have to end where the text starts.
      have hordered := (List.pairwise_cons.mp h.ordered).1 token hmem
      have hfirst : first ∈ first :: others := List.mem_cons_self
      have hstart := h.start_le hfirst
      have hstop := h.offset_lt_stop hfirst
      omega

theorem partition_cons_iff {kind : Kind} (h : Longest text kind rest) :
    Partition start text (⟨kind, start⟩ :: others) ↔
      Partition (start + byteLength kind.text) rest others := by
  obtain ⟨hspelt, rfl, hends⟩ := longest_iff.mp h
  have hbehind {byte : Nat} {c : Char} (hbyte : ByteOf (start + byteLength kind.text) rest byte c) :
      (∃ token ∈ (⟨kind, start⟩ : Token) :: others, token.Holds byte) ↔
        ∃ token ∈ others, token.Holds byte := by
    have hnot : ¬(⟨kind, start⟩ : Token).Holds byte := fun hholds =>
      absurd hholds.2 (Nat.not_lt.mpr hbyte.bounds.1)
    simp [hnot]
  constructor
  · intro hall
    obtain ⟨hordered, hothers⟩ := List.pairwise_cons.mp hall.ordered
    refine ⟨fun token htoken => ?_, hothers, fun byte c hbyte => ?_⟩
    · obtain ⟨front, back, hlies⟩ := hall.lies token (List.mem_cons_of_mem _ htoken)
      obtain ⟨front, hlies⟩ := hlies.exists_of_append (hordered token htoken)
      exact ⟨front, back, hlies⟩
    · rw [← hbehind hbyte]
      exact hall.covers byte c (Text.byteOf_append_iff.mpr (.inr hbyte))
  · intro hall
    refine ⟨List.forall_mem_cons.mpr ⟨⟨[], rest, rfl, rfl, hspelt, hends⟩, fun token htoken => ?_⟩,
      List.pairwise_cons.mpr ⟨fun _ => hall.start_le, hall.ordered⟩, fun byte c hbyte => ?_⟩
    · obtain ⟨front, back, hlies⟩ := hall.lies token htoken
      exact ⟨kind.text ++ front, back, (LiesIn.append_iff kind.text).mpr hlies⟩
    · rcases Text.byteOf_append_iff.mp hbyte with hinside | hbyte
      · exact iff_of_true ⟨_, List.mem_cons_self, hinside.bounds⟩
          (hspelt.isBlank_eq_false hinside.mem)
      · rw [hbehind hbyte]
        exact hall.covers byte c hbyte

theorem scan_eq_ok_iff_partition :
    scan start text = .ok tokens ↔ Partition start text tokens := by
  fun_induction scan start text generalizing tokens with
  | case1 start => simp [partition_nil_iff, eq_comm]
  | case2 start c text hblank ih => rw [partition_blank_iff hblank, ih]
  | case3 start c text hblank hnone =>
    simp only [reduceCtorEq, false_iff]
    intro h
    obtain ⟨kind, rest, others, hlongest, -⟩ := h.exists_first (Bool.not_eq_true _ ▸ hblank)
    exact ofStart?_eq_none_iff.mp hnone kind rest hlongest
  | case4 start c text hblank kind after hfound ih =>
    have hlongest := ofStart?_eq_some_iff.mp hfound
    constructor
    · intro h
      obtain ⟨others, hothers, rfl⟩ := map_eq_ok_iff.mp h
      exact (partition_cons_iff hlongest).mpr (ih.mp hothers)
    · intro h
      obtain ⟨kind', rest, others, hlongest', rfl⟩ :=
        h.exists_first (Bool.not_eq_true _ ▸ hblank)
      -- The first token is the longest one there, as the scanner's is.
      rw [← ofStart?_eq_some_iff, hfound] at hlongest'
      cases hlongest'
      rw [ih.mpr ((partition_cons_iff hlongest).mp h)]
      rfl

theorem LiesIn.isValid {token : Token} {front back : List Char}
    (h : LiesIn 0 text token front back) :
    (⟨token.offset⟩ : String.Pos.Raw).IsValid (String.ofList text) ∧
      (⟨token.stop⟩ : String.Pos.Raw).IsValid (String.ofList text) := by
  have hoffset : token.offset = byteLength front := by rw [h.offset_eq, Nat.zero_add]
  have hstop : token.stop = byteLength (front ++ token.kind.text) := by
    rw [stop, hoffset, Text.byteLength_append]
  constructor
  · rw [hoffset, h.split]
    exact Text.isValid_byteLength front _
  · rw [hstop, h.split, ← List.append_assoc]
    exact Text.isValid_byteLength _ back

/-- The tokens that the scanner gives are stretches of the text between characters, one behind the
other, that hold all but the blanks and end where no word or number goes on. No other list of tokens
lies so in the text. Their texts with single blanks between them split into the same tokens. -/
theorem tokens_partition_text (text : List Char) (tokens : List Token) :
    (scan 0 text = .ok tokens ↔ Partition 0 text tokens) ∧
    (scan 0 text = .ok tokens →
      tokens.Pairwise (fun token next => token.offset < next.offset ∧ token.stop ≤ next.offset) ∧
      (∀ token ∈ tokens, (⟨token.offset⟩ : String.Pos.Raw).IsValid (String.ofList text) ∧
        (⟨token.stop⟩ : String.Pos.Raw).IsValid (String.ofList text)) ∧
      (scan 0 ([' '].intercalate (tokens.map fun token => token.kind.text))).map
        (List.map Token.kind) = .ok (tokens.map Token.kind)) := by
  refine ⟨scan_eq_ok_iff_partition, fun h => ?_⟩
  have hpartition := scan_eq_ok_iff_partition.mp h
  refine ⟨hpartition.increasing, fun token htoken => ?_, ?_⟩
  · obtain ⟨front, back, hlies⟩ := hpartition.lies token htoken
    exact hlies.isValid
  · have hmunch := munch_intercalate_blank (munch_of_scan h).spelt
    rw [List.map_map] at hmunch
    obtain ⟨again, hagain, hkinds⟩ := scan_of_munch hmunch 0
    exact map_eq_ok_iff.mpr ⟨again, hagain, hkinds⟩

theorem tokens_partition_text_unspaced :
    let text := "été\u00a0%10..12日".toList
    let tokens : List Token := [⟨.word ['é', 't', 'é'], 0⟩, ⟨.modulo, 7⟩, ⟨.number ['1', '0'], 8⟩,
      ⟨.range, 10⟩, ⟨.number ['1', '2'], 12⟩, ⟨.word ['日'], 14⟩]
    scan 0 text = .ok tokens ∧ Partition 0 text tokens ∧
      (⟨17⟩ : String.Pos.Raw).IsValid (String.ofList text) ∧
      (scan 0 "été % 10 .. 12 日".toList).map (List.map Token.kind) =
        .ok (tokens.map Token.kind) := by
  intro text tokens
  have hscan : scan 0 text = .ok tokens := by decide +kernel
  obtain ⟨hpartition, hrest⟩ := tokens_partition_text text tokens
  obtain ⟨-, hvalid, hagain⟩ := hrest hscan
  have hlast := (hvalid ⟨.word ['日'], 14⟩ (by decide)).2
  exact ⟨hscan, hpartition.mp hscan, hlast, hagain⟩

end Token

end PluralRules
