import PluralRules.Proofs.Text.Lines
import PluralRules.Report.Diagnostic

/-!
Where the label of a fault in a file stands. A reader places the fault by what it has consumed: the
line, and the bytes of the line. The label is counted from the lines of the text, each with one byte
for its end, so it falls short by one byte for each line before it that ends in two.
-/

namespace PluralRules

open Text

def Position.ofBytes (consumed : List UInt8) : Position :=
  ⟨consumed.count lineFeed + 1, columnOf consumed⟩

/-- A reader of the bytes can come to the position. -/
def Position.Reached (position : Position) (bytes : List UInt8) : Prop :=
  ∃ consumed, consumed <+: bytes ∧ position = .ofBytes consumed

/-- Byte `k` stands at the position: one line feed less than the number of the line is before it,
and behind the last of them all bytes of the column but its last. -/
structure Position.Marks (position : Position) (bytes : List UInt8) (k : ℕ) : Prop where
  le_length : k ≤ bytes.length
  lines : (bytes.take k).count lineFeed = position.line - 1
  column : columnOf (bytes.take k) = max position.column 1 - 1

theorem Position.Marks.unique {position : Position} {bytes : List UInt8} {j k : ℕ}
    (hj : position.Marks bytes j) (hk : position.Marks bytes k) : j = k := by
  obtain ⟨front, tail, hfirst, hfront, htail⟩ := exists_eq_lines_append (bytes.take j)
  obtain ⟨front', tail', hsecond, hfront', htail'⟩ := exists_eq_lines_append (bytes.take k)
  have hlines := hj.lines.trans hk.lines.symm
  have hcolumn := hj.column.trans hk.column.symm
  rw [hfirst, hsecond, count_lines_append htail, count_lines_append htail'] at hlines
  rw [hfirst, hsecond, columnOf_append _ htail, columnOf_append _ htail',
    hfront.columnOf_eq_zero, hfront'.columnOf_eq_zero] at hcolumn
  have hinit : front <+: bytes :=
    .trans ⟨tail, hfirst.symm⟩ ⟨bytes.drop j, List.take_append_drop ..⟩
  have hinit' : front' <+: bytes :=
    .trans ⟨tail', hsecond.symm⟩ ⟨bytes.drop k, List.take_append_drop ..⟩
  -- Both bytes stand behind the same whole lines, so the column decides.
  obtain rfl := hfront.unique hfront' hinit hinit' hlines
  have hj' := congrArg List.length hfirst
  have hk' := congrArg List.length hsecond
  rw [List.length_take_of_le hj.le_length, List.length_append] at hj'
  rw [List.length_take_of_le hk.le_length, List.length_append] at hk'
  omega

theorem Position.ofUnread_eq (text unread : List Char) :
    Position.ofUnread text unread =
      .ofBytes (encode (text.take (text.length - unread.length))) := by
  rw [Position.ofUnread, Position.ofBytes]
  generalize text.take (text.length - unread.length) = read
  induction read using List.reverseRecOn with
  | nil => rfl
  | append_singleton read c ih =>
    rw [Position.mk.injEq] at ih ⊢
    obtain ⟨hline, hcolumn⟩ := ih
    by_cases hc : c = '\n'
    · subst hc
      have hend : EndsLine (encode (read ++ ['\n'])) :=
        .inr ⟨encode read, encode_append ..⟩
      rw [hend.columnOf_eq_zero, List.reverse_concat, List.takeWhile_cons_of_neg (by simp),
        encode_append, List.count_append, List.count_append]
      exact ⟨congrArg (· + 1) hline, rfl⟩
    · have hmem : lineFeed ∉ encode [c] := by
        rw [encode, List.flatMap_singleton]
        exact lineFeed_notMem_utf8EncodeChar hc
      rw [encode_append, count_lines_append hmem, columnOf_append _ hmem, ← hcolumn,
        List.count_append, List.count_singleton, if_neg (by simpa using hc), List.reverse_concat,
        List.takeWhile_cons_of_pos (by simpa using hc), length_encode]
      refine ⟨hline, ?_⟩
      simp only [byteLength]
      omega

theorem textLines_eq_nil_iff {text : List Char} : textLines text = [] ↔ text = [] := by
  induction text using textLines.induct <;> simp_all [textLines]

theorem textLines_cons {c : Char} {rest line : List Char} {lines : List (List Char)}
    (hcrlf : ∀ more, c = '\r' → rest = '\n' :: more → False) (hlf : c ≠ '\n')
    (h : textLines rest = line :: lines) : textLines (c :: rest) = (c :: line) :: lines := by
  rw [textLines, h]
  · exact hcrlf
  · exact hlf

/-- The text begins with `n` lines, the text `early`, and the label counts one byte less for each of
them that ends in two. -/
structure FirstLines (content early : List Char) (n : ℕ) : Prop where
  starts : early <+: content
  endsLine : EndsLine (encode early)
  count : (encode early).count lineFeed = n
  counted : byteLength (((textLines content).take n).flatMap (· ++ ['\n'])) +
    returns (encode early) = byteLength early

namespace FirstLines

variable {rest early : List Char} {n : ℕ}

theorem zero (content : List Char) : FirstLines content [] 0 :=
  ⟨List.nil_prefix, .inl rfl, rfl, rfl⟩

theorem lf (h : FirstLines rest early n) :
    FirstLines ('\n' :: rest) ('\n' :: early) (n + 1) where
  starts := List.cons_prefix_cons.mpr ⟨rfl, h.starts⟩
  endsLine := EndsLine.append (.inr ⟨[], rfl⟩) h.endsLine
  count := by rw [encode_lf, List.count_cons_self, h.count]
  counted := by
    have hcounted := h.counted
    rw [encode_lf, returns_cons_lf]
    simp only [textLines, List.take_succ_cons, List.flatMap_cons, byteLength,
      byteLength_append, List.nil_append] at hcounted ⊢
    omega

theorem crlf (h : FirstLines rest early n) :
    FirstLines ('\r' :: '\n' :: rest) ('\r' :: '\n' :: early) (n + 1) where
  starts := List.cons_prefix_cons.mpr ⟨rfl, List.cons_prefix_cons.mpr ⟨rfl, h.starts⟩⟩
  endsLine := by
    rw [encode_cr, encode_lf]
    exact EndsLine.append (.inr ⟨[carriageReturn], rfl⟩) h.endsLine
  count := by
    rw [encode_cr, encode_lf, List.count_cons_of_ne (by decide), List.count_cons_self,
      h.count]
  counted := by
    have hcounted := h.counted
    rw [encode_cr, encode_lf, returns_cons_crlf]
    have hsize : ('\r').utf8Size = 1 := rfl
    simp only [textLines, List.take_succ_cons, List.flatMap_cons, byteLength,
      byteLength_append, List.nil_append, hsize] at hcounted ⊢
    omega

theorem cons {c : Char} (hcrlf : ∀ more, c = '\r' → rest = '\n' :: more → False) (hlf : c ≠ '\n')
    (h : FirstLines rest early (n + 1)) : FirstLines (c :: rest) (c :: early) (n + 1) where
  starts := List.cons_prefix_cons.mpr ⟨rfl, h.starts⟩
  endsLine := by
    rw [encode_cons]
    refine h.endsLine.append_of_mem _ (List.count_pos_iff.mp ?_)
    rw [h.count]
    exact Nat.succ_pos n
  count := by
    rw [encode_cons, List.count_append, h.count,
      List.count_eq_zero.mpr (lineFeed_notMem_utf8EncodeChar hlf), Nat.zero_add]
  counted := by
    have hcounted := h.counted
    have hearly : early ≠ [] := by
      rintro rfl
      exact absurd h.count nofun
    obtain ⟨line, lines, hlines⟩ : ∃ line lines, textLines rest = line :: lines := by
      refine List.exists_cons_of_ne_nil fun hnil => hearly ?_
      rw [textLines_eq_nil_iff.mp hnil] at h
      exact List.prefix_nil.mp h.starts
    have hpair : c = '\r' → (encode early).head? ≠ some lineFeed := by
      intro hc hhead
      obtain ⟨more, rfl⟩ := exists_eq_cons_of_head? hhead
      obtain ⟨others, rfl⟩ := h.starts
      exact hcrlf (more ++ others) hc rfl
    rw [returns_encode_cons hpair, textLines_cons hcrlf hlf hlines]
    rw [hlines] at hcounted
    simp only [List.take_succ_cons, List.flatMap_cons, byteLength, List.cons_append,
      byteLength_append] at hcounted ⊢
    omega

end FirstLines

theorem exists_firstLines (content : List Char) {n : ℕ}
    (hn : n ≤ (encode content).count lineFeed) : ∃ early, FirstLines content early n := by
  induction content using textLines.induct generalizing n with
  | case1 =>
    obtain rfl := Nat.le_zero.mp hn
    exact ⟨[], .zero []⟩
  | case2 rest ih =>
    rcases n with _ | n
    · exact ⟨[], .zero _⟩
    rw [encode_cr, encode_lf, List.count_cons_of_ne (by decide),
      List.count_cons_self] at hn
    obtain ⟨early, h⟩ := ih (Nat.le_of_succ_le_succ hn)
    exact ⟨_, h.crlf⟩
  | case3 rest ih =>
    rcases n with _ | n
    · exact ⟨[], .zero _⟩
    rw [encode_lf, List.count_cons_self] at hn
    obtain ⟨early, h⟩ := ih (Nat.le_of_succ_le_succ hn)
    exact ⟨_, h.lf⟩
  | case4 c rest hcrlf hlf _ ih | case5 c rest hcrlf hlf _ _ _ ih =>
    rcases n with _ | n
    · exact ⟨[], .zero _⟩
    rw [encode_cons, List.count_append,
      List.count_eq_zero.mpr (lineFeed_notMem_utf8EncodeChar hlf), Nat.zero_add] at hn
    obtain ⟨early, h⟩ := ih hn
    exact ⟨_, h.cons hcrlf hlf⟩

theorem reached_of_readRecords {content : String} {cause : Json.Mismatch} {position : Position}
    (h : readRecords content = .error (.mismatch cause position)) :
    position.Reached content.toUTF8.data.toList := by
  rw [readRecords] at h
  cases hfault : Json.records content.toList with
  | ok records =>
    rw [hfault] at h
    cases h
  | error fault =>
    rw [hfault] at h
    cases fault with
    | endOfText | grammar => cases h
    | mismatch cause unread =>
      obtain ⟨-, rfl⟩ := RecordsError.mismatch.inj (Except.error.inj h)
      rw [Position.ofUnread_eq, toList_toUTF8]
      set n := content.toList.length - unread.length
      refine ⟨encode (content.toList.take n), ⟨encode (content.toList.drop n), ?_⟩, rfl⟩
      rw [← encode_append, List.take_append_drop, encode]

section

variable {front tail unread : List UInt8}

theorem take_eq_append_take (front tail unread : List UInt8) :
    (front ++ tail ++ unread).take (front.length + (tail.length - 1)) =
      front ++ tail.take (tail.length - 1) := by
  rw [List.append_assoc, List.take_length_add_append, List.take_append_of_le_length (by omega)]

theorem Position.ofBytes_append (hfront : EndsLine front) (htail : lineFeed ∉ tail) :
    ofBytes (front ++ tail) = ⟨front.count lineFeed + 1, tail.length⟩ := by
  rw [ofBytes, count_lines_append htail, columnOf_append _ htail, hfront.columnOf_eq_zero,
    Nat.zero_add]

theorem Position.marks_ofBytes (unread : List UInt8) (hfront : EndsLine front)
    (htail : lineFeed ∉ tail) :
    (Position.ofBytes (front ++ tail)).Marks (front ++ tail ++ unread)
      (front.length + (tail.length - 1)) where
  le_length := by
    rw [List.length_append, List.length_append]
    omega
  lines := by
    rw [take_eq_append_take, count_lines_append fun h => htail (List.mem_of_mem_take h),
      ofBytes_append hfront htail, Nat.add_sub_cancel]
  column := by
    rw [take_eq_append_take, columnOf_append _ fun h => htail (List.mem_of_mem_take h),
      ofBytes_append hfront htail, hfront.columnOf_eq_zero, List.length_take]
    dsimp only
    omega

theorem Diagnostic.byteAt_add_returns {content : List Char} (hfront : EndsLine front)
    (htail : lineFeed ∉ tail) (hcontent : front ++ tail ++ unread = encode content) :
    byteAt content (.ofBytes (front ++ tail)) + returns front =
      front.length + (tail.length - 1) := by
  have hcount : front.count lineFeed ≤ (encode content).count lineFeed := by
    rw [← hcontent, List.count_append, List.count_append]
    omega
  obtain ⟨early, hearly⟩ := exists_firstLines content hcount
  -- The lines counted from the text are the lines that the reader has consumed.
  have hlines : encode early = front := by
    obtain ⟨rest, rfl⟩ := hearly.starts
    refine hearly.endsLine.unique hfront ⟨encode rest, (encode_append ..).symm⟩
      ⟨tail ++ unread, ?_⟩ hearly.count
    rw [← List.append_assoc, hcontent]
  have hcounted := hearly.counted
  have hlength := congrArg List.length hcontent
  rw [hlines, ← length_encode early, hlines] at hcounted
  rw [List.length_append, List.length_append, length_encode] at hlength
  rw [Position.ofBytes_append hfront htail]
  dsimp only [byteAt]
  rw [Nat.add_sub_cancel]
  omega

end

/-- The position of a fault marks one byte. The label stands before it by as many bytes as lines
before it end in two, so it stands at it exactly when none of them does. -/
theorem Diagnostic.ofJsonError_marks_iff (path content : String) (error : JsonError)
    (h : error.position.Reached content.toUTF8.data.toList) :
    ∃ k, (∀ j, error.position.Marks content.toUTF8.data.toList j ↔ j = k) ∧
      (ofJsonError path content error).offset +
        returns (content.toUTF8.data.toList.take k) = k ∧
      (error.position.Marks content.toUTF8.data.toList (ofJsonError path content error).offset ↔
        returns (content.toUTF8.data.toList.take k) = 0) := by
  rw [toList_toUTF8, ← encode] at h ⊢
  obtain ⟨consumed, ⟨unread, hcontent⟩, hposition⟩ := h
  obtain ⟨front, tail, rfl, hfront, htail⟩ := exists_eq_lines_append consumed
  have hmarks : ∀ j, error.position.Marks (encode content.toList) j ↔
      j = front.length + (tail.length - 1) := by
    intro j
    have hmarked := Position.marks_ofBytes unread hfront htail
    rw [hcontent, ← hposition] at hmarked
    exact ⟨fun h => h.unique hmarked, fun h => h ▸ hmarked⟩
  have hoffset : (ofJsonError path content error).offset + returns front =
      front.length + (tail.length - 1) := by
    rw [← byteAt_add_returns hfront htail hcontent, ← hposition]
    rfl
  have hreturns : returns ((encode content.toList).take (front.length + (tail.length - 1))) =
      returns front := by
    rw [← hcontent, take_eq_append_take,
      returns_append_tail _ fun h => htail (List.mem_of_mem_take h)]
  refine ⟨_, hmarks, ?_, ?_⟩
  · rw [hreturns, hoffset]
  · rw [hmarks, hreturns, ← hoffset]
    omega

theorem Diagnostic.ofJsonError_marks_iff_third_line :
    let mismatch : Json.Mismatch := .wrongType (.number (.integer 3)) "struct RuleRecord"
    let error : JsonError := ⟨mismatch.text, ⟨3, 2⟩⟩
    let bytes := "[\r\n\r\n 3]".toUTF8.data.toList
    let label := (ofJsonError "rules.json" "[\r\n\r\n 3]" error).offset
    readRecords "[\r\n\r\n 3]" = .error (.mismatch mismatch ⟨3, 2⟩) ∧
      error.position.Reached bytes ∧
      ∃ k, (∀ j, error.position.Marks bytes j ↔ j = k) ∧ label + returns (bytes.take k) = k ∧
        (error.position.Marks bytes label ↔ returns (bytes.take k) = 0) := by
  intro mismatch error bytes label
  have h : readRecords "[\r\n\r\n 3]" = .error (.mismatch mismatch ⟨3, 2⟩) := by decide +kernel
  have hreached : error.position.Reached bytes := reached_of_readRecords h
  exact ⟨h, hreached, ofJsonError_marks_iff "rules.json" _ error hreached⟩

/-- Behind one line that ends in two bytes, the label stands at the line feed before the fault. -/
theorem Diagnostic.label_behind_crlf :
    let mismatch : Json.Mismatch := .wrongType (.number (.integer 3)) "struct RuleRecord"
    let error : JsonError := ⟨mismatch.text, ⟨2, 1⟩⟩
    let bytes := "[\r\n3]".toUTF8.data.toList
    readRecords "[\r\n3]" = .error (.mismatch mismatch ⟨2, 1⟩) ∧ error.position.Marks bytes 3 ∧
      (ofJsonError "rules.json" "[\r\n3]" error).offset = 2 ∧ bytes[2]? = some lineFeed ∧
      ¬ error.position.Marks bytes 2 :=
  ⟨by decide +kernel, ⟨by decide +kernel, by decide +kernel, by decide +kernel⟩, by decide +kernel,
    by decide +kernel, fun h => absurd h.lines (by decide +kernel)⟩

end PluralRules
