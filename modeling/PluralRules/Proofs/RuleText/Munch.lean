import PluralRules.Proofs.Text.CharacterClass
import PluralRules.RuleText.Token

/-!
Tokens by maximal munch, said without the scanner: a token is the longest spelling that the text
starts with, and blanks between tokens are skipped. Scanning succeeds exactly on the texts that
split so, and gives the only tokens they split into.
-/

namespace PluralRules.Token

def Kind.Spelt : Kind → Prop
  | word letters => letters ≠ [] ∧ ∀ c ∈ letters, Text.isLetter c = true
  | number digits => digits ≠ [] ∧ ∀ c ∈ digits, c.isDigit = true
  | equal | notEqual | modulo | comma | range => True

/-- The text starts with this token, and no longer prefix of it spells a token. -/
structure Longest (text : List Char) (kind : Kind) (rest : List Char) : Prop where
  spelt : kind.Spelt
  split : text = kind.text ++ rest
  maximal : ∀ (other : Kind) (after : List Char), other.Spelt → text = other.text ++ after →
    other.text.length ≤ kind.text.length

/-- The text up to `rest` splits into these tokens, each the longest at its place, and blanks. -/
inductive Munch : List Char → List Kind → List Char → Prop where
  | done (text : List Char) : Munch text [] text
  | blank {c : Char} {text rest : List Char} {kinds : List Kind} :
    Text.isBlank c = true → Munch text kinds rest → Munch (c :: text) kinds rest
  | token {text after rest : List Char} {kind : Kind} {kinds : List Kind} :
    Longest text kind after → Munch after kinds rest → Munch text (kind :: kinds) rest

namespace Kind

def extend (rest : List Char) : Kind → Kind × List Char
  | word letters => (word (letters ++ rest.takeWhile Text.isLetter), rest.dropWhile Text.isLetter)
  | number digits => (number (digits ++ rest.takeWhile Char.isDigit), rest.dropWhile Char.isDigit)
  | kind => (kind, rest)

theorem length_text_le_extend (kind : Kind) (rest : List Char) :
    kind.text.length ≤ (kind.extend rest).1.text.length := by
  cases kind <;> simp only [extend, text, List.length_append] <;> omega

theorem ofStart?_of_isDigit {c : Char} (h : c.isDigit = true) (text : List Char) :
    ofStart? (c :: text) =
      some (number (c :: text.takeWhile Char.isDigit), text.dropWhile Char.isDigit) := by
  unfold ofStart?
  -- The scanner tries the signs first, but no sign starts with a digit.
  split
  case h_6 heq => cases heq
  case h_7 heq =>
    cases heq
    rw [if_pos h]
  all_goals
    rename_i heq
    cases heq
    exact absurd h (by decide)

theorem ofStart?_of_isLetter {c : Char} (h : Text.isLetter c = true) (text : List Char) :
    ofStart? (c :: text) =
      some (word (c :: text.takeWhile Text.isLetter), text.dropWhile Text.isLetter) := by
  unfold ofStart?
  split
  case h_6 heq => cases heq
  case h_7 heq =>
    cases heq
    rw [Text.isDigit_eq_false_of_isLetter h, if_neg Bool.false_ne_true, if_pos h]
  all_goals
    rename_i heq
    cases heq
    exact absurd h (by decide)

def EndsBefore (rest : List Char) : Kind → Prop
  | word _ => ∀ c ∈ rest.head?, Text.isLetter c = false
  | number _ => ∀ c ∈ rest.head?, c.isDigit = false
  | equal | notEqual | modulo | comma | range => True

theorem extend_eq_iff {kind : Kind} {rest : List Char} :
    kind.extend rest = (kind, rest) ↔ kind.EndsBefore rest := by
  cases rest with
  | nil => cases kind <;> simp [extend, EndsBefore]
  | cons c rest =>
    cases kind with
    | word letters => by_cases hc : Text.isLetter c = true <;> simp [extend, EndsBefore, hc]
    | number digits => by_cases hc : c.isDigit = true <;> simp [extend, EndsBefore, hc]
    | equal | notEqual | modulo | comma | range => simp [extend, EndsBefore]

theorem extend_eq_of_length_le {kind : Kind} {rest : List Char}
    (h : (kind.extend rest).1.text.length ≤ kind.text.length) :
    kind.extend rest = (kind, rest) := by
  have hnone (p : Char → Bool) (hp : (rest.takeWhile p).length = 0) :
      rest.takeWhile p = [] ∧ rest.dropWhile p = rest := by
    have hnil := List.eq_nil_of_length_eq_zero hp
    have happend := List.takeWhile_append_dropWhile (p := p) (l := rest)
    exact ⟨hnil, by rwa [hnil, List.nil_append] at happend⟩
  cases kind with
  | word letters =>
    simp only [extend, text, List.length_append] at h
    obtain ⟨htake, hdrop⟩ := hnone Text.isLetter (by omega)
    simp only [extend, htake, hdrop, List.append_nil]
  | number digits =>
    simp only [extend, text, List.length_append] at h
    obtain ⟨htake, hdrop⟩ := hnone Char.isDigit (by omega)
    simp only [extend, htake, hdrop, List.append_nil]
  | equal | notEqual | modulo | comma | range => rfl

theorem ofStart?_text_append {kind : Kind} (h : kind.Spelt) (rest : List Char) :
    ofStart? (kind.text ++ rest) = some (kind.extend rest) := by
  cases kind with
  | word letters =>
    obtain ⟨hne, hall⟩ := h
    obtain ⟨c, letters, rfl⟩ := List.exists_cons_of_ne_nil hne
    have htail : ∀ d ∈ letters, Text.isLetter d = true := fun d hd =>
      hall d (List.mem_cons_of_mem _ hd)
    rw [text, List.cons_append, ofStart?_of_isLetter (hall c List.mem_cons_self),
      List.takeWhile_append_of_pos htail, List.dropWhile_append_of_pos htail]
    rfl
  | number digits =>
    obtain ⟨hne, hall⟩ := h
    obtain ⟨c, digits, rfl⟩ := List.exists_cons_of_ne_nil hne
    have htail : ∀ d ∈ digits, d.isDigit = true := fun d hd =>
      hall d (List.mem_cons_of_mem _ hd)
    rw [text, List.cons_append, ofStart?_of_isDigit (hall c List.mem_cons_self),
      List.takeWhile_append_of_pos htail, List.dropWhile_append_of_pos htail]
    rfl
  | equal | notEqual | modulo | comma | range => rfl

theorem split_of_ofStart? {text rest : List Char} {kind : Kind}
    (h : ofStart? text = some (kind, rest)) : kind.Spelt ∧ text = kind.text ++ rest := by
  unfold ofStart? at h
  split at h
  case h_6 => cases h
  case h_7 c text _ _ _ _ _ =>
    split at h
    case isTrue hdigit =>
      cases h
      refine ⟨⟨List.cons_ne_nil _ _, fun d hd => ?_⟩, ?_⟩
      · rcases List.mem_cons.mp hd with rfl | hd
        · exact hdigit
        · exact List.all_eq_true.mp List.all_takeWhile d hd
      · simp only [Kind.text, List.cons_append, List.takeWhile_append_dropWhile]
    case isFalse =>
      split at h
      case isTrue hletter =>
        cases h
        refine ⟨⟨List.cons_ne_nil _ _, fun d hd => ?_⟩, ?_⟩
        · rcases List.mem_cons.mp hd with rfl | hd
          · exact hletter
          · exact List.all_eq_true.mp List.all_takeWhile d hd
        · simp only [Kind.text, List.cons_append, List.takeWhile_append_dropWhile]
      case isFalse => cases h
  all_goals
    cases h
    exact ⟨trivial, rfl⟩

end Kind

theorem ofStart?_eq_some_iff {text rest : List Char} {kind : Kind} :
    Kind.ofStart? text = some (kind, rest) ↔ Longest text kind rest := by
  constructor
  · intro h
    obtain ⟨hspelt, hsplit⟩ := Kind.split_of_ofStart? h
    refine ⟨hspelt, hsplit, fun other after hother htext => ?_⟩
    -- From any token at the start, the scanner reaches the same lengthened token.
    rw [htext, Kind.ofStart?_text_append hother] at h
    have hlength := other.length_text_le_extend after
    rwa [Option.some.inj h] at hlength
  · intro h
    -- The lengthened token is a prefix too, so by maximality nothing was added to it.
    have hfound := Kind.ofStart?_text_append h.spelt rest
    rw [← h.split] at hfound
    obtain ⟨hspelt, hsplit⟩ := Kind.split_of_ofStart? hfound
    rwa [Kind.extend_eq_of_length_le (h.maximal _ _ hspelt hsplit)] at hfound

theorem longest_iff {text rest : List Char} {kind : Kind} :
    Longest text kind rest ↔ kind.Spelt ∧ text = kind.text ++ rest ∧ kind.EndsBefore rest := by
  constructor
  · intro h
    have hfound := Kind.ofStart?_text_append h.spelt rest
    rw [← h.split, ofStart?_eq_some_iff.mpr h] at hfound
    exact ⟨h.spelt, h.split, Kind.extend_eq_iff.mp (Option.some.inj hfound).symm⟩
  · rintro ⟨hspelt, rfl, hends⟩
    rw [← ofStart?_eq_some_iff, Kind.ofStart?_text_append hspelt, Kind.extend_eq_iff.mpr hends]

theorem ofStart?_eq_none_iff {text : List Char} :
    Kind.ofStart? text = none ↔ ∀ kind rest, ¬Longest text kind rest := by
  simp only [← ofStart?_eq_some_iff, Option.eq_none_iff_forall_ne_some, ne_eq, Prod.forall]

theorem Kind.Spelt.mem_text {kind : Kind} (h : kind.Spelt) {c : Char} (hc : c ∈ kind.text) :
    Text.isLetter c = true ∨ c.isDigit = true ∨ c ∈ ['=', '!', '%', ',', '.'] := by
  cases kind with
  | word letters => exact .inl (h.2 c hc)
  | number digits => exact .inr (.inl (h.2 c hc))
  | equal | notEqual | modulo | comma | range =>
    refine .inr (.inr ?_)
    rcases hc with _ | ⟨_, _ | ⟨_, _ | _⟩⟩ <;> decide

theorem Kind.Spelt.isBlank_eq_false {kind : Kind} (h : kind.Spelt) {c : Char}
    (hc : c ∈ kind.text) : Text.isBlank c = false := by
  rw [← Bool.not_eq_true]
  intro hblank
  rcases h.mem_text hc with hletter | hdigit | hsign
  · simp [Text.isLetter_eq_false_of_isBlank hblank] at hletter
  · simp [Text.isDigit_eq_false_of_isBlank hblank] at hdigit
  · have hsigns : ['=', '!', '%', ',', '.'].any Text.isBlank = false := by decide
    exact absurd hblank (List.any_eq_false.mp hsigns c hsign)

theorem Kind.Spelt.text_ne_nil {kind : Kind} (h : kind.Spelt) : kind.text ≠ [] := by
  cases kind with
  | word | number => exact h.1
  | equal | notEqual | modulo | comma | range => exact List.cons_ne_nil _ _

theorem Longest.isBlank_eq_false {c : Char} {text rest : List Char} {kind : Kind}
    (h : Longest (c :: text) kind rest) : Text.isBlank c = false := by
  obtain ⟨first, others, hkind⟩ := List.exists_cons_of_ne_nil h.spelt.text_ne_nil
  have hsplit := h.split
  rw [hkind] at hsplit
  cases hsplit
  exact h.spelt.isBlank_eq_false (hkind ▸ List.mem_cons_self)

theorem not_longest_nil {rest : List Char} {kind : Kind} : ¬Longest [] kind rest :=
  ofStart?_eq_none_iff.mp rfl kind rest

theorem Munch.at_notMem {text : List Char} {kinds : List Kind} (h : Munch text kinds []) :
    '@' ∉ text := by
  -- The induction needs a variable for what is left; that it is empty matters at the end only.
  generalize hrest : ([] : List Char) = rest at h
  induction h with
  | done => simp [← hrest]
  | blank hblank _ ih =>
    rintro (_ | ⟨_, hmem⟩)
    · exact absurd hblank (by decide)
    · exact ih hrest hmem
  | token hlongest _ ih =>
    rw [hlongest.split, List.mem_append]
    rintro (hmem | hmem)
    · exact absurd (hlongest.spelt.mem_text hmem) (by decide)
    · exact ih hrest hmem

theorem scan_blank {c : Char} (h : Text.isBlank c = true) (offset : Nat) (text : List Char) :
    scan offset (c :: text) = scan (offset + c.utf8Size) text := by
  rw [scan, if_pos h]

theorem scan_token {text rest : List Char} {kind : Kind} (h : Longest text kind rest)
    (offset : Nat) :
    scan offset text =
      (scan (offset + Text.byteLength kind.text) rest).map (⟨kind, offset⟩ :: ·) := by
  cases text with
  | nil => exact absurd h not_longest_nil
  | cons c text =>
    rw [scan, if_neg (Bool.not_eq_true _ ▸ h.isBlank_eq_false)]
    split
    · rename_i hnone
      exact absurd h (ofStart?_eq_none_iff.mp hnone kind rest)
    · rename_i hsome
      rw [ofStart?_eq_some_iff.mpr h] at hsome
      cases hsome
      rfl

theorem munch_of_scan {offset : Nat} {text : List Char} {tokens : List Token}
    (h : scan offset text = .ok tokens) : Munch text (tokens.map Token.kind) [] := by
  fun_induction scan offset text generalizing tokens with
  | case1 =>
    cases h
    exact .done []
  | case2 offset c rest hblank ih => exact .blank hblank (ih h)
  | case3 => cases h
  | case4 offset c rest hblank kind after hfound ih =>
    obtain ⟨others, hscan, rfl⟩ := map_eq_ok_iff.mp h
    exact .token (ofStart?_eq_some_iff.mp hfound) (ih hscan)

theorem scan_of_munch {text : List Char} {kinds : List Kind} (h : Munch text kinds [])
    (offset : Nat) : ∃ tokens, scan offset text = .ok tokens ∧ tokens.map Token.kind = kinds := by
  generalize hrest : ([] : List Char) = rest at h
  induction h generalizing offset with
  | done text =>
    subst hrest
    exact ⟨[], by rw [scan], rfl⟩
  | blank hblank _ ih =>
    rw [scan_blank hblank]
    exact ih _ hrest
  | @token text after rest kind kinds hlongest _ ih =>
    obtain ⟨tokens, hscan, hkinds⟩ := ih (offset + Text.byteLength kind.text) hrest
    refine ⟨⟨kind, offset⟩ :: tokens, ?_, by rw [List.map_cons, hkinds]⟩
    rw [scan_token hlongest, hscan]
    rfl

theorem Munch.unique {text : List Char} {kinds others : List Kind} (h : Munch text kinds [])
    (hother : Munch text others []) : kinds = others := by
  obtain ⟨tokens, hscan, rfl⟩ := scan_of_munch h 0
  obtain ⟨tokens', hscan', rfl⟩ := scan_of_munch hother 0
  rw [hscan] at hscan'
  cases hscan'
  rfl

end PluralRules.Token
