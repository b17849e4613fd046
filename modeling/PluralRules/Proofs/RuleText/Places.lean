import PluralRules.Proofs.RuleText.Spelling
import PluralRules.Proofs.Text.ByteLength

/-!
Where the tokens of a text stand. Each place at which a token starts, or at which none does, cuts
the text in two; the text before the cut splits into the tokens before it, and its length in bytes
is the offset that the scanner gives.
-/

namespace PluralRules

open Token (Kind)

namespace Text

theorem exists_eq_trimEnd_append (text : List Char) :
    ∃ blanks, text = trimEnd text ++ blanks ∧ ∀ c ∈ blanks, isBlank c = true := by
  refine ⟨(text.reverse.takeWhile isBlank).reverse, ?_, fun c hc => ?_⟩
  · rw [trimEnd, ← List.reverse_append, List.takeWhile_append_dropWhile, List.reverse_reverse]
  · exact List.all_eq_true.mp List.all_takeWhile c (List.mem_reverse.mp hc)

end Text

namespace Token

theorem Munch.spelt {text rest : List Char} {kinds : List Kind} (h : Munch text kinds rest) :
    ∀ kind ∈ kinds, kind.Spelt := by
  induction h with
  | done => exact nofun
  | blank _ _ ih => exact ih
  | token hlongest _ ih => exact List.forall_mem_cons.mpr ⟨hlongest.spelt, ih⟩

theorem Longest.cut {text after rest : List Char} {kind : Kind}
    (h : Longest (text ++ rest) kind (after ++ rest)) : Longest text kind after := by
  refine ⟨h.spelt, ?_, fun other behind hother htext => ?_⟩
  · have hsplit := h.split
    rw [← List.append_assoc] at hsplit
    exact List.append_cancel_right hsplit
  · refine h.maximal other (behind ++ rest) hother ?_
    rw [htext, List.append_assoc]

theorem Munch.exists_front {text rest : List Char} {kinds : List Kind}
    (h : Munch text kinds rest) : ∃ front, text = front ++ rest ∧ Munch front kinds [] := by
  induction h with
  | done text => exact ⟨[], rfl, .done []⟩
  | @blank c _ _ _ hblank _ ih =>
    obtain ⟨front, rfl, hfront⟩ := ih
    exact ⟨c :: front, rfl, .blank hblank hfront⟩
  | @token text _ rest kind kinds hlongest _ ih =>
    obtain ⟨front, rfl, hfront⟩ := ih
    have htext : text = (kind.text ++ front) ++ rest := by
      rw [hlongest.split, List.append_assoc]
    subst htext
    exact ⟨kind.text ++ front, rfl, .token hlongest.cut hfront⟩

theorem Munch.cut {front rest : List Char} {kinds : List Kind}
    (h : Munch (front ++ rest) kinds rest) : Munch front kinds [] := by
  obtain ⟨front', htext, hfront⟩ := h.exists_front
  rwa [List.append_cancel_right htext]

theorem Longest.exists_split {front blanks after : List Char} {kind : Kind}
    (h : Longest (front ++ blanks) kind after) (hblanks : ∀ c ∈ blanks, Text.isBlank c = true) :
    ∃ middle, front = kind.text ++ middle ∧ after = middle ++ blanks := by
  rcases List.append_eq_append_iff.mp h.split with ⟨inside, hkind, rfl⟩ | ⟨middle, rfl, rfl⟩
  · cases inside with
    | nil => exact ⟨[], by simpa using hkind.symm, rfl⟩
    | cons c inside =>
      have hblank : Text.isBlank c = true := hblanks c List.mem_cons_self
      have hmem : c ∈ kind.text := by simp [hkind]
      simp [h.spelt.isBlank_eq_false hmem] at hblank
  · exact ⟨middle, rfl, rfl⟩

theorem Munch.dropBlanks {front blanks : List Char} {kinds : List Kind}
    (h : Munch (front ++ blanks) kinds []) (hblanks : ∀ c ∈ blanks, Text.isBlank c = true) :
    Munch front kinds [] := by
  generalize htext : front ++ blanks = text at h
  generalize hrest : ([] : List Char) = rest at h
  induction h generalizing front blanks with
  | done text =>
    subst hrest
    obtain ⟨rfl, -⟩ := List.append_eq_nil_iff.mp htext
    exact .done []
  | blank hblank _ ih =>
    cases front with
    | nil =>
      cases htext
      exact ih (List.forall_mem_cons.mp hblanks).2 (List.nil_append _) hrest
    | cons c front =>
      cases htext
      exact .blank hblank (ih hblanks rfl hrest)
  | token hlongest _ ih =>
    subst htext
    obtain ⟨middle, rfl, rfl⟩ := hlongest.exists_split hblanks
    exact .token hlongest.cut (ih hblanks rfl hrest)

theorem Munch.trimEnd {text : List Char} {kinds : List Kind} (h : Munch text kinds []) :
    Munch (Text.trimEnd text) kinds [] := by
  obtain ⟨blanks, htext, hblanks⟩ := Text.exists_eq_trimEnd_append text
  rw [htext] at h
  exact h.dropBlanks hblanks

theorem Kind.EndsBefore.append {kind : Kind} {after rest : List Char}
    (h : kind.EndsBefore after) (hrest : Breaks rest) : kind.EndsBefore (after ++ rest) := by
  cases after with
  | nil => exact kind.endsBefore_of_breaks hrest
  | cons c after =>
    cases kind with
    | word | number => exact h
    | equal | notEqual | modulo | comma | range => trivial

theorem Munch.before {text rest : List Char} {kinds : List Kind} (h : Munch text kinds [])
    (hrest : Breaks rest) : Munch (text ++ rest) kinds rest := by
  generalize hend : ([] : List Char) = last at h
  induction h with
  | done text =>
    subst hend
    exact .done rest
  | blank hblank _ ih => exact .blank hblank (ih hend)
  | @token text after _ kind kinds hlongest _ ih =>
    obtain ⟨hspelt, rfl, hends⟩ := longest_iff.mp hlongest
    rw [List.append_assoc]
    exact munch_text kind hspelt (hends.append hrest) (ih hend)

def spaced (kinds : List Kind) : List Char :=
  kinds.flatMap fun kind => ' ' :: kind.text

theorem breaks_spaced (kinds : List Kind) : Breaks (spaced kinds) := by
  cases kinds with
  | nil => exact nofun
  | cons kind kinds => exact breaks_blank _

theorem munch_spaced {kinds : List Kind} (h : ∀ kind ∈ kinds, kind.Spelt) :
    Munch (spaced kinds) kinds [] := by
  induction kinds with
  | nil => exact .done []
  | cons kind kinds ih =>
    obtain ⟨hkind, hkinds⟩ := List.forall_mem_cons.mp h
    exact munch_blank (munch_text kind hkind (kind.endsBefore_of_breaks (breaks_spaced kinds))
      (ih hkinds))

theorem intercalate_blank (kind : Kind) (kinds : List Kind) :
    [' '].intercalate ((kind :: kinds).map Kind.text) = kind.text ++ spaced kinds := by
  induction kinds generalizing kind with
  | nil => simp [spaced]
  | cons next kinds ih =>
    rw [List.map_cons, List.map_cons, List.intercalate_cons_cons, ← List.map_cons, ih]
    simp [spaced]

theorem munch_intercalate_blank {kinds : List Kind} (h : ∀ kind ∈ kinds, kind.Spelt) :
    Munch ([' '].intercalate (kinds.map Kind.text)) kinds [] := by
  cases kinds with
  | nil => exact .done []
  | cons kind kinds =>
    obtain ⟨hkind, hkinds⟩ := List.forall_mem_cons.mp h
    rw [intercalate_blank]
    exact munch_text kind hkind (kind.endsBefore_of_breaks (breaks_spaced kinds))
      (munch_spaced hkinds)

def StandsAt (text : List Char) (offset : Nat) (before : List Kind) (kind : Kind)
    (after : List Kind) : Prop :=
  ∃ front back rest, text = front ++ back ∧ offset = Text.byteLength front ∧
    Munch text before back ∧ Longest back kind rest ∧ Munch rest after []

def StraysAt (text : List Char) (offset : Nat) (before : List Kind) (c : Char) : Prop :=
  ∃ front back, text = front ++ c :: back ∧ offset = Text.byteLength front ∧
    Munch text before (c :: back) ∧ Text.isBlank c = false ∧
    ∀ kind rest, ¬Longest (c :: back) kind rest

theorem StandsAt.unique {text : List Char} {offset : Nat} {before before' after after' : List Kind}
    {kind kind' : Kind} (h : StandsAt text offset before kind after)
    (h' : StandsAt text offset before' kind' after') :
    before = before' ∧ kind = kind' ∧ after = after' := by
  obtain ⟨front, back, rest, rfl, rfl, hbefore, hkind, hafter⟩ := h
  obtain ⟨front', back', rest', htext, hoffset, hbefore', hkind', hafter'⟩ := h'
  obtain ⟨rfl, rfl⟩ := Text.append_inj_of_byteLength_eq htext hoffset
  rw [← ofStart?_eq_some_iff] at hkind hkind'
  rw [hkind] at hkind'
  cases hkind'
  exact ⟨hbefore.cut.unique hbefore'.cut, rfl, hafter.unique hafter'⟩

theorem StandsAt.munch {text : List Char} {offset : Nat} {before after : List Kind} {kind : Kind}
    (h : StandsAt text offset before kind after) : Munch text (before ++ kind :: after) [] := by
  obtain ⟨front, back, rest, -, -, hbefore, hkind, hafter⟩ := h
  exact hbefore.append (.token hkind hafter)

theorem scan_standsAt {start : Nat} {text : List Char} {before after : List Token} {token : Token}
    (h : scan start text = .ok (before ++ token :: after)) :
    ∃ offset, token.offset = start + offset ∧
      StandsAt text offset (before.map Token.kind) token.kind (after.map Token.kind) := by
  generalize htokens : before ++ token :: after = tokens at h
  fun_induction scan start text generalizing before tokens with
  | case1 =>
    cases h
    simp at htokens
  | case2 start c rest hblank ih =>
    obtain ⟨offset, hoffset, front, back, left, rfl, rfl, hbefore, hkind, hafter⟩ := ih _ htokens h
    refine ⟨Text.byteLength (c :: front), ?_, c :: front, back, left, rfl, rfl,
      .blank hblank hbefore, hkind, hafter⟩
    rw [hoffset, Text.byteLength, Nat.add_assoc]
  | case3 => cases h
  | case4 start c rest hblank kind left hfound ih =>
    obtain ⟨others, hscan, rfl⟩ := map_eq_ok_iff.mp h
    have hlongest := ofStart?_eq_some_iff.mp hfound
    cases before with
    | nil =>
      cases htokens
      exact ⟨0, rfl, [], _, left, rfl, rfl, .done _, hlongest, munch_of_scan hscan⟩
    | cons first before =>
      obtain ⟨rfl, hothers⟩ : first = ⟨kind, start⟩ ∧ before ++ token :: after = others :=
        List.cons.inj htokens
      obtain ⟨offset, hoffset, front, back, left, rfl, rfl, hbefore, hkind, hafter⟩ :=
        ih _ hothers hscan
      refine ⟨Text.byteLength (kind.text ++ front), ?_, kind.text ++ front, back, left, ?_, rfl,
        .token hlongest hbefore, hkind, hafter⟩
      · rw [hoffset, Text.byteLength_append, Nat.add_assoc]
      · rw [hlongest.split, List.append_assoc]

theorem scan_straysAt {start : Nat} {text : List Char} {stray : Stray}
    (h : scan start text = .error stray) :
    ∃ offset before, stray.offset = start + offset ∧
      StraysAt text offset before stray.character := by
  fun_induction scan start text with
  | case1 => cases h
  | case2 start c rest hblank ih =>
    obtain ⟨offset, before, hoffset, front, back, rfl, rfl, hbefore, hnone⟩ := ih h
    refine ⟨Text.byteLength (c :: front), before, ?_, c :: front, back, rfl, rfl,
      .blank hblank hbefore, hnone⟩
    rw [hoffset, Text.byteLength, Nat.add_assoc]
  | case3 start c rest hblank hfound =>
    cases h
    exact ⟨0, [], rfl, [], rest, rfl, rfl, .done _, Bool.not_eq_true _ ▸ hblank,
      ofStart?_eq_none_iff.mp hfound⟩
  | case4 start c rest hblank kind left hfound ih =>
    have hlongest := ofStart?_eq_some_iff.mp hfound
    obtain ⟨offset, before, hoffset, front, back, rfl, rfl, hbefore, hnone⟩ :=
      ih (map_eq_error_iff.mp h)
    refine ⟨Text.byteLength (kind.text ++ front), kind :: before, ?_, kind.text ++ front, back,
      ?_, rfl, .token hlongest hbefore, hnone⟩
    · rw [hoffset, Text.byteLength_append, Nat.add_assoc]
    · rw [hlongest.split, List.append_assoc]

end Token

end PluralRules
