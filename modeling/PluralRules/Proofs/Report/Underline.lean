import PluralRules.Proofs.RuleText.Offence
import PluralRules.Report.Diagnostic

/-!
The stretch of a rule text that a diagnostic underlines. It starts where the error stands and goes on
to the next blank of the complete text. So it holds what the error is about and whatever stands
directly behind, which at the end of the condition can only be samples.
-/

namespace PluralRules

open Text (byteLength isBlank trimEnd)
open RuleText (Offence conditionPart)
open Token (Kind StandsAt StraysAt)

/-- Of three parts of the rule text the diagnostic underlines the middle one, up to a blank. -/
structure Diagnostic.Underlines (diagnostic : Diagnostic) (rule : String)
    (front marked back : List Char) : Prop where
  split : rule.toList = front ++ marked ++ back
  offset_eq : diagnostic.offset = byteLength front
  length_eq : diagnostic.length = byteLength marked
  unbroken : ∀ c ∈ marked, isBlank c = false
  stops : ∀ c ∈ back.head?, isBlank c = true

/-- The characters that the error of a text is about: the one at which no token starts, or the token
at which the tokens offend. -/
inductive RuleError.Offends (text : List Char) (error : RuleError) : List Char → Prop
  | character {before : List Kind} {c : Char} : StraysAt text error.offset before c →
    error.fault = .strayCharacter c → Offends text error [c]
  | token {before after : List Kind} {kind : Kind} : Offence text error →
    StandsAt text error.offset before kind after → Offends text error kind.text

namespace RuleText

variable {rule : String} {error : RuleError}

theorem straysAt_or_offence (h : Condition.ofText rule = .error error) :
    (∃ before c, StraysAt (conditionPart rule) error.offset before c ∧
      error.fault = .strayCharacter c) ∨ Offence (conditionPart rule) error := by
  rcases Condition.ofText_eq_error_iff.mp h with ⟨stray, hscan, rfl⟩ | ⟨_, _, hscan, hread, rfl⟩
  · obtain ⟨offset, before, hoffset, hstrays⟩ := Token.scan_straysAt hscan
    rw [Nat.zero_add] at hoffset
    exact .inl ⟨before, _, hoffset ▸ hstrays, rfl⟩
  · exact .inr (.of_failure hscan hread rfl rfl)

theorem offset_of_missing {expected : Expected} (h : Condition.ofText rule = .error error)
    (hfault : error.fault = .unexpected expected none) :
    error.offset = byteLength (trimEnd (conditionPart rule)) := by
  rcases straysAt_or_offence h with ⟨_, _, -, hstray⟩ | hoffence
  · rw [hfault] at hstray
    cases hstray
  · cases hoffence with
    | token _ hstumbles =>
      rw [hfault] at hstumbles
      cases hstumbles
    | ending _ hoffset => exact hoffset

theorem exists_offends (h : Condition.ofText rule = .error error)
    (hfault : ∀ expected, error.fault ≠ .unexpected expected none) :
    ∃ offender, error.Offends (conditionPart rule) offender := by
  rcases straysAt_or_offence h with ⟨_, c, hstrays, hstray⟩ | hoffence
  · exact ⟨[c], .character hstrays hstray⟩
  · cases id hoffence with
    | token hstands => exact ⟨_, .token hoffence hstands⟩
    | ending _ _ hmissing => exact absurd hmissing (hfault _)

theorem exists_eq_condition_append (rule : String) :
    ∃ back, rule.toList = trimEnd (conditionPart rule) ++ back ∧
      ∀ c ∈ back.head?, isBlank c = true ∨ c = '@' := by
  obtain ⟨blanks, hpart, hblanks⟩ := Text.exists_eq_trimEnd_append (conditionPart rule)
  have hsplit : conditionPart rule ++ rule.toList.dropWhile (· != '@') = rule.toList :=
    List.takeWhile_append_dropWhile
  refine ⟨blanks ++ rule.toList.dropWhile (· != '@'), ?_, fun c hc => ?_⟩
  · rw [← List.append_assoc, ← hpart, hsplit]
  · cases blanks with
    | cons blank blanks =>
      cases hc
      exact .inl (hblanks c List.mem_cons_self)
    | nil =>
      have hhead := List.head?_dropWhile_not (· != '@') rule.toList
      rw [List.nil_append] at hc
      rw [hc] at hhead
      exact .inr (by simpa using hhead)

end RuleText

theorem RuleError.Offends.exists_front {text offender : List Char} {error : RuleError}
    (h : error.Offends text offender) : ∃ front rest, text = front ++ (offender ++ rest) ∧
      error.offset = byteLength front ∧ ∀ c ∈ offender, isBlank c = false := by
  cases h with
  | character hstrays =>
    obtain ⟨front, rest, htext, hoffset, -, hblank, -⟩ := hstrays
    exact ⟨front, rest, htext, hoffset, List.forall_mem_singleton.mpr hblank⟩
  | token _ hstands =>
    obtain ⟨front, back, rest, rfl, hoffset, -, hlongest, -⟩ := hstands
    refine ⟨front, rest, ?_, hoffset, fun c => hlongest.spelt.isBlank_eq_false⟩
    rw [hlongest.split]

namespace Diagnostic

variable {rule : String} {error : RuleError}

theorem ofRuleError_underlines (source : String) {front back : List Char}
    (hrule : error.rule.toList = front ++ back) (hoffset : error.offset = byteLength front) :
    (ofRuleError source error).Underlines error.rule front
      (back.takeWhile fun c => !isBlank c) (back.dropWhile fun c => !isBlank c) := by
  have hstart : min error.offset (byteLength error.rule.toList) = byteLength front := by
    rw [hoffset, hrule, Text.byteLength_append]
    omega
  refine ⟨?_, hstart, ?_, fun c hc => ?_, fun c hc => ?_⟩
  · rw [hrule, List.append_assoc, List.takeWhile_append_dropWhile]
  · dsimp only [ofRuleError]
    rw [hstart, hrule, Text.dropBytes_byteLength_append]
  · simpa using List.mem_takeWhile_imp hc
  · have hhead := List.head?_dropWhile_not (fun c => !isBlank c) back
    rw [hc] at hhead
    simpa using hhead

theorem Underlines.isValid_offset {diagnostic : Diagnostic} {front marked back : List Char}
    (h : diagnostic.Underlines rule front marked back) :
    (⟨diagnostic.offset⟩ : String.Pos.Raw).IsValid rule := by
  have hvalid := Text.isValid_byteLength front (marked ++ back)
  rwa [← List.append_assoc, ← h.split, String.ofList_toList, ← h.offset_eq] at hvalid

theorem Underlines.isValid_end {diagnostic : Diagnostic} {front marked back : List Char}
    (h : diagnostic.Underlines rule front marked back) :
    (⟨diagnostic.offset + diagnostic.length⟩ : String.Pos.Raw).IsValid rule := by
  have hvalid := Text.isValid_byteLength (front ++ marked) back
  rwa [← h.split, String.ofList_toList, Text.byteLength_append, ← h.offset_eq, ← h.length_eq]
    at hvalid

theorem exists_cut (h : Condition.ofText rule = .error error) :
    ∃ front back, rule.toList = front ++ back ∧ error.offset = byteLength front ∧
      ((∀ expected, error.fault ≠ .unexpected expected none) →
        ∃ offender rest, error.Offends (conditionPart rule) offender ∧ back = offender ++ rest ∧
          ∀ c ∈ offender, isBlank c = false) := by
  by_cases hfault : ∃ expected, error.fault = .unexpected expected none
  · obtain ⟨expected, hmissing⟩ := hfault
    obtain ⟨back, hrule, -⟩ := RuleText.exists_eq_condition_append rule
    exact ⟨_, back, hrule, RuleText.offset_of_missing h hmissing,
      fun hother => absurd hmissing (hother expected)⟩
  · obtain ⟨offender, hoffends⟩ := RuleText.exists_offends h (not_exists.mp hfault)
    obtain ⟨front, rest, hpart, hoffset, hblank⟩ := hoffends.exists_front
    refine ⟨front, offender ++ (rest ++ rule.toList.dropWhile (· != '@')), ?_, hoffset,
      fun _ => ⟨offender, _, hoffends, rfl, hblank⟩⟩
    rw [← List.append_assoc offender, ← List.append_assoc front, ← hpart]
    exact List.takeWhile_append_dropWhile.symm

/-- A diagnostic of a rule text cuts it between characters. What it underlines starts where the error
stands, holds no blank, and starts with what the error is about, unless the condition ends there. -/
theorem ofRuleError_underlines_offender (source : String)
    (h : Condition.ofText rule = .error error) :
    (⟨error.offset⟩ : String.Pos.Raw).IsValid rule ∧
    ∃ front marked back, (ofRuleError source error).Underlines rule front marked back ∧
      (ofRuleError source error).offset = error.offset ∧
      (⟨error.offset + (ofRuleError source error).length⟩ : String.Pos.Raw).IsValid rule ∧
      ((∀ expected, error.fault ≠ .unexpected expected none) →
        ∃ offender, error.Offends (conditionPart rule) offender ∧ offender <+: marked) := by
  obtain ⟨front, back, hrule, hoffset, hoffends⟩ := exists_cut h
  obtain rfl := Condition.rule_of_ofText_eq_error h
  have hmarks := ofRuleError_underlines source hrule hoffset
  have hstart : (ofRuleError source error).offset = error.offset :=
    hmarks.offset_eq.trans hoffset.symm
  refine ⟨hstart ▸ hmarks.isValid_offset, front, _, _, hmarks, hstart, hstart ▸ hmarks.isValid_end,
    fun hfault => ?_⟩
  obtain ⟨offender, rest, hoffender, rfl, hblank⟩ := hoffends hfault
  have hmarked : ∀ c ∈ offender, (!isBlank c) = true := fun c hc => by simp [hblank c hc]
  exact ⟨offender, hoffender, _, (List.takeWhile_append_of_pos hmarked).symm⟩

theorem ofRuleError_underlines_offender_word :
    let rule := "n\u00a0= 1 übrig@integer 2"
    let error : RuleError := ⟨rule, 7, .unexpected .connective (some (.word "übrig".toList))⟩
    Condition.ofText rule = .error error ∧ (ofRuleError "test" error).length = 14 ∧
    (⟨7⟩ : String.Pos.Raw).IsValid rule ∧
    ∃ front marked back, (ofRuleError "test" error).Underlines rule front marked back ∧
      (ofRuleError "test" error).offset = 7 ∧ (⟨21⟩ : String.Pos.Raw).IsValid rule ∧
      ∃ offender, error.Offends (conditionPart rule) offender ∧ offender <+: marked := by
  intro rule error
  have herror : Condition.ofText rule = .error error := by decide +kernel
  obtain ⟨hvalid, front, marked, back, hmarks, hoffset, hend, hoffends⟩ :=
    ofRuleError_underlines_offender "test" herror
  have hlength : (ofRuleError "test" error).length = 14 := by decide +kernel
  rw [hlength] at hend
  exact ⟨herror, hlength, hvalid, front, marked, back, hmarks, hoffset, hend, hoffends nofun⟩

/-- An error at the end of the condition underlines the samples up to their first blank if they stand
directly behind the condition, and else nothing. -/
theorem length_eq_zero_iff_of_missing (source : String) {expected : Expected}
    (h : Condition.ofText rule = .error error)
    (hfault : error.fault = .unexpected expected none) :
    let condition := trimEnd (conditionPart rule)
    let diagnostic := ofRuleError source error
    diagnostic.offset = byteLength condition ∧
    (∀ samples, rule.toList = condition ++ '@' :: samples → diagnostic.length =
      byteLength ('@' :: samples.takeWhile fun c => !isBlank c)) ∧
    (diagnostic.length = 0 ↔ ∀ samples, rule.toList ≠ condition ++ '@' :: samples) := by
  intro condition diagnostic
  obtain ⟨back, hrule, hback⟩ := RuleText.exists_eq_condition_append rule
  obtain rfl := Condition.rule_of_ofText_eq_error h
  have hmarks := ofRuleError_underlines source hrule (RuleText.offset_of_missing h hfault)
  have hbehind : ∀ samples, error.rule.toList = condition ++ '@' :: samples ↔
      back = '@' :: samples := by
    intro samples
    rw [hrule, List.append_cancel_left_eq]
  simp only [ne_eq, hbehind]
  refine ⟨hmarks.offset_eq, ?_, ?_⟩
  · rintro samples rfl
    exact hmarks.length_eq
  · rw [hmarks.length_eq, Text.byteLength_eq_zero_iff]
    cases back with
    | nil => simp
    | cons c back =>
      rcases hback c rfl with hblank | rfl
      · have hne : c ≠ '@' := by
          rintro rfl
          exact absurd hblank (by decide)
        simp [hblank, hne]
      · have hmarked : isBlank '@' = false := by decide
        simp [hmarked]

theorem length_eq_zero_iff_of_missing_blank :
    let rule := "n = 1 or\u00a0@decimal 1.5"
    let error : RuleError := ⟨rule, 8, .unexpected .operand none⟩
    Condition.ofText rule = .error error ∧ error.fault = .unexpected .operand none ∧
      (ofRuleError "test" error).offset = byteLength (trimEnd (conditionPart rule)) ∧
      (ofRuleError "test" error).length = 0 ∧
      ∀ samples, rule.toList ≠ trimEnd (conditionPart rule) ++ '@' :: samples := by
  intro rule error
  have herror : Condition.ofText rule = .error error := by decide +kernel
  obtain ⟨hoffset, -, hempty⟩ := length_eq_zero_iff_of_missing "test" herror rfl
  have hlength : (ofRuleError "test" error).length = 0 := by decide +kernel
  exact ⟨herror, rfl, hoffset, hlength, hempty.mp hlength⟩

/-- Samples directly behind the end of the condition are underlined for it. -/
theorem samples_underlined_at_end :
    let rule := "n = 1,@integer 1"
    let error : RuleError := ⟨rule, 6, .unexpected .value none⟩
    Condition.ofText rule = .error error ∧
      (ofRuleError "test" error).offset = byteLength (trimEnd (conditionPart rule)) ∧
      (ofRuleError "test" error).length = byteLength "@integer".toList ∧
      (ofRuleError "test" error).length ≠ 0 :=
  ⟨by decide +kernel, by decide +kernel, by decide +kernel, by decide +kernel⟩

end Diagnostic

end PluralRules
