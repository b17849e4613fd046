import Mathlib.Data.List.Chain
import PluralRules.Proofs.RuleText.Places
import PluralRules.Proofs.RuleText.ViablePrefix

/-!
The error of a rule text. It stands at the first token that no rule text continues the tokens
before it with, or at the first character at which no token starts, or at the end. Main statement:
`Condition.ofText_error_at_first_offence`.
-/

namespace PluralRules

open Token (Kind Munch Longest StandsAt StraysAt)

namespace RuleText

def Follows (kind next : Kind) : Prop :=
  Admits .operand next ↔ Admits .connective kind

structure Opens (kinds : List Kind) : Prop where
  starts : ∃ symbol rest, kinds = .word [Symbol.toChar symbol] :: rest
  chain : kinds.IsChain Follows
  ends : ∀ kind ∈ kinds.getLast?, ¬Admits .connective kind

theorem not_connective_of_letter (letter : Char) : ¬Admits .connective (.word [letter]) := nofun

theorem Opens.append {kinds rest : List Kind} {connective : Kind} (hkinds : Opens kinds)
    (hconnective : Admits .connective connective) (hrest : Opens rest) :
    Opens (kinds ++ connective :: rest) := by
  obtain ⟨symbol, tail, rfl⟩ := hkinds.starts
  obtain ⟨symbol', tail', rfl⟩ := hrest.starts
  have hnot : ¬Admits .operand connective := by
    rintro ⟨⟩
    exact not_connective_of_letter _ hconnective
  refine ⟨⟨symbol, _, List.cons_append⟩, ?_, fun kind hkind => hrest.ends kind ?_⟩
  · refine List.isChain_append.mpr ⟨hkinds.chain, ?_, fun last hlast next hnext => ?_⟩
    · exact List.isChain_cons_cons.mpr ⟨iff_of_true (.operand symbol') hconnective, hrest.chain⟩
    · cases hnext
      exact iff_of_false hnot (hkinds.ends last hlast)
  · rwa [List.getLast?_append_of_ne_nil _ (List.cons_ne_nil _ _), List.getLast?_cons_cons] at hkind

def Accepted (kinds : List Kind) : Prop :=
  ∃ rule c, Condition.ofText rule = .ok c ∧ Munch (conditionPart rule) kinds []

theorem Accepted.derives {kinds : List Kind} (h : Accepted kinds) :
    (∃ c, Grammar.Condition kinds c) ∧ ∀ kind ∈ kinds, kind.Spelt := by
  obtain ⟨rule, c, hc, hmunch⟩ := h
  obtain ⟨others, hothers, hderives⟩ := Condition.ofText_eq_ok_iff.mp hc
  rw [hmunch.unique hothers]
  exact ⟨⟨c, hderives⟩, hothers.spelt⟩

theorem ofText_spaced {front : List Char} {before more : List Kind} {c : Condition}
    (hfront : Munch front before []) (hmore : ∀ kind ∈ more, kind.Spelt)
    (h : Grammar.Condition (before ++ more) c) :
    Munch (front ++ Token.spaced more) (before ++ more) [] ∧
      Condition.ofText (String.ofList (front ++ Token.spaced more)) = .ok c := by
  have hmunch : Munch (front ++ Token.spaced more) (before ++ more) [] :=
    (hfront.before (Token.breaks_spaced more)).append (Token.munch_spaced hmore)
  refine ⟨hmunch, Condition.ofText_eq_ok_iff.mpr ⟨before ++ more, ?_, h⟩⟩
  rwa [conditionPart_ofList hmunch]

theorem accepted_of_derives {kinds : List Kind} {c : Condition} (h : Grammar.Condition kinds c)
    (hkinds : ∀ kind ∈ kinds, kind.Spelt) : Accepted kinds := by
  obtain ⟨hmunch, hc⟩ := ofText_spaced (.done []) hkinds h
  refine ⟨_, c, hc, ?_⟩
  rwa [conditionPart_ofList hmunch]

theorem Stumbles.eq_missing {expected : Expected} {fault : RuleFault}
    (h : Stumbles expected [] fault) : fault = .unexpected expected none := by
  cases h
  rfl

/-- What is wrong with the tokens of a text. At a token: the tokens before it and those seen with
it, which it is reported for, begin no accepted tokens, but without the last one seen they do. At
the end: the tokens are not accepted, but more tokens can follow. In both cases what is expected
can stand where the error is reported. -/
inductive Offence (text : List Char) (error : RuleError) : Prop
  | token {expected : Expected} {before seen after : List Kind} {kind : Kind} :
    StandsAt text error.offset before kind (seen ++ after) →
    Stumbles expected (kind :: seen) error.fault →
    (∃ other more, Admits expected other ∧ Accepted (before ++ other :: more)) →
    (∃ more, Accepted (before ++ (kind :: seen).dropLast ++ more)) →
    (∀ more, ¬Accepted (before ++ (kind :: seen) ++ more)) → Offence text error
  | ending {expected : Expected} {kinds : List Kind} :
    Munch text kinds [] → error.offset = Text.byteLength (Text.trimEnd text) →
    error.fault = .unexpected expected none →
    (∃ other more, Admits expected other ∧ Accepted (kinds ++ other :: more)) →
    ¬Accepted kinds → Offence text error

theorem Offence.exists_front {text : List Char} {error : RuleError} (h : Offence text error) :
    ∃ front back, text = front ++ back ∧ error.offset = Text.byteLength front := by
  cases h with
  | token hstands =>
    obtain ⟨front, back, _, htext, hoffset, -⟩ := hstands
    exact ⟨front, back, htext, hoffset⟩
  | ending _ hoffset =>
    obtain ⟨blanks, htext, -⟩ := Text.exists_eq_trimEnd_append text
    exact ⟨_, blanks, htext, hoffset⟩

theorem exists_accepted_of_viable {kinds : List Kind} (hkinds : ∀ kind ∈ kinds, kind.Spelt)
    (h : Grammar.Viable Grammar.Condition kinds) : ∃ more, Accepted (kinds ++ more) := by
  obtain ⟨more, c, hmore, hc⟩ := h
  exact ⟨more, accepted_of_derives hc (List.forall_mem_append.mpr ⟨hkinds, hmore⟩)⟩

theorem not_accepted_of_readTokens {tokens : List Token} {failure : Failure}
    (h : ∀ rest, readTokens (tokens ++ rest) = .error failure) (more : List Kind) :
    ¬Accepted (tokens.map Token.kind ++ more) := by
  intro haccepted
  obtain ⟨⟨c, hc⟩, -⟩ := haccepted.derives
  -- Only the kinds of the tokens matter, so any offsets do.
  have hmore : (more.map (Token.mk · 0)).map Token.kind = more := by
    simp [Function.comp_def]
  rw [← hmore, ← List.map_append] at hc
  have hfail := h (more.map (Token.mk · 0))
  rw [readTokens_eq_ok_iff_derives.mpr hc] at hfail
  cases hfail

theorem Offence.of_failure {text : List Char} {tokens : List Token} {failure : Failure}
    {error : RuleError} (hscan : Token.scan 0 text = .ok tokens)
    (hfail : readTokens tokens = .error failure)
    (hoffset : error.offset = failure.offset?.getD (Text.byteLength (Text.trimEnd text)))
    (hfault : error.fault = failure.fault) : Offence text error := by
  obtain ⟨expected, before, seen, after, rfl, hhalts, ⟨other, hadmits, hother, hasked⟩, hdecided⟩ :=
    readTokens_failsAt hfail
  have hmunch := Token.munch_of_scan hscan
  have hspelt := hmunch.spelt
  simp only [List.map_append, List.forall_mem_append] at hspelt
  obtain ⟨⟨hbefore, hseen⟩, -⟩ := hspelt
  obtain ⟨more, hmore⟩ := exists_accepted_of_viable
    (List.forall_mem_append.mpr ⟨hbefore, List.forall_mem_singleton.mpr hother⟩) hasked
  rw [List.append_assoc, List.singleton_append] at hmore
  cases seen with
  | nil =>
    obtain rfl := hhalts.ends rfl
    have hnone : failure.offset? = none := hhalts.offset_eq
    rw [hnone, Option.getD_none] at hoffset
    rw [List.append_nil, List.append_nil] at hmunch hfail
    refine .ending hmunch hoffset (hfault.trans hhalts.stumbles.eq_missing)
      ⟨other, more, hadmits, hmore⟩ fun haccepted => ?_
    obtain ⟨⟨c, hc⟩, -⟩ := haccepted.derives
    rw [readTokens_eq_ok_iff_derives.mpr hc] at hfail
    cases hfail
  | cons token seen =>
    have hsome : failure.offset? = some token.offset := hhalts.offset_eq
    rw [List.append_assoc, List.cons_append] at hscan
    obtain ⟨offset, htoken, hstands⟩ := Token.scan_standsAt hscan
    rw [hsome, Option.getD_some, htoken, Nat.zero_add] at hoffset
    rw [List.map_append] at hstands
    have hinit : ∀ kind ∈ ((token :: seen).map Token.kind).dropLast, kind.Spelt :=
      fun kind hkind => hseen kind (List.dropLast_subset _ hkind)
    have hdecided := exists_accepted_of_viable (List.forall_mem_append.mpr ⟨hbefore, hinit⟩) hdecided
    have hrejected := not_accepted_of_readTokens (hhalts.refuses (List.cons_ne_nil _ _))
    rw [List.map_append] at hrejected
    exact .token (hoffset ▸ hstands) (hfault ▸ hhalts.stumbles) ⟨other, more, hadmits, hmore⟩
      hdecided hrejected

end RuleText

namespace Condition

open RuleText

theorem ofText_eq_error_iff {rule : String} {error : RuleError} :
    ofText rule = .error error ↔
      (∃ stray, Token.scan 0 (conditionPart rule) = .error stray ∧
        error = ⟨rule, stray.offset, .strayCharacter stray.character⟩) ∨
      ∃ tokens failure, Token.scan 0 (conditionPart rule) = .ok tokens ∧
        readTokens tokens = .error failure ∧
        error = ⟨rule, failure.offset?.getD
          (Text.byteLength (Text.trimEnd (conditionPart rule))), failure.fault⟩ := by
  simp only [ofText]
  cases Token.scan 0 (conditionPart rule) with
  | error stray => simp [eq_comm]
  | ok tokens =>
    cases hread : readTokens tokens with
    | error failure => simp [hread, Except.mapError, eq_comm]
    | ok c => simp [hread, Except.mapError]

end Condition

end PluralRules
