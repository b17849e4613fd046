import PluralRules.Json.Quoted
import PluralRules.Json.Value
import PluralRules.Proofs.Reading

/-!
Strings in JSON text. Reading puts back each character that writing has escaped, and what passes
over a string stops at the same quote.
-/

namespace PluralRules.Json

open JsonValue (escapeChar stringText)

theorem hexDigit?_digitChar {d : Nat} (h : d < 16) : hexDigit? (Nat.digitChar d) = some d := by
  have hall : ∀ d : Fin 16, hexDigit? (Nat.digitChar d) = some d.val := by decide
  exact hall ⟨d, h⟩

inductive Rendered (c : Char) : List Char → Prop
  | short {letter : Char} (name : letter ≠ 'u') (escape : shortEscape? letter = some c) :
      Rendered c ['\\', letter]
  | number (control : c.toNat < 32) :
      Rendered c ['\\', 'u', '0', '0', Nat.digitChar (c.toNat / 16), Nat.digitChar (c.toNat % 16)]
  | plain (quote : c ≠ '"') (backslash : c ≠ '\\') (shown : 32 ≤ c.toNat) : Rendered c [c]

theorem rendered_escapeChar (c : Char) : Rendered c (escapeChar c) := by
  unfold escapeChar
  split
  case h_8 hquote hbackslash _ _ _ _ _ =>
    split
    case isTrue hcontrol => exact .number hcontrol
    case isFalse hshown => exact .plain hquote hbackslash (Nat.le_of_not_lt hshown)
  all_goals exact .short (by decide) rfl

theorem takes_hexQuad {n : Nat} (h : n < 32) (rest : List Char) :
    Takes hexQuad ('0' :: '0' :: Nat.digitChar (n / 16) :: Nat.digitChar (n % 16) :: rest) n
      rest := by
  have hhigh := hexDigit?_digitChar (show n / 16 < 16 by omega)
  have hlow := hexDigit?_digitChar (show n % 16 < 16 by omega)
  have hzero : hexDigit? '0' = some 0 := rfl
  simp only [Takes, hexQuad, hhigh, hlow, hzero]
  refine ⟨_, rfl, ?_, rfl⟩
  show ((0 * 16 + 0) * 16 + n / 16) * 16 + n % 16 = n
  omega

theorem takes_escape {c : Char} {tail : List Char} (h : Rendered c ('\\' :: tail))
    (rest : List Char) : Takes escape (tail ++ rest) c rest := by
  cases h with
  | @short letter name short =>
    have hletter : escape ([letter] ++ rest) = .ok (.one c letter rest) := by
      simp only [List.singleton_append, escape, short]
    exact ⟨_, hletter, rfl, rfl⟩
  | number control =>
    obtain ⟨_, hquad⟩ := takes_iff.mp (takes_hexQuad control rest)
    have htrailing : isTrailing c.toNat = false := by
      simp only [isTrailing, Bool.and_eq_false_iff, decide_eq_false_iff_not]
      omega
    have hleading : isLeading c.toNat = false := by
      simp only [isLeading, Bool.and_eq_false_iff, decide_eq_false_iff_not]
      omega
    simp only [Takes, List.cons_append, List.nil_append, escape, hquad, bind, Except.bind,
      htrailing, hleading, Bool.false_eq_true, if_false]
    exact ⟨_, rfl, Char.ofNat_toNat c, rfl⟩
  | plain quote backslash shown => exact absurd rfl backslash

theorem takes_passEscape {c : Char} {tail : List Char} (h : Rendered c ('\\' :: tail))
    (rest : List Char) : Takes passEscape (tail ++ rest) () rest := by
  cases h with
  | @short letter name short =>
    have hletter : passEscape ([letter] ++ rest) = .ok (.one () letter rest) := by
      simp only [List.singleton_append, passEscape, short, Option.isSome_some, if_true]
    exact ⟨_, hletter, rfl, rfl⟩
  | number control =>
    obtain ⟨_, hquad⟩ := takes_iff.mp (takes_hexQuad control rest)
    simp only [Takes, List.cons_append, List.nil_append, passEscape, hquad]
    exact ⟨_, rfl, trivial, rfl⟩
  | plain quote backslash shown => exact absurd rfl backslash

section

variable {α : Type} {escape : Reader Fault Char α} {plain : Char → α}

theorem takes_stringBody_quote (rest : List Char) :
    Takes (stringBody escape plain) ('"' :: rest) [] rest := by
  rw [takes_iff, stringBody]
  exact ⟨_, rfl⟩

theorem takes_stringBody_escaped {input middle rest : List Char} {a : α} {others : List α}
    (hfirst : Takes escape input a middle)
    (hothers : Takes (stringBody escape plain) middle others rest) :
    Takes (stringBody escape plain) ('\\' :: input) (a :: others) rest := by
  obtain ⟨_, hfirst⟩ := takes_iff.mp hfirst
  obtain ⟨_, hothers⟩ := takes_iff.mp hothers
  rw [Takes, stringBody, hfirst]
  simp only [bind, Except.bind, hothers]
  exact ⟨_, rfl, rfl, rfl⟩

theorem takes_stringBody_plain {c : Char} {input rest : List Char} {others : List α}
    (hquote : c ≠ '"') (hbackslash : c ≠ '\\') (hshown : 32 ≤ c.toNat)
    (hothers : Takes (stringBody escape plain) input others rest) :
    Takes (stringBody escape plain) (c :: input) (plain c :: others) rest := by
  obtain ⟨_, hothers⟩ := takes_iff.mp hothers
  rw [takes_iff, stringBody, if_neg (Nat.not_lt.mpr hshown), hothers]
  · exact ⟨_, rfl⟩
  · exact hquote
  · exact hbackslash

theorem takes_stringBody
    (h : ∀ c tail, Rendered c ('\\' :: tail) → ∀ rest, Takes escape (tail ++ rest) (plain c) rest)
    (s rest : List Char) :
    Takes (stringBody escape plain) (s.flatMap escapeChar ++ '"' :: rest) (s.map plain) rest := by
  induction s with
  | nil => exact takes_stringBody_quote rest
  | cons c s ih =>
    rw [List.flatMap_cons, List.append_assoc, List.map_cons]
    have hrendered := rendered_escapeChar c
    cases hshape : escapeChar c with
    | nil =>
      rw [hshape] at hrendered
      cases hrendered
    | cons head tail =>
      rw [hshape] at hrendered
      by_cases hhead : head = '\\'
      · subst hhead
        exact takes_stringBody_escaped (h c tail hrendered _) ih
      · cases hrendered with
        | short | number => exact absurd rfl hhead
        | plain quote backslash shown => exact takes_stringBody_plain quote backslash shown ih

end

theorem takes_stringRest (s : String) (rest : List Char) :
    Takes stringRest (s.toList.flatMap escapeChar ++ '"' :: rest) s rest := by
  have hbody : Takes (stringBody escape id) (s.toList.flatMap escapeChar ++ '"' :: rest)
      (s.toList.map id) rest := takes_stringBody (fun _ _ => takes_escape) s.toList rest
  have hstring : Takes stringRest (s.toList.flatMap escapeChar ++ '"' :: rest)
      (String.ofList (s.toList.map id)) rest := hbody.map String.ofList rfl
  rwa [List.map_id, String.ofList_toList] at hstring

theorem takes_passString (s : String) (rest : List Char) :
    Takes passString (s.toList.flatMap escapeChar ++ '"' :: rest) () rest :=
  (takes_stringBody (fun _ _ => takes_passEscape) s.toList rest).map (fun _ => ()) rfl

end PluralRules.Json
