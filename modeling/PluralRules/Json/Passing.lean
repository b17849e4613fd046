import PluralRules.Json.Number
import PluralRules.Json.Quoted

/-!
Passing over values of any kind, to any depth. What is open is kept in a list of frames, so that
the functions call each other only at their end; numbers and strings are checked lightly.
-/

namespace PluralRules.Json

def passScalar : Reader Fault Char Unit
  | 'n' :: text => wordBehind 'n' ['u', 'l', 'l'] text
  | 't' :: text => wordBehind 't' ['r', 'u', 'e'] text
  | 'f' :: text => wordBehind 'f' ['a', 'l', 's', 'e'] text
  | '"' :: text => do .ok ((← passString text).behind '"')
  | c :: text =>
    if c = '-' ∨ c.isDigit then do
      .ok ((← numberText .grammar (c :: text)).map fun _ => ())
    else .error .grammar
  | [] => .error .endOfText

inductive Frame where
  | array
  | object
deriving DecidableEq

def Frame.closer : Frame → Char
  | array => ']'
  | object => '\x7d'

-- In these functions no space stands at the front of the text.
mutual

def passValue (frames : List Frame) : List Char → Except Fault (List Char)
  | '[' :: text => passOpened .array frames (skipSpaces text)
  | '\x7b' :: text => passOpened .object frames (skipSpaces text)
  | text => do
    let scalar ← passScalar text
    passEnded frames (skipSpaces scalar.rest)
termination_by text => (text.length, 0)
decreasing_by
  · exact Prod.Lex.left _ _ (length_skipSpaces_lt (Nat.lt_succ_self _))
  · exact Prod.Lex.left _ _ (length_skipSpaces_lt (Nat.lt_succ_self _))
  · exact Prod.Lex.left _ _ (length_skipSpaces_lt scalar.shorter)

def passOpened (frame : Frame) (frames : List Frame) : List Char → Except Fault (List Char)
  | [] => .error .endOfText
  | c :: text =>
    if c = frame.closer then passEnded frames (skipSpaces text)
    else passMember frame frames (c :: text)
termination_by text => (text.length, 2)
decreasing_by
  · exact Prod.Lex.left _ _ (length_skipSpaces_lt (Nat.lt_succ_self _))
  · exact Prod.Lex.right _ (Nat.lt_succ_self _)

def passMember (frame : Frame) (frames : List Frame) (text : List Char) :
    Except Fault (List Char) :=
  match frame with
  | .array => passValue (.array :: frames) text
  | .object => do
    let name ← quotedName passString text
    let colon ← colon name.rest
    passValue (.object :: frames) (skipSpaces colon.rest)
termination_by (text.length, 1)
decreasing_by
  · exact Prod.Lex.right _ (Nat.lt_succ_self _)
  · exact Prod.Lex.left _ _ (length_skipSpaces_lt (Nat.lt_trans colon.shorter name.shorter))

def passEnded : List Frame → List Char → Except Fault (List Char)
  | [], text => .ok text
  | _ :: _, [] => .error .endOfText
  | frame :: frames, c :: text =>
    if c = ',' then passMember frame frames (skipSpaces text)
    else if c = frame.closer then passEnded frames (skipSpaces text)
    else .error .grammar
termination_by _ text => (text.length, 0)
decreasing_by
  · exact Prod.Lex.left _ _ (length_skipSpaces_lt (Nat.lt_succ_self _))
  · exact Prod.Lex.left _ _ (length_skipSpaces_lt (Nat.lt_succ_self _))

end

theorem length_lt_of_passValue {frames : List Frame} {text rest : List Char}
    (h : passValue frames text = .ok rest) : rest.length < text.length := by
  have key := passValue.mutual_induct
    (fun frames text => ∀ rest, passValue frames text = .ok rest → rest.length < text.length)
    (fun frames text => ∀ rest, passEnded frames text = .ok rest → rest.length ≤ text.length)
    (fun frame frames text => ∀ rest,
      passMember frame frames text = .ok rest → rest.length < text.length)
    (fun frame frames text => ∀ rest,
      passOpened frame frames text = .ok rest → rest.length < text.length)
  refine (key ?_ ?_ ?_ ?_ ?_ ?_ ?_ ?_ ?_ ?_ ?_ ?_ ?_).1 frames text rest h
  all_goals clear key h frames text rest
  · intro frames text ih rest h
    rw [passValue] at h
    exact Nat.lt_trans (ih rest h) (length_skipSpaces_lt (Nat.lt_succ_self _))
  · intro frames text ih rest h
    rw [passValue] at h
    exact Nat.lt_trans (ih rest h) (length_skipSpaces_lt (Nat.lt_succ_self _))
  · intro frames text notArray notObject ih rest h
    rw [passValue] at h
    · obtain ⟨scalar, _, h⟩ := ok_of_bind_eq_ok h
      exact Nat.lt_of_le_of_lt (ih scalar rest h) (length_skipSpaces_lt scalar.shorter)
    · exact notArray
    · exact notObject
  · intro text rest h
    rw [passEnded] at h
    cases h
    exact Nat.le_refl _
  · intro frame frames rest h
    rw [passEnded] at h
    cases h
  · intro frame frames text ih rest h
    rw [passEnded, if_pos rfl] at h
    exact Nat.le_of_lt (Nat.lt_trans (ih rest h) (length_skipSpaces_lt (Nat.lt_succ_self _)))
  · intro frame frames text noComma ih rest h
    rw [passEnded, if_neg noComma, if_pos rfl] at h
    exact Nat.le_trans (ih rest h) (Nat.le_of_lt (length_skipSpaces_lt (Nat.lt_succ_self _)))
  · intro frame frames c text noComma noCloser rest h
    rw [passEnded, if_neg noComma, if_neg noCloser] at h
    cases h
  · intro frames text ih rest h
    rw [passMember] at h
    exact ih rest h
  · intro frames text ih rest h
    rw [passMember] at h
    obtain ⟨name, _, h⟩ := ok_of_bind_eq_ok h
    obtain ⟨colon, _, h⟩ := ok_of_bind_eq_ok h
    exact Nat.lt_trans (ih name colon rest h)
      (length_skipSpaces_lt (Nat.lt_trans colon.shorter name.shorter))
  · intro frame frames rest h
    rw [passOpened] at h
    cases h
  · intro frame frames text ih rest h
    rw [passOpened, if_pos rfl] at h
    exact Nat.lt_of_le_of_lt (ih rest h) (length_skipSpaces_lt (Nat.lt_succ_self _))
  · intro frame frames c text noCloser ih rest h
    rw [passOpened, if_neg noCloser] at h
    exact ih rest h

def passed : Reader Fault Char Unit :=
  skipping fun text =>
    match h : passValue [] text with
    | .error fault => .error fault
    | .ok rest => .ok ⟨(), rest, length_lt_of_passValue h⟩

end PluralRules.Json
