import PluralRules.Json.Fault
import PluralRules.Reading

/-!
The smallest readers of JSON text: spaces, words and signs.
-/

namespace PluralRules.Json

def isSpace (c : Char) : Bool :=
  c == ' ' || c == '\n' || c == '\t' || c == '\r'

def skipSpaces (text : List Char) : List Char :=
  text.dropWhile isSpace

theorem length_skipSpaces_lt {text : List Char} {n : Nat} (h : text.length < n) :
    (skipSpaces text).length < n :=
  Nat.lt_of_le_of_lt (length_dropWhile_le isSpace text) h

def skipping {α : Type} (reader : Reader Fault Char α) : Reader Fault Char α := fun text => do
  .ok ((← reader (skipSpaces text)).widen (length_dropWhile_le isSpace text))

def letters (word : List Char) (text : List Char) :
    Except Fault { rest : List Char // rest.length ≤ text.length } :=
  match word, text with
  | [], text => .ok ⟨text, Nat.le_refl _⟩
  | _ :: _, [] => .error .endOfText
  | letter :: word, c :: text =>
    if letter = c then do
      let ⟨rest, h⟩ ← letters word text
      .ok ⟨rest, Nat.le_succ_of_le h⟩
    else .error .grammar

def wordBehind (c : Char) (word text : List Char) :
    Except Fault (Parsed Unit (c :: text)) := do
  let ⟨rest, h⟩ ← letters word text
  .ok ⟨(), rest, Nat.lt_succ_of_le h⟩

def colon : Reader Fault Char Unit :=
  skipping fun
    | ':' :: text => .ok (.one () ':' text)
    | [] => .error .endOfText
    | _ => .error .grammar

end PluralRules.Json
