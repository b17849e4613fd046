import PluralRules.Reading
import PluralRules.Text.Blank
import PluralRules.Text.Letter

/-!
Tokens of rule text, each with the byte offset of its first character. Blanks separate tokens and
are skipped; words and numbers are as long as possible.
-/

namespace PluralRules

inductive Token.Kind where
  | word (letters : List Char)
  | number (digits : List Char)
  | equal
  | notEqual
  | modulo
  | comma
  | range
deriving DecidableEq

structure Token where
  kind : Token.Kind
  offset : Nat
deriving DecidableEq

namespace Token

def Kind.text : Kind → List Char
  | word letters => letters
  | number digits => digits
  | equal => ['=']
  | notEqual => ['!', '=']
  | modulo => ['%']
  | comma => [',']
  | range => ['.', '.']

def Kind.ofStart? : List Char → Option (Kind × List Char)
  | '!' :: '=' :: text => some (notEqual, text)
  | '=' :: text => some (equal, text)
  | '.' :: '.' :: text => some (range, text)
  | '%' :: text => some (modulo, text)
  | ',' :: text => some (comma, text)
  | [] => none
  | c :: text =>
    if c.isDigit then
      some (number (c :: text.takeWhile Char.isDigit), text.dropWhile Char.isDigit)
    else if Text.isLetter c then
      some (word (c :: text.takeWhile Text.isLetter), text.dropWhile Text.isLetter)
    else none

theorem Kind.length_lt_of_ofStart? {text rest : List Char} {kind : Kind}
    (h : ofStart? text = some (kind, rest)) : rest.length < text.length := by
  unfold ofStart? at h
  split at h <;> try (cases h; simp only [List.length_cons]; omega)
  · cases h
  · rename_i c text _ _ _ _ _
    have hdigit := length_dropWhile_le Char.isDigit text
    have hletter := length_dropWhile_le Text.isLetter text
    simp only [List.length_cons]
    split at h
    · cases h; omega
    · split at h
      · cases h; omega
      · cases h

structure Stray where
  offset : Nat
  character : Char
deriving DecidableEq

/-- The tokens of a text whose first character has the given offset. -/
def scan (offset : Nat) (text : List Char) : Except Stray (List Token) :=
  match text with
  | [] => .ok []
  | c :: rest =>
    if Text.isBlank c then scan (offset + c.utf8Size) rest
    else
      match _h : Kind.ofStart? (c :: rest) with
      | none => .error ⟨offset, c⟩
      | some (kind, after) =>
        (scan (offset + Text.byteLength kind.text) after).map (⟨kind, offset⟩ :: ·)
termination_by text.length
decreasing_by
  · exact Nat.lt_succ_self _
  · exact Kind.length_lt_of_ofStart? _h

end Token

end PluralRules
