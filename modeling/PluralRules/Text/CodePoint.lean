/-!
Characters as code points: membership in a table of ranges, and the length of text in UTF-8 bytes,
the unit of every offset that the library reports.
-/

namespace PluralRules.Text

def inRanges (ranges : List (Nat × Nat)) (c : Char) : Bool :=
  ranges.any fun range => range.1 ≤ c.toNat && c.toNat ≤ range.2

def byteLength : List Char → Nat
  | [] => 0
  | c :: text => c.utf8Size + byteLength text

@[simp] theorem byteLength_append (text more : List Char) :
    byteLength (text ++ more) = byteLength text + byteLength more := by
  induction text with
  | nil => simp only [List.nil_append, byteLength, Nat.zero_add]
  | cons c text ih => simp only [List.cons_append, byteLength, ih, Nat.add_assoc]

def dropBytes : Nat → List Char → List Char
  | _, [] => []
  | 0, text => text
  | offset + 1, c :: text => dropBytes (offset + 1 - c.utf8Size) text

end PluralRules.Text
