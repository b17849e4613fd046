/-!
The edit distance of two texts: how many characters must be inserted, deleted or substituted to
turn one into the other. It is computed row by row, a row holding the distances of one suffix of
the first text to all suffixes of the second.
-/

namespace PluralRules.Text

def emptyRow : List Char → List Nat
  | [] => [0]
  | _ :: target => (target.length + 1) :: emptyRow target

/-- The distances of `c :: text` to the suffixes of the target, from those of `text`. -/
def extendRow (c : Char) : List Char → List Nat → List Nat
  | b :: target, whole :: row =>
    let shorter := extendRow c target row
    let substituted := row.headD 0 + if c = b then 0 else 1
    min (min (whole + 1) (shorter.headD 0 + 1)) substituted :: shorter
  | _, row => row.map (· + 1)

def distanceRow (text target : List Char) : List Nat :=
  text.foldr (fun c row => extendRow c target row) (emptyRow target)

def editDistance (text target : List Char) : Nat :=
  (distanceRow text target).headD 0

end PluralRules.Text
