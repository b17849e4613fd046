import PluralRules.Text.EditDistance

/-!
Suggestions for a misspelt code: the known codes that a few edits turn it into, the closest first.
-/

namespace PluralRules

/-- How many edits a suggestion may be away. The name is measured in bytes. -/
def suggestionLimit (name : String) : Nat :=
  if name.utf8ByteSize ≤ 3 then 1 else 2

def maxSuggestions : Nat := 3

def nearCodes (name : String) (known : List String) : List (Nat × String) :=
  let measured := known.map fun code => (Text.editDistance name.toList code.toList, code)
  measured.filter fun (distance, _) => 0 < distance && distance ≤ suggestionLimit name

/-- At most three of the near codes; of equally close ones those listed first. -/
def suggestions (name : String) (known : List String) : List String :=
  let sorted := (nearCodes name known).mergeSort fun a b => a.1 ≤ b.1
  (sorted.take maxSuggestions).map Prod.snd

end PluralRules
