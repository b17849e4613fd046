import PluralRules.Condition.Canonical
import PluralRules.Proofs.RuleText.Munch

/-!
The canonical text of a condition splits into the tokens of its parts, whether the condition is
well formed or not: what stands behind a word or a number there never lengthens it.
-/

namespace PluralRules

open Token (Kind Munch)

def Expression.kinds (expression : Expression) : List Kind :=
  match expression.modulus? with
  | none => [.word [expression.symbol.toChar]]
  | some modulus =>
    [.word [expression.symbol.toChar], .modulo, .number (Nat.toDigits 10 modulus.toNat)]

def RangeItem.kinds : RangeItem → List Kind
  | single value => [.number (Nat.toDigits 10 value.toNat)]
  | range low high =>
    [.number (Nat.toDigits 10 low.toNat), .range, .number (Nat.toDigits 10 high.toNat)]

def Relation.kinds (relation : Relation) : List Kind :=
  relation.expression.kinds ++ (if relation.negated then .notEqual else .equal) ::
    [Kind.comma].intercalate (relation.ranges.map RangeItem.kinds)

def conjunctionKinds (relations : List Relation) : List Kind :=
  [Kind.word ['a', 'n', 'd']].intercalate (relations.map Relation.kinds)

def Condition.kinds (condition : Condition) : List Kind :=
  [Kind.word ['o', 'r']].intercalate (condition.alternatives.map conjunctionKinds)

namespace Token

def Breaks (rest : List Char) : Prop :=
  ∀ c ∈ rest.head?, Text.isLetter c = false ∧ c.isDigit = false

theorem Munch.append {text middle rest : List Char} {kinds others : List Kind}
    (h : Munch text kinds middle) (hmiddle : Munch middle others rest) :
    Munch text (kinds ++ others) rest := by
  induction h with
  | done => exact hmiddle
  | blank hblank _ ih => exact .blank hblank (ih hmiddle)
  | token hlongest _ ih => exact .token hlongest (ih hmiddle)

theorem Kind.endsBefore_of_breaks (kind : Kind) {rest : List Char} (h : Breaks rest) :
    kind.EndsBefore rest := by
  cases kind with
  | word letters => exact fun c hc => (h c hc).1
  | number digits => exact fun c hc => (h c hc).2
  | equal | notEqual | modulo | comma | range => trivial

theorem breaks_cons {c : Char} (hletter : Text.isLetter c = false) (hdigit : c.isDigit = false)
    (rest : List Char) : Breaks (c :: rest) := by
  rintro d ⟨⟩
  exact ⟨hletter, hdigit⟩

theorem munch_text (kind : Kind) (hspelt : kind.Spelt) {after rest : List Char}
    (hafter : kind.EndsBefore after) {kinds : List Kind} (h : Munch after kinds rest) :
    Munch (kind.text ++ after) (kind :: kinds) rest :=
  .token (longest_iff.mpr ⟨hspelt, rfl, hafter⟩) h

theorem Kind.spelt_number (n : Nat) : (number (Nat.toDigits 10 n)).Spelt :=
  ⟨Nat.toDigits_ne_nil, fun _ hc => Nat.isDigit_of_mem_toDigits (by decide) (by decide) hc⟩

theorem Kind.spelt_symbol (symbol : Symbol) : (word [symbol.toChar]).Spelt := by
  have hletter : Text.isLetter symbol.toChar = true := by cases symbol <;> decide
  exact ⟨List.cons_ne_nil _ _, List.forall_mem_singleton.mpr hletter⟩

theorem munch_number (n : Nat) {after rest : List Char} (hafter : Breaks after)
    {kinds : List Kind} (h : Munch after kinds rest) :
    Munch (Nat.toDigits 10 n ++ after) (.number (Nat.toDigits 10 n) :: kinds) rest :=
  munch_text _ (Kind.spelt_number n) (Kind.endsBefore_of_breaks _ hafter) h

theorem munch_word (letters : List Char) (hne : letters ≠ [])
    (hletter : ∀ c ∈ letters, Text.isLetter c = true) {after rest : List Char}
    (hafter : Breaks after) {kinds : List Kind} (h : Munch after kinds rest) :
    Munch (letters ++ after) (.word letters :: kinds) rest :=
  munch_text (.word letters) ⟨hne, hletter⟩ (Kind.endsBefore_of_breaks _ hafter) h

theorem munch_symbol (symbol : Symbol) {after rest : List Char} (hafter : Breaks after)
    {kinds : List Kind} (h : Munch after kinds rest) :
    Munch (symbol.toChar :: after) (.word [symbol.toChar] :: kinds) rest :=
  munch_text _ (Kind.spelt_symbol symbol) (Kind.endsBefore_of_breaks _ hafter) h

theorem munch_blank {text rest : List Char} {kinds : List Kind} (h : Munch text kinds rest) :
    Munch (' ' :: text) kinds rest :=
  .blank (by decide) h

theorem breaks_blank (rest : List Char) : Breaks (' ' :: rest) :=
  breaks_cons (by decide) (by decide) rest

theorem munch_intercalate {α : Type} {text : α → List Char} {kinds : α → List Kind}
    {gap : List Char} {separator : Kind}
    (hitem : ∀ a rest, Breaks rest → Munch (text a ++ rest) (kinds a) rest)
    (hgap : ∀ rest, Munch (gap ++ rest) [separator] rest) (hbreaks : ∀ rest, Breaks (gap ++ rest))
    (as : List α) {rest : List Char} (h : Breaks rest) :
    Munch (gap.intercalate (as.map text) ++ rest) ([separator].intercalate (as.map kinds))
      rest := by
  induction as with
  | nil => exact .done rest
  | cons a as ih =>
    cases as with
    | nil => simpa using hitem a rest h
    | cons b as =>
      -- The first item is followed by a gap, so it is split off whatever the others are.
      have hrest := (hgap _).append ih
      have hall := (hitem a _ (hbreaks _)).append hrest
      simpa [List.append_assoc] using hall

end Token

open Token

theorem Expression.munch (expression : Expression) {rest : List Char} (h : Breaks rest) :
    Munch (expression.canonical ++ rest) expression.kinds rest := by
  obtain ⟨symbol, modulus?⟩ := expression
  cases modulus? with
  | none => exact munch_symbol symbol h (.done rest)
  | some modulus =>
    have hmodulus := munch_number modulus.toNat h (.done rest)
    refine munch_symbol symbol (breaks_blank _) (munch_blank ?_)
    exact munch_text .modulo trivial trivial (munch_blank hmodulus)

theorem RangeItem.munch (item : RangeItem) {rest : List Char} (h : Breaks rest) :
    Munch (item.canonical ++ rest) item.kinds rest := by
  cases item with
  | single value => exact munch_number value.toNat h (.done rest)
  | range low high =>
    have hhigh := munch_number high.toNat h (.done rest)
    rw [canonical, List.append_assoc]
    refine munch_number low.toNat (breaks_cons (by decide) (by decide) _) ?_
    exact munch_text .range trivial trivial hhigh

theorem Relation.munch (relation : Relation) {rest : List Char} (h : Breaks rest) :
    Munch (relation.canonical ++ rest) relation.kinds rest := by
  have hranges : Munch
      ([','].intercalate (relation.ranges.map RangeItem.canonical) ++ rest)
      ([Kind.comma].intercalate (relation.ranges.map RangeItem.kinds)) rest :=
    munch_intercalate (fun item _ => item.munch)
      (fun rest => munch_text .comma trivial trivial (.done rest))
      (fun rest => breaks_cons (by decide) (by decide) rest) relation.ranges h
  rw [canonical, kinds, List.append_assoc, List.append_assoc]
  refine (relation.expression.munch ?_).append ?_
  · split <;> exact breaks_blank _
  · split
    · exact munch_blank (munch_text .notEqual trivial trivial (munch_blank hranges))
    · exact munch_blank (munch_text .equal trivial trivial (munch_blank hranges))

theorem munch_keyword (letters : List Char) (hne : letters ≠ [])
    (hletter : ∀ c ∈ letters, Text.isLetter c = true) (rest : List Char) :
    Munch (' ' :: letters ++ ' ' :: rest) [.word letters] rest := by
  have hbehind : Munch (' ' :: rest) [] rest := munch_blank (.done rest)
  exact munch_blank (munch_word letters hne hletter (breaks_blank rest) hbehind)

theorem munch_conjunctionText (relations : List Relation) {rest : List Char} (h : Breaks rest) :
    Munch (conjunctionText relations ++ rest) (conjunctionKinds relations) rest := by
  have hletters : ∀ c ∈ ['a', 'n', 'd'], Text.isLetter c = true :=
    List.all_eq_true.mp (by decide)
  exact munch_intercalate (fun relation _ => relation.munch)
    (munch_keyword ['a', 'n', 'd'] (List.cons_ne_nil _ _) hletters)
    (fun _ => breaks_blank _) relations h

theorem Condition.munch (condition : Condition) :
    Munch condition.canonical condition.kinds [] := by
  have hnil : Breaks [] := by simp [Breaks]
  have hletters : ∀ c ∈ ['o', 'r'], Text.isLetter c = true := List.all_eq_true.mp (by decide)
  have hall : Munch (condition.canonical ++ []) condition.kinds [] :=
    munch_intercalate (fun relations _ => munch_conjunctionText relations)
      (munch_keyword ['o', 'r'] (List.cons_ne_nil _ _) hletters)
      (fun _ => breaks_blank _) condition.alternatives hnil
  rwa [List.append_nil] at hall

end PluralRules
