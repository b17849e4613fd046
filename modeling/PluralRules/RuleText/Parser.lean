import PluralRules.Condition.Basic
import PluralRules.Reading
import PluralRules.RuleText.Error

/-!
From rule text to a condition. The text up to the first `@` is split into tokens; the tokens are
read by recursive descent, each step leaving fewer of them:

    condition  := conjunction ('or' conjunction)*
    conjunction := relation ('and' relation)*
    relation   := expression ('=' | '!=') item (',' item)*
    item       := value | value '..' value
    expression := operand ('%' value)?
-/

namespace PluralRules

namespace RuleText

structure Failure where
  offset? : Option Nat
  fault : RuleFault

def unexpected (expected : Expected) : List Token → Failure
  | [] => ⟨none, .unexpected expected none⟩
  | token :: _ => ⟨some token.offset, .unexpected expected (some token.kind)⟩

def value : Reader Failure Token (UInt64 × Nat)
  | ⟨.number digits, offset⟩ :: rest =>
    if Nat.ofDigitChars 10 digits 0 < UInt64.size then
      .ok (.one (UInt64.ofNat (Nat.ofDigitChars 10 digits 0), offset) _ rest)
    else .error ⟨some offset, .valueTooLarge digits⟩
  | tokens => .error (unexpected .value tokens)

def operand : Reader Failure Token Symbol
  | ⟨.word [letter], offset⟩ :: rest =>
    match Symbol.ofChar? letter with
    | some symbol => .ok (.one symbol _ rest)
    | none => .error ⟨some offset, .unknownOperand letter⟩
  | tokens => .error (unexpected .operand tokens)

def modulus : Reader Failure Token UInt32 := fun tokens => do
  let parsed ← value tokens
  let (modulus, offset) := parsed.value
  if 0 < modulus.toNat ∧ modulus.toNat < UInt32.size then
    .ok (parsed.map fun _ => modulus.toUInt32)
  else .error ⟨some offset, .modulusOutOfRange modulus⟩

def expression : Reader Failure Token Expression := fun tokens => do
  let symbol ← operand tokens
  let both ← symbol.optionally (·.kind == .modulo) modulus
  .ok (both.map fun (symbol, modulus?) => ⟨symbol, modulus?⟩)

def relationSign : Reader Failure Token Bool
  | ⟨.equal, _⟩ :: rest => .ok (.one false _ rest)
  | ⟨.notEqual, _⟩ :: rest => .ok (.one true _ rest)
  | tokens => .error (unexpected .relationSign tokens)

def rangeItem : Reader Failure Token RangeItem := fun tokens => do
  let start ← value tokens
  let both ← start.optionally (·.kind == .range) value
  match both.value with
  | ((low, _), none) => .ok (both.map fun _ => .single low)
  | ((low, offset), some (high, _)) =>
    if low.toNat ≤ high.toNat then .ok (both.map fun _ => .range low high)
    else .error ⟨some offset, .emptyRange low high⟩

def separated {α : Type} (separator : Token.Kind) (item : Reader Failure Token α)
    (tokens : List Token) : Except Failure (Parsed (List α) tokens) := do
  let ⟨first, rest, shorter⟩ ← item tokens
  match rest, shorter with
  | [], shorter => .ok ⟨[first], [], shorter⟩
  | token :: rest, shorter =>
    if token.kind = separator then
      let others ← separated separator item rest
      .ok ⟨first :: others.value, others.rest,
        Nat.lt_trans others.shorter (Nat.lt_of_succ_lt shorter)⟩
    else .ok ⟨[first], token :: rest, shorter⟩
termination_by tokens.length
decreasing_by exact Nat.lt_of_succ_lt shorter

def relation : Reader Failure Token Relation := fun tokens => do
  let expression ← expression tokens
  let negated ← relationSign expression.rest
  let ranges ← separated .comma rangeItem negated.rest
  let relation := ⟨expression.value, negated.value, ranges.value⟩
  .ok (expression.join (negated.join ranges ()) relation)

def conjunction : Reader Failure Token (List Relation) :=
  separated (.word ['a', 'n', 'd']) relation

def condition : Reader Failure Token Condition := fun tokens => do
  let alternatives ← separated (.word ['o', 'r']) conjunction tokens
  .ok (alternatives.map Condition.mk)

def readTokens (tokens : List Token) : Except Failure Condition := do
  let parsed ← condition tokens
  match parsed.rest with
  | [] => .ok parsed.value
  | rest => .error (unexpected .connective rest)

/-- The part of a rule before its samples. -/
def conditionPart (rule : String) : List Char :=
  rule.toList.takeWhile (· != '@')

end RuleText

/-- The condition of a rule text. -/
def Condition.ofText (rule : String) : Except RuleError Condition :=
  let text := RuleText.conditionPart rule
  match Token.scan 0 text with
  | .error stray => .error ⟨rule, stray.offset, .strayCharacter stray.character⟩
  | .ok tokens =>
    (RuleText.readTokens tokens).mapError fun failure =>
      ⟨rule, failure.offset?.getD (Text.byteLength (Text.trimEnd text)), failure.fault⟩

theorem Condition.rule_of_ofText_eq_error {rule : String} {error : RuleError}
    (h : ofText rule = .error error) : error.rule = rule := by
  simp only [ofText] at h
  split at h
  · cases h
    rfl
  · obtain ⟨failure, -, rfl⟩ := error_of_mapError_eq_error h
    rfl

end PluralRules
