/-!
Readers: functions that take a value from the front of a list and leave strictly less of it. The
proof of that travels with the value, so a reader that repeats another one ends by measure.
-/

namespace PluralRules

structure Parsed {σ : Type} (α : Type) (input : List σ) where
  value : α
  rest : List σ
  shorter : rest.length < input.length

/-- Reads an `α` from a list of `σ`, or fails with an `ε`. -/
abbrev Reader (ε σ α : Type) : Type :=
  (input : List σ) → Except ε (Parsed α input)

namespace Parsed

variable {σ α β γ ε : Type} {input : List σ}

def one (value : α) (x : σ) (rest : List σ) : Parsed α (x :: rest) :=
  ⟨value, rest, Nat.lt_succ_self _⟩

def widen {longer : List σ} (parsed : Parsed α input) (h : input.length ≤ longer.length) :
    Parsed α longer :=
  ⟨parsed.value, parsed.rest, Nat.lt_of_lt_of_le parsed.shorter h⟩

def behind (x : σ) (parsed : Parsed α input) : Parsed α (x :: input) :=
  parsed.widen (Nat.le_succ _)

def map (f : α → β) (parsed : Parsed α input) : Parsed β input :=
  ⟨f parsed.value, parsed.rest, parsed.shorter⟩

def join (first : Parsed α input) (second : Parsed β first.rest) (value : γ) : Parsed γ input :=
  ⟨value, second.rest, Nat.lt_trans second.shorter first.shorter⟩

def optionally (first : Parsed α input) (isSign : σ → Bool) (reader : Reader ε σ β) :
    Except ε (Parsed (α × Option β) input) :=
  match first.rest, first.shorter with
  | [], shorter => .ok ⟨(first.value, none), [], shorter⟩
  | x :: rest, shorter =>
    if isSign x then do
      let second ← reader rest
      .ok ⟨(first.value, some second.value), second.rest,
        Nat.lt_trans second.shorter (Nat.lt_of_succ_lt shorter)⟩
    else .ok ⟨(first.value, none), x :: rest, shorter⟩

end Parsed

theorem ok_of_bind_eq_ok {ε α β : Type} {step : Except ε α} {next : α → Except ε β} {b : β}
    (h : step >>= next = .ok b) : ∃ a, step = .ok a ∧ next a = .ok b := by
  cases step with
  | error fault => cases h
  | ok a => exact ⟨a, rfl, h⟩

theorem exists_eq_ok_iff {ε α : Type} {result : Except ε α} :
    (∃ a, result = .ok a) ↔ ∀ e, result ≠ .error e := by
  cases result with
  | error e => exact ⟨fun ⟨_, h⟩ => (nomatch h), fun h => absurd rfl (h e)⟩
  | ok a => exact ⟨fun _ _ h => (nomatch h), fun _ => ⟨a, rfl⟩⟩

theorem bind_eq_error_iff {ε α β : Type} {step : Except ε α} {next : α → Except ε β} {e : ε} :
    step >>= next = .error e ↔ step = .error e ∨ ∃ a, step = .ok a ∧ next a = .error e := by
  cases step with
  | error fault =>
    constructor
    · intro h
      cases h
      exact .inl rfl
    · rintro (h | ⟨a, h, -⟩) <;> cases h
      rfl
  | ok a =>
    constructor
    · intro h
      exact .inr ⟨a, rfl, h⟩
    · rintro (h | ⟨b, h, hnext⟩) <;> cases h
      exact hnext

theorem map_eq_ok_iff {ε α β : Type} {result : Except ε α} {f : α → β} {b : β} :
    result.map f = .ok b ↔ ∃ a, result = .ok a ∧ f a = b := by
  cases result with
  | error e => simp [Except.map]
  | ok a => simp [Except.map]

theorem map_eq_error_iff {ε α β : Type} {result : Except ε α} {f : α → β} {e : ε} :
    result.map f = .error e ↔ result = .error e := by
  cases result with
  | error e => simp [Except.map]
  | ok a => simp [Except.map]

theorem ok_of_mapError_eq_ok {ε ε' α : Type} {result : Except ε α} {f : ε → ε'} {a : α}
    (h : result.mapError f = .ok a) : result = .ok a := by
  cases result with
  | error e => cases h
  | ok b => exact congrArg Except.ok (Except.ok.inj h)

theorem error_of_mapError_eq_error {ε ε' α : Type} {result : Except ε α} {f : ε → ε'} {e : ε'}
    (h : result.mapError f = .error e) : ∃ e', result = .error e' ∧ e = f e' := by
  cases result with
  | error e' => exact ⟨e', rfl, (Except.error.inj h).symm⟩
  | ok a => cases h

theorem length_dropWhile_le {σ : Type} (p : σ → Bool) (input : List σ) :
    (input.dropWhile p).length ≤ input.length :=
  (List.dropWhile_sublist p).length_le

end PluralRules
