import PluralRules.Reading

/-!
What a reader takes from the front of its input, apart from the proof that it leaves less.
-/

namespace PluralRules

variable {σ α β ε : Type}

def Takes (reader : Reader ε σ α) (input : List σ) (a : α) (rest : List σ) : Prop :=
  ∃ parsed, reader input = .ok parsed ∧ parsed.value = a ∧ parsed.rest = rest

theorem takes_of_eq_ok {reader : Reader ε σ α} {input : List σ} {parsed : Parsed α input}
    (h : reader input = .ok parsed) : Takes reader input parsed.value parsed.rest :=
  ⟨parsed, h, rfl, rfl⟩

theorem takes_iff {reader : Reader ε σ α} {input rest : List σ} {a : α} :
    Takes reader input a rest ↔ ∃ shorter, reader input = .ok ⟨a, rest, shorter⟩ := by
  constructor
  · rintro ⟨⟨value, remaining, shorter⟩, h, rfl, rfl⟩
    exact ⟨shorter, h⟩
  · rintro ⟨shorter, h⟩
    exact takes_of_eq_ok h

theorem Takes.map {outer : Reader ε σ β} {reader : Reader ε σ α} {input rest : List σ} {a : α}
    (f : α → β) (h : Takes reader input a rest)
    (houter : outer input = reader input >>= fun parsed => .ok (parsed.map f)) :
    Takes outer input (f a) rest := by
  obtain ⟨shorter, h⟩ := takes_iff.mp h
  rw [takes_iff, houter, h]
  exact ⟨shorter, rfl⟩

theorem Takes.behind {outer reader : Reader ε σ α} {x : σ} {input rest : List σ} {a : α}
    (h : Takes reader input a rest)
    (houter : outer (x :: input) = reader input >>= fun parsed => .ok (parsed.behind x)) :
    Takes outer (x :: input) a rest := by
  obtain ⟨shorter, h⟩ := takes_iff.mp h
  rw [takes_iff, houter, h]
  exact ⟨_, rfl⟩

theorem optionally_eq_ok_iff {input rest : List σ} {first : Parsed α input} {isSign : σ → Bool}
    {reader : Reader ε σ β} {both : α × Option β} :
    (∃ parsed, first.optionally isSign reader = .ok parsed ∧ parsed.value = both ∧
        parsed.rest = rest) ↔
      (both = (first.value, none) ∧ rest = first.rest ∧
        ∀ x ∈ first.rest.head?, isSign x = false) ∨
      ∃ x after b, first.rest = x :: after ∧ isSign x = true ∧ both = (first.value, some b) ∧
        Takes reader after b rest := by
  obtain ⟨a, remaining, shorter⟩ := first
  cases remaining with
  | nil =>
    constructor
    · rintro ⟨parsed, h, rfl, rfl⟩
      cases h
      exact .inl ⟨rfl, rfl, by simp⟩
    · rintro (⟨rfl, rfl, -⟩ | ⟨x, after, b, h, -⟩)
      · exact ⟨_, rfl, rfl, rfl⟩
      · cases h
  | cons x remaining =>
    constructor
    · rintro ⟨parsed, h, rfl, rfl⟩
      simp only [Parsed.optionally] at h
      split at h
      case isTrue hsign =>
        obtain ⟨second, hsecond, h⟩ := ok_of_bind_eq_ok h
        cases h
        exact .inr ⟨x, remaining, second.value, rfl, hsign, rfl, takes_of_eq_ok hsecond⟩
      case isFalse hsign =>
        cases h
        exact .inl ⟨rfl, rfl, by simpa using hsign⟩
    · rintro (⟨rfl, rfl, hsign⟩ | ⟨y, after, b, hcons, hsign, rfl, parsed, hparsed, rfl, rfl⟩)
      · have hx : isSign x = false := hsign x rfl
        simp only [Parsed.optionally, hx, Bool.false_eq_true, if_false]
        exact ⟨_, rfl, rfl, rfl⟩
      · cases hcons
        simp only [Parsed.optionally, hsign, if_true, hparsed]
        exact ⟨_, rfl, rfl, rfl⟩

end PluralRules
