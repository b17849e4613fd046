import PluralRules.Reading

/-!
Loops that stop at the first element at fault. Whether an element is at fault depends on the
elements before it; the state of the loop stands for these.
-/

namespace PluralRules

/-- A loop `run` over lists, the lists that are `Good` for it, and the `Fault` of an element behind
a good list. `State before s` says that the loop is in state `s` behind the list `before`. -/
structure FaultLoop {σ α ε γ : Type} (run : σ → List α → Except ε γ) (Good : List α → Prop)
    (Fault : List α → α → ε → Prop) (State : List α → σ → Prop) : Prop where
  nil : ∀ s, ∃ c, run s [] = .ok c
  good_snoc : ∀ before a, Good (before ++ [a]) ↔ Good before ∧ ∀ e, ¬Fault before a e
  stop : ∀ {before s a as e}, State before s → Good before → Fault before a e →
    run s (a :: as) = .error e
  step : ∀ {before s a}, State before s → Good before → (∀ e, ¬Fault before a e) →
    ∃ s', State (before ++ [a]) s' ∧ ∀ as e, run s (a :: as) = .error e ↔ run s' as = .error e

namespace FaultLoop

variable {σ α ε γ : Type} {run : σ → List α → Except ε γ} {Good : List α → Prop}
  {Fault : List α → α → ε → Prop} {State : List α → σ → Prop}

theorem good_of_append (loop : FaultLoop run Good Fault State) {before more : List α}
    (h : Good (before ++ more)) : Good before := by
  induction more generalizing before with
  | nil => rwa [List.append_nil] at h
  | cons a more ih =>
    rw [List.append_cons] at h
    exact ((loop.good_snoc before a).mp (ih h)).1

theorem not_fault_of_append (loop : FaultLoop run Good Fault State) {before more : List α} {a : α}
    (h : Good (before ++ a :: more)) (e : ε) : ¬Fault before a e := by
  rw [List.append_cons] at h
  exact ((loop.good_snoc before a).mp (loop.good_of_append h)).2 e

theorem good_append_iff (loop : FaultLoop run Good Fault State) {before : List α}
    (hbefore : Good before) (as : List α) :
    Good (before ++ as) ↔
      ∀ more a rest e, as = more ++ a :: rest → Good (before ++ more) →
        ¬Fault (before ++ more) a e := by
  constructor
  · rintro h more a rest e rfl -
    rw [← List.append_assoc] at h
    exact loop.not_fault_of_append h e
  · intro h
    induction as generalizing before with
    | nil => rwa [List.append_nil]
    | cons a as ih =>
      have hnone : ∀ e, ¬Fault before a e := by
        intro e
        have := h [] a as e rfl
        rw [List.append_nil] at this
        exact this hbefore
      rw [List.append_cons]
      refine ih ((loop.good_snoc before a).mpr ⟨hbefore, hnone⟩) ?_
      rintro more b rest e rfl
      rw [← List.append_cons]
      exact h (a :: more) b rest e rfl

theorem run_eq_error_iff (loop : FaultLoop run Good Fault State) {before : List α} {s : σ}
    (hs : State before s) (hbefore : Good before) (as : List α) (e : ε) :
    run s as = .error e ↔
      ∃ more a rest, as = more ++ a :: rest ∧ Good (before ++ more) ∧
        Fault (before ++ more) a e := by
  -- What has been passed moves from `as` to `before`, so both change in the induction.
  induction as generalizing before s with
  | nil =>
    obtain ⟨c, hc⟩ := loop.nil s
    simp [hc]
  | cons a as ih =>
    by_cases hfault : ∃ e', Fault before a e'
    · obtain ⟨e', he'⟩ := hfault
      constructor
      · intro h
        rw [loop.stop hs hbefore he'] at h
        cases h
        exact ⟨[], a, as, rfl, by rwa [List.append_nil], by rwa [List.append_nil]⟩
      · rintro ⟨more, b, rest, has, hgood, he⟩
        cases more with
        | nil =>
          cases has
          rw [List.append_nil] at he
          exact loop.stop hs hbefore he
        | cons _ more =>
          cases has
          exact absurd he' (loop.not_fault_of_append hgood e')
    · have hnone : ∀ e', ¬Fault before a e' := fun e' he' => hfault ⟨e', he'⟩
      obtain ⟨s', hs', hrun⟩ := loop.step hs hbefore hnone
      rw [hrun, ih hs' ((loop.good_snoc before a).mpr ⟨hbefore, hnone⟩)]
      constructor
      · rintro ⟨more, b, rest, rfl, hgood, he⟩
        rw [← List.append_cons] at hgood he
        exact ⟨a :: more, b, rest, rfl, hgood, he⟩
      · rintro ⟨more, b, rest, has, hgood, he⟩
        cases more with
        | nil =>
          cases has
          rw [List.append_nil] at he
          exact absurd he (hnone e)
        | cons _ more =>
          cases has
          rw [List.append_cons] at hgood he
          exact ⟨more, b, rest, rfl, hgood, he⟩

theorem run_eq_ok_iff (loop : FaultLoop run Good Fault State) {before : List α} {s : σ}
    (hs : State before s) (hbefore : Good before) (as : List α) :
    (∃ c, run s as = .ok c) ↔ Good (before ++ as) := by
  rw [exists_eq_ok_iff, loop.good_append_iff hbefore]
  simp only [ne_eq, loop.run_eq_error_iff hs hbefore]
  constructor
  · intro h more a rest e has hgood he
    exact h e ⟨more, a, rest, has, hgood, he⟩
  · rintro h e ⟨more, a, rest, has, hgood, he⟩
    exact h more a rest e has hgood he

end FaultLoop

end PluralRules
