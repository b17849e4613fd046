import Mathlib.Data.List.Induction
import PluralRules.Proofs.Selector
import PluralRules.Session

/-!
What a selection in a session depends on: the table that was current when the selector was made, or
its clone's source was, and the locale last set on it since. Whatever else the session is asked for,
before or since, has no part in it.
-/

namespace PluralRules.Session

inductive Request where
  | step (step : Step)
  | selection (name : String) (number : Numeral)

namespace Request

def step? : Request → Option Step
  | .step asked => some asked
  | .selection _ _ => none

def builtTable? : Request → Option RuleTable
  | .step (.build source) => source.table.toOption
  | _ => none

def target? : Request → Option String
  | .step (.select name _ _) => some name
  | .step (.clone name _) => some name
  | .step (.setLocale name _) => some name
  | _ => none

def setLocale? (name : String) : Request → Option String
  | .step (.setLocale other locale) => if other = name then some locale else none
  | _ => none

end Request

def after (history : List Request) : Session :=
  start.run (history.filterMap Request.step?)

def reply? (session : Session) (name : String) (number : Numeral) :
    Option (Except SelectionError Category) :=
  (session.held? name).map fun held => held.selector.categoryForNumeral number

def currentTable (history : List Request) : RuleTable :=
  (history.reverse.findSome? Request.builtTable?).getD .empty

def lastLocale? (name : String) (history : List Request) : Option String :=
  history.reverse.findSome? (Request.setLocale? name)

inductive Made : List Request → String → Prop
  | select {before since : List Request} {name : String} {locale? fallback? : Option String} :
    Made (before ++ .step (.select name locale? fallback?) :: since) name
  | clone {before since : List Request} {name source : String} : Made before source →
    Made (before ++ .step (.clone name source) :: since) name

inductive Makes (history : List Request) (name : String) : Request → Prop
  | select {locale? fallback? : Option String} :
    Makes history name (.step (.select name locale? fallback?))
  | clone {source : String} : Made history source → Makes history name (.step (.clone name source))

/-- None of the later requests makes another selector of the name. -/
def Kept (name : String) (before since : List Request) : Prop :=
  ∀ front request back, since = front ++ request :: back → ¬Makes (before ++ front) name request

/-- The table, the locale and the fallback of a selector, by the request that made it and those
since. -/
inductive Configured : List Request → String → RuleTable → String → Option String → Prop
  | made {before since : List Request} {name : String} {locale? fallback? : Option String} :
    Kept name (before ++ [.step (.select name locale? fallback?)]) since →
    Configured (before ++ .step (.select name locale? fallback?) :: since) name
      (currentTable before) ((lastLocale? name since).getD (locale?.getD Selector.defaultLocale))
      fallback?
  | cloned {before since : List Request} {name source locale : String} {table : RuleTable}
    {fallback? : Option String} : Configured before source table locale fallback? →
    Kept name (before ++ [.step (.clone name source)]) since →
    Configured (before ++ .step (.clone name source) :: since) name table
      ((lastLocale? name since).getD locale) fallback?

section

variable {history before since : List Request} {request : Request} {name : String}

theorem currentTable_snoc :
    currentTable (history ++ [request]) = request.builtTable?.getD (currentTable history) := by
  rw [currentTable, List.reverse_concat, List.findSome?_cons]
  cases request.builtTable? <;> rfl

theorem lastLocale?_snoc :
    lastLocale? name (since ++ [request]) =
      (request.setLocale? name).or (lastLocale? name since) := by
  rw [lastLocale?, List.reverse_concat, List.findSome?_cons]
  cases request.setLocale? name <;> rfl

theorem kept_nil : Kept name before [] := by
  intro front request back h
  simp at h

theorem append_cons_eq_snoc {α : Type} {before since all : List α} {a last : α}
    (h : before ++ a :: since = all ++ [last]) :
    since = [] ∧ before = all ∧ a = last ∨
      ∃ front, since = front ++ [last] ∧ all = before ++ a :: front := by
  rcases List.eq_nil_or_concat' since with rfl | ⟨front, b, rfl⟩
  · obtain ⟨hbefore, hlast⟩ := List.append_inj' h rfl
    exact .inl ⟨rfl, hbefore, List.head_eq_of_cons_eq hlast⟩
  · rw [← List.cons_append, ← List.append_assoc] at h
    obtain ⟨hall, hlast⟩ := List.append_inj' h rfl
    exact .inr ⟨front, by rw [List.head_eq_of_cons_eq hlast], hall.symm⟩

theorem kept_snoc_iff :
    Kept name before (since ++ [request]) ↔
      Kept name before since ∧ ¬Makes (before ++ since) name request := by
  constructor
  · intro h
    refine ⟨fun front other back hsplit => ?_, h since request [] rfl⟩
    exact h front other (back ++ [request]) (by simp [hsplit])
  · rintro ⟨hsince, hlast⟩ front other back hsplit
    rcases append_cons_eq_snoc hsplit.symm with ⟨rfl, rfl, rfl⟩ | ⟨back, rfl, hback⟩
    · exact hlast
    · exact hsince front other back hback

theorem target_of_makes (h : Makes history name request) : request.target? = some name := by
  cases h <;> rfl

theorem Made.snoc (h : Made history name) (request : Request) :
    Made (history ++ [request]) name := by
  cases h with
  | select =>
    rw [List.append_assoc, List.cons_append]
    exact .select
  | clone hsource =>
    rw [List.append_assoc, List.cons_append]
    exact .clone hsource

theorem made_snoc_iff :
    Made (history ++ [request]) name ↔ Makes history name request ∨ Made history name := by
  constructor
  · generalize hall : history ++ [request] = all
    rintro (_ | hsource)
    · rcases append_cons_eq_snoc hall.symm with ⟨rfl, rfl, rfl⟩ | ⟨front, rfl, rfl⟩
      · exact .inl .select
      · exact .inr .select
    · rcases append_cons_eq_snoc hall.symm with ⟨rfl, rfl, rfl⟩ | ⟨front, rfl, rfl⟩
      · exact .inl (.clone hsource)
      · exact .inr (.clone hsource)
  · rintro ((_ | hsource) | hmade)
    · exact .select
    · exact .clone hsource
    · exact hmade.snoc request

theorem Configured.snoc {table : RuleTable} {locale : String} {fallback? : Option String}
    (h : Configured history name table locale fallback?) (hother : ¬Makes history name request) :
    Configured (history ++ [request]) name table ((request.setLocale? name).getD locale)
      fallback? := by
  cases h with
  | @made before since _ locale? _ hkept =>
    rw [List.append_assoc, List.cons_append, ← Option.getD_or, ← lastLocale?_snoc]
    refine .made (kept_snoc_iff.mpr ⟨hkept, ?_⟩)
    simpa using hother
  | @cloned before since _ source old _ _ hsource hkept =>
    rw [List.append_assoc, List.cons_append, ← Option.getD_or, ← lastLocale?_snoc]
    refine .cloned hsource (kept_snoc_iff.mpr ⟨hkept, ?_⟩)
    simpa using hother

theorem configured_snoc_iff {table : RuleTable} {locale : String} {fallback? : Option String} :
    Configured (history ++ [request]) name table locale fallback? ↔
      (∃ locale?, request = .step (.select name locale? fallback?) ∧ table = currentTable history ∧
        locale = locale?.getD Selector.defaultLocale) ∨
      (∃ source, request = .step (.clone name source) ∧
        Configured history source table locale fallback?) ∨
      ¬Makes history name request ∧ ∃ old, Configured history name table old fallback? ∧
        locale = (request.setLocale? name).getD old := by
  constructor
  · generalize hall : history ++ [request] = all
    rintro (hkept | ⟨hsource, hkept⟩)
    · rcases append_cons_eq_snoc hall.symm with ⟨rfl, rfl, rfl⟩ | ⟨front, rfl, rfl⟩
      · exact .inl ⟨_, rfl, rfl, rfl⟩
      · rw [kept_snoc_iff] at hkept
        refine .inr (.inr ⟨by simpa using hkept.2, _, .made hkept.1, ?_⟩)
        rw [lastLocale?_snoc, Option.getD_or]
    · rcases append_cons_eq_snoc hall.symm with ⟨rfl, rfl, rfl⟩ | ⟨front, rfl, rfl⟩
      · exact .inr (.inl ⟨_, rfl, hsource⟩)
      · rw [kept_snoc_iff] at hkept
        refine .inr (.inr ⟨by simpa using hkept.2, _, .cloned hsource hkept.1, ?_⟩)
        rw [lastLocale?_snoc, Option.getD_or]
  · rintro (⟨locale?, rfl, rfl, rfl⟩ | ⟨source, rfl, hsource⟩ | ⟨hother, old, hold, rfl⟩)
    · exact .made kept_nil
    · exact .cloned hsource kept_nil
    · exact hold.snoc hother

theorem not_made_nil : ¬Made [] name := by
  generalize hnil : ([] : List Request) = history
  rintro (_ | _) <;> simp at hnil

theorem made_of_configured {table : RuleTable} {locale : String} {fallback? : Option String}
    (h : Configured history name table locale fallback?) : Made history name := by
  induction h with
  | made => exact .select
  | cloned _ _ ih => exact .clone ih

theorem exists_configured_of_made (h : Made history name) :
    ∃ table locale fallback?, Configured history name table locale fallback? := by
  induction history using List.reverseRecOn generalizing name with
  | nil => exact absurd h not_made_nil
  | append_singleton history request ih =>
    by_cases hmakes : Makes history name request
    · cases hmakes with
      | select => exact ⟨_, _, _, .made kept_nil⟩
      | clone hsource =>
        obtain ⟨table, locale, fallback?, hconfigured⟩ := ih hsource
        exact ⟨_, _, _, .cloned hconfigured kept_nil⟩
    · obtain ⟨table, locale, fallback?, hold⟩ := ih ((made_snoc_iff.mp h).resolve_left hmakes)
      exact ⟨_, _, _, hold.snoc hmakes⟩

end

section

variable {history : List Request} {name : String}

theorem after_selection (other : String) (number : Numeral) :
    after (history ++ [.selection other number]) = after history := by
  rw [after, List.filterMap_append]
  exact congrArg _ (List.append_nil _)

theorem after_step (step : Step) :
    after (history ++ [.step step]) =
      ((after history).apply step).toOption.getD (after history) := by
  rw [after, List.filterMap_append, run, List.foldl_append]
  rfl

theorem after_build (source : TableSource) :
    after (history ++ [.step (.build source)]) =
      match source.table.toOption with
      | some table => { after history with edition := (after history).edition + 1, table := table }
      | none => after history := by
  rw [after_step]
  cases h : source.table <;> simp only [apply, h] <;> rfl

theorem after_select (other : String) (locale? fallback? : Option String) :
    after (history ++ [.step (.select other locale? fallback?)]) =
      (after history).hold other ⟨(after history).edition,
        (after history).table, locale?.getD Selector.defaultLocale, fallback?⟩ :=
  after_step _

theorem after_clone (other source : String) :
    after (history ++ [.step (.clone other source)]) =
      match (after history).held? source with
      | some held => (after history).hold other held
      | none => after history := by
  rw [after_step]
  cases h : (after history).held? source <;> simp only [apply, h] <;> rfl

theorem after_setLocale (other locale : String) :
    after (history ++ [.step (.setLocale other locale)]) =
      match (after history).held? other with
      | some held =>
        (after history).hold other { held with selector := { held.selector with locale := locale } }
      | none => after history := by
  rw [after_step]
  cases h : (after history).held? other <;> simp only [apply, h] <;> rfl

theorem table_after (history : List Request) : (after history).table = currentTable history := by
  induction history using List.reverseRecOn with
  | nil => rfl
  | append_singleton history request ih =>
    rw [currentTable_snoc, ← ih]
    cases request with
    | selection other number => rw [after_selection]; rfl
    | step step =>
      cases step with
      | build source =>
        rw [after_build, Request.builtTable?]
        cases source.table.toOption <;> rfl
      | select other locale? fallback? => rw [after_select]; rfl
      | clone other source =>
        rw [after_clone]
        cases (after history).held? source <;> rfl
      | setLocale other locale =>
        rw [after_setLocale]
        cases (after history).held? other <;> rfl

theorem held?_after_of_target?_ne {request : Request} (h : request.target? ≠ some name) :
    (after (history ++ [request])).held? name = (after history).held? name := by
  have hne {other : String} (h : some other ≠ some name) : name ≠ other :=
    fun heq => h (heq ▸ rfl)
  cases request with
  | selection other number => rw [after_selection]
  | step step =>
    cases step with
    | build source =>
      rw [after_build]
      cases source.table.toOption <;> rfl
    | select other locale? fallback? => rw [after_select, held?_hold_of_ne _ _ (hne h)]
    | clone other source =>
      rw [after_clone]
      split
      · exact held?_hold_of_ne _ _ (hne h)
      · rfl
    | setLocale other locale =>
      rw [after_setLocale]
      split
      · exact held?_hold_of_ne _ _ (hne h)
      · rfl

section

variable {table : RuleTable} {locale : String} {fallback? : Option String}

theorem configured_snoc_of_target?_ne {request : Request} (h : request.target? ≠ some name) :
    Configured (history ++ [request]) name table locale fallback? ↔
      Configured history name table locale fallback? := by
  have hother : ¬Makes history name request := fun hmakes => h (target_of_makes hmakes)
  have hlocale : request.setLocale? name = none := by
    unfold Request.setLocale?
    split
    · exact if_neg fun heq => h (congrArg some heq)
    · rfl
  rw [configured_snoc_iff]
  constructor
  · rintro (⟨locale?, rfl, -⟩ | ⟨source, rfl, -⟩ | ⟨-, old, hold, rfl⟩)
    · exact absurd .select hother
    · exact absurd rfl h
    · rwa [hlocale]
  · intro hold
    exact .inr (.inr ⟨hother, locale, hold, by rw [hlocale]; rfl⟩)

theorem configured_select_iff {locale? given? : Option String} :
    Configured (history ++ [.step (.select name locale? given?)]) name table locale fallback? ↔
      table = currentTable history ∧ locale = locale?.getD Selector.defaultLocale ∧
        fallback? = given? := by
  rw [configured_snoc_iff]
  constructor
  · rintro (⟨_, heq, htable, hlocale⟩ | ⟨source, heq, -⟩ | ⟨hother, -⟩)
    · cases heq
      exact ⟨htable, hlocale, rfl⟩
    · cases heq
    · exact absurd .select hother
  · rintro ⟨htable, hlocale, rfl⟩
    exact .inl ⟨locale?, rfl, htable, hlocale⟩

theorem configured_clone_iff {source : String} :
    Configured (history ++ [.step (.clone name source)]) name table locale fallback? ↔
      Configured history source table locale fallback? ∨
        ¬Made history source ∧ Configured history name table locale fallback? := by
  rw [configured_snoc_iff]
  constructor
  · rintro (⟨_, heq, -⟩ | ⟨_, heq, hsource⟩ | ⟨hother, old, hold, rfl⟩)
    · cases heq
    · cases heq
      exact .inl hsource
    · exact .inr ⟨fun hmade => hother (.clone hmade), hold⟩
  · rintro (hsource | ⟨hmade, hold⟩)
    · exact .inr (.inl ⟨source, rfl, hsource⟩)
    · refine .inr (.inr ⟨fun hmakes => ?_, locale, hold, rfl⟩)
      cases hmakes with
      | clone hsource => exact hmade hsource

theorem configured_setLocale_iff {given : String} :
    Configured (history ++ [.step (.setLocale name given)]) name table locale fallback? ↔
      locale = given ∧ ∃ old, Configured history name table old fallback? := by
  have hlocale (old : String) :
      (Request.setLocale? name (.step (.setLocale name given))).getD old = given := by
    rw [Request.setLocale?, if_pos rfl]
    rfl
  rw [configured_snoc_iff]
  constructor
  · rintro (⟨_, heq, -⟩ | ⟨_, heq, -⟩ | ⟨-, old, hold, rfl⟩)
    · cases heq
    · cases heq
    · exact ⟨hlocale old, old, hold⟩
  · rintro ⟨rfl, old, hold⟩
    exact .inr (.inr ⟨nofun, old, hold, (hlocale old).symm⟩)

theorem made_iff_of_configured_iff {history : List Request} {name : String}
    (h : ∀ {table locale fallback?}, Configured history name table locale fallback? ↔
      ∃ edition, (after history).held? name = some ⟨edition, table, locale, fallback?⟩) :
    Made history name ↔ ((after history).held? name).isSome = true := by
  constructor
  · intro hmade
    obtain ⟨table, locale, fallback?, hconfigured⟩ := exists_configured_of_made hmade
    obtain ⟨edition, hheld⟩ := h.mp hconfigured
    rw [hheld]
    rfl
  · intro hheld
    obtain ⟨⟨edition, table, locale, fallback?⟩, hheld⟩ := Option.isSome_iff_exists.mp hheld
    exact made_of_configured (h.mpr ⟨edition, hheld⟩)

theorem configured_iff :
    Configured history name table locale fallback? ↔
      ∃ edition, (after history).held? name = some ⟨edition, table, locale, fallback?⟩ := by
  induction history using List.reverseRecOn generalizing name table locale fallback? with
  | nil =>
    constructor
    · intro h
      exact absurd (made_of_configured h) not_made_nil
    · nofun
  | append_singleton history request ih =>
    -- Only a request that is about this selector changes what it answers from.
    by_cases htarget : request.target? = some name
    case neg => rw [configured_snoc_of_target?_ne htarget, held?_after_of_target?_ne htarget, ih]
    case pos =>
      cases request with
      | selection => cases htarget
      | step step =>
        cases step with
        | build => cases htarget
        | select other locale? given? =>
          cases htarget
          rw [configured_select_iff, after_select, held?_hold, table_after]
          constructor
          · rintro ⟨rfl, rfl, rfl⟩
            exact ⟨_, rfl⟩
          · rintro ⟨edition, h⟩
            cases h
            exact ⟨rfl, rfl, rfl⟩
        | clone other source =>
          cases htarget
          rw [configured_clone_iff, after_clone, ih, ih, made_iff_of_configured_iff ih]
          cases (after history).held? source <;> simp
        | setLocale other given =>
          cases htarget
          simp only [configured_setLocale_iff, after_setLocale, ih]
          cases hheld : (after history).held? name with
          | none => simp [hheld]
          | some held =>
            rw [held?_hold]
            constructor
            · rintro ⟨rfl, old, edition, h⟩
              cases h
              exact ⟨_, rfl⟩
            · rintro ⟨_, h⟩
              cases h
              exact ⟨rfl, _, held.edition, rfl⟩

end

theorem made_iff : Made history name ↔ ((after history).held? name).isSome = true :=
  made_iff_of_configured_iff configured_iff

theorem held?_after_append {more : List Request}
    (h : ∀ request ∈ more, request.target? ≠ some name) :
    (after (history ++ more)).held? name = (after history).held? name := by
  induction more using List.reverseRecOn with
  | nil => rw [List.append_nil]
  | append_singleton more request ih =>
    rw [List.forall_mem_append, List.forall_mem_singleton] at h
    rw [← List.append_assoc, held?_after_of_target?_ne h.2, ih h.1]

theorem reply?_eq_some_iff {number : Numeral} {answer : Except SelectionError Category} :
    (after history).reply? name number = some answer ↔
      ∃ table locale fallback?, Configured history name table locale fallback? ∧
        table.AnswersNumeral locale fallback? number answer := by
  simp only [reply?, Option.map_eq_some_iff, Selector.categoryForNumeral_eq_iff, configured_iff]
  constructor
  · rintro ⟨held, hheld, hanswer⟩
    exact ⟨_, _, _, ⟨held.edition, hheld⟩, hanswer⟩
  · rintro ⟨table, locale, fallback?, ⟨edition, hheld⟩, hanswer⟩
    exact ⟨_, hheld, hanswer⟩

end

/-- A selection is answered from the table that its selector was made with, or its clone's source
was, in the locale last set on it since, whatever else the session is asked for. -/
theorem selection_keeps_to_own_history (history : List Request) (name : String)
    (number : Numeral) :
    (∀ answer, (after history).reply? name number = some answer ↔
      ∃ table locale fallback?, Configured history name table locale fallback? ∧
        table.AnswersNumeral locale fallback? number answer) ∧
      ((after history).reply? name number = none ↔ ¬Made history name) ∧
      ∀ more, (∀ request ∈ more, Request.target? request ≠ some name) →
        (after (history ++ more)).reply? name number = (after history).reply? name number := by
  refine ⟨fun answer => reply?_eq_some_iff, ?_, fun more hmore => ?_⟩
  · rw [made_iff, reply?, Option.map_eq_none_iff, Option.not_isSome_iff_eq_none]
  · rw [reply?, held?_after_append hmore, reply?]

theorem selection_keeps_to_own_history_replaced :
    let first : TableSource := .declared [⟨["en", "io"], [("one", "i = 1 and v = 0")]⟩]
    let second : TableSource := .declared [⟨["en"], [("two", "i = 1")]⟩]
    let history : List Request := [.step (.build first), .step (.select "a" (some "xx") none),
      .step (.setLocale "a" "en")]
    let more : List Request := [.step (.build second), .step (.clone "b" "a"),
      .step (.setLocale "b" "io"), .step (.build (.declared [⟨[], []⟩])),
      .step (.select "c" (some "en") none), .selection "c" (.literal "1"),
      .step (.setLocale "c" "xx")]
    (after (history ++ more)).reply? "a" (.literal "1") = some (.ok .one) := by
  intro first second history more
  have hmore : ∀ request ∈ more, request.target? ≠ some "a" := by decide
  have hreply : (after history).reply? "a" (.literal "1") = some (.ok .one) := by decide +kernel
  rw [(selection_keeps_to_own_history history "a" (.literal "1")).2.2 more hmore, hreply]

end PluralRules.Session
