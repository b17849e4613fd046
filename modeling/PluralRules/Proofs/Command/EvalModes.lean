import PluralRules.Command.Run
import PluralRules.Proofs.Selector

/-!
The two output modes of `eval`. Both report what the selector answers for each number, in order, and
end with the same exit code; only as text does a locale without rules leave the answers unprinted.
-/

namespace PluralRules

/-- The table lists the locale or the fallback. -/
def Selector.Known (selector : Selector) : Prop :=
  selector.locale ∈ selector.table.locales ∨
    ∃ fallback ∈ selector.fallback?, fallback ∈ selector.table.locales

namespace RuleTable.Answers

variable {table : RuleTable} {locale : String} {fallback? : Option String} {x y : Operand}

theorem error_eq {unknown other : UnknownLocale}
    (h : table.Answers locale fallback? x (.error unknown))
    (hother : table.Answers locale fallback? y (.error other)) : other = unknown := by
  cases h with
  | unknownLocale _ hnone =>
    cases hother with
    | unknownLocale => rfl
    | unknownFallback _ hfallback => rw [hnone] at hfallback; cases hfallback
  | unknownFallback _ hfallback =>
    cases hother with
    | unknownLocale _ hnone => rw [hnone] at hfallback; cases hfallback
    | unknownFallback _ hagain =>
      rw [hfallback] at hagain
      cases hagain
      rfl

theorem known_of_ok {category : Category} (h : table.Answers locale fallback? x (.ok category)) :
    Selector.Known ⟨table, locale, fallback?⟩ := by
  cases h with
  | inLocale h => exact .inl (mem_locales_iff.mpr ⟨_, h⟩)
  | inFallback _ hfallback h => exact .inr ⟨_, hfallback, mem_locales_iff.mpr ⟨_, h⟩⟩

theorem not_known_of_error {unknown : UnknownLocale}
    (h : table.Answers locale fallback? x (.error unknown)) :
    ¬Selector.Known ⟨table, locale, fallback?⟩ := by
  cases h with
  | unknownLocale hlocale hnone =>
    rintro (hknown | ⟨fallback, hfallback, -⟩)
    · exact hlocale hknown
    · rw [hnone] at hfallback
      cases hfallback
  | unknownFallback hlocale hsome hunknown =>
    rintro (hknown | ⟨fallback, hfallback, hknown⟩)
    · exact hlocale hknown
    · rw [hsome] at hfallback
      cases hfallback
      exact hunknown hknown

end RuleTable.Answers

namespace Selector

variable {selector : Selector} {number : String}

theorem answers_text (selector : Selector) (number : String) :
    selector.table.AnswersNumeral selector.locale selector.fallback? (.literal number)
      (selector.categoryForText number) :=
  categoryForNumeral_eq_iff.mp rfl

theorem exists_categoryForText_iff :
    (∃ category, selector.categoryForText number = .ok category) ↔
      (∃ x, Operand.ofLiteral number = .ok x) ∧ selector.Known := by
  have hanswers := selector.answers_text number
  constructor
  · rintro ⟨category, hcategory⟩
    rw [hcategory] at hanswers
    cases hanswers with
    | category hx h => exact ⟨⟨_, hx⟩, h.known_of_ok⟩
  · rintro ⟨⟨x, hx⟩, hknown⟩
    generalize selector.categoryForText number = result at hanswers
    cases hanswers with
    | invalid hinvalid =>
      rw [show Operand.ofLiteral number = _ from hinvalid] at hx
      cases hx
    | category => exact ⟨_, rfl⟩
    | unknown _ h => exact absurd hknown h.not_known_of_error

theorem unknown_eq {other : String} {a b : UnknownLocale}
    (ha : selector.categoryForText number = .error (.unknownLocale a))
    (hb : selector.categoryForText other = .error (.unknownLocale b)) : b = a := by
  have hanswers := selector.answers_text number
  have hothers := selector.answers_text other
  rw [ha] at hanswers
  rw [hb] at hothers
  cases hanswers with
  | unknown _ h =>
    cases hothers with
    | unknown _ h' => exact h.error_eq h'

end Selector

def JsonValue.field? (name : String) : JsonValue → Option JsonValue
  | object fields => fields.lookup name
  | _ => none

/-- The entry of a number has its category or the text of its error, and never both. -/
inductive ReportsAnswer (number : String) (entry : JsonValue) :
    Except SelectionError Category → Prop
  | category {category : Category} : entry.field? "number" = some (.string number) →
    entry.field? "category" = some (.string category.name) → entry.field? "error" = none →
    ReportsAnswer number entry (.ok category)
  | error {error : SelectionError} : entry.field? "number" = some (.string number) →
    entry.field? "category" = none → entry.field? "error" = some (.string error.message) →
    ReportsAnswer number entry (.error error)

namespace Selector

def categoryLine? (selector : Selector) (operands : Bool) (number : String) : Option String :=
  match Operand.ofLiteral number, selector.categoryForText number with
  | .ok x, .ok category =>
    some (number ++ "\t" ++ category.name ++ (if operands then "\t" ++ x.text else "") ++ "\n")
  | _, _ => none

def errorLine? (selector : Selector) (number : String) : Option String :=
  match selector.categoryForText number with
  | .ok _ => none
  | .error error => some (number ++ "\terror: " ++ error.message ++ "\n")

end Selector

namespace Command

inductive Finds (selector : Selector) (number : String) :
    Except SelectionError (Operand × Category) → Prop
  | category {x : Operand} {category : Category} : Operand.ofLiteral number = .ok x →
    selector.categoryForText number = .ok category → Finds selector number (.ok (x, category))
  | error {error : SelectionError} : selector.categoryForText number = .error error →
    Finds selector number (.error error)

theorem exists_evalNumber_eq (selector : Selector) (number : String) :
    ∃ found, evalNumber selector number = ⟨number, found⟩ ∧ Finds selector number found := by
  have htext : selector.categoryForText number =
      (Operand.ofLiteral number).mapError .invalidNumber >>= fun x =>
        (selector.categoryFor x).mapError .unknownLocale := rfl
  refine ⟨_, rfl, ?_⟩
  cases hx : Operand.ofLiteral number with
  | error error =>
    rw [hx] at htext
    exact .error htext
  | ok x =>
    simp only [hx, Except.mapError, bind, Except.bind] at htext ⊢
    cases hcategory : selector.categoryFor x with
    | ok category =>
      rw [hcategory] at htext
      exact .category hx htext
    | error unknown =>
      rw [hcategory] at htext
      exact .error htext

def jsonEntry (selector : Selector) (number : String) : JsonValue :=
  (evalNumber selector number).toJson

section

variable (selector : Selector) (number : String)

theorem reportsAnswer_jsonEntry :
    ReportsAnswer number (jsonEntry selector number) (selector.categoryForText number) := by
  obtain ⟨found, heval, hfinds⟩ := exists_evalNumber_eq selector number
  rw [jsonEntry, heval]
  cases hfinds with
  | category _ h =>
    rw [h]
    exact .category rfl rfl rfl
  | error h =>
    rw [h]
    exact .error rfl rfl rfl

theorem line_evalNumber (operands : Bool) :
    (evalNumber selector number).line operands =
      (selector.categoryLine? operands number).getD "" := by
  obtain ⟨found, heval, hfinds⟩ := exists_evalNumber_eq selector number
  rw [heval, Selector.categoryLine?]
  cases hfinds with
  | category hx h =>
    rw [hx, h]
    rfl
  | error h =>
    rw [h]
    cases Operand.ofLiteral number <;> rfl

theorem errorLine?_evalNumber :
    (evalNumber selector number).errorLine?.map (· ++ "\n") = selector.errorLine? number := by
  obtain ⟨found, heval, hfinds⟩ := exists_evalNumber_eq selector number
  rw [heval, Selector.errorLine?]
  cases hfinds with
  | category _ h =>
    rw [h]
    rfl
  | error h =>
    rw [h]
    rfl

theorem unknownLocale?_evalNumber {unknown : UnknownLocale} :
    (evalNumber selector number).unknownLocale? = some unknown ↔
      selector.categoryForText number = .error (.unknownLocale unknown) := by
  obtain ⟨found, heval, hfinds⟩ := exists_evalNumber_eq selector number
  rw [heval]
  cases hfinds with
  | category _ h => simp [h, EvalResult.unknownLocale?]
  | @error error h => cases error <;> simp [h, EvalResult.unknownLocale?]

theorem isOk_evalNumber :
    (evalNumber selector number).isOk = true ↔
      ∃ category, selector.categoryForText number = .ok category := by
  obtain ⟨found, heval, hfinds⟩ := exists_evalNumber_eq selector number
  rw [heval]
  cases hfinds with
  | category _ h => exact ⟨fun _ => ⟨_, h⟩, fun _ => rfl⟩
  | error h => simp [h, EvalResult.isOk, Except.isOk, Except.toBool]

end

theorem join_map_eq_join_filterMap {α : Type} {f : α → String} {g : α → Option String}
    (h : ∀ a, f a = (g a).getD "") (as : List α) :
    String.join (as.map f) = String.join (as.filterMap g) := by
  induction as with
  | nil => rfl
  | cons a as ih =>
    rw [List.map_cons, List.filterMap_cons, String.join_cons, ih, h a]
    cases g a with
    | none => exact String.empty_append
    | some text => exact String.join_cons.symm

section

variable {selector : Selector} {numbers : List String} {log : List BuildEvent}

theorem findSome?_unknownLocale?_eq_none_iff :
    (numbers.map (evalNumber selector)).findSome? EvalResult.unknownLocale? = none ↔
      ∀ number ∈ numbers, ∀ unknown,
        selector.categoryForText number ≠ .error (.unknownLocale unknown) := by
  rw [List.findSome?_eq_none_iff, List.forall_mem_map]
  refine forall₂_congr fun number _ => ?_
  rw [Option.eq_none_iff_forall_ne_some]
  exact forall_congr' fun unknown => not_congr (unknownLocale?_evalNumber selector number)

theorem exists_of_findSome?_unknownLocale? {unknown : UnknownLocale}
    (h : (numbers.map (evalNumber selector)).findSome? EvalResult.unknownLocale? = some unknown) :
    ∃ number ∈ numbers, selector.categoryForText number = .error (.unknownLocale unknown) := by
  obtain ⟨result, hresult, hunknown⟩ := List.exists_of_findSome?_eq_some h
  obtain ⟨number, hnumber, rfl⟩ := List.mem_map.mp hresult
  exact ⟨number, hnumber, (unknownLocale?_evalNumber selector number).mp hunknown⟩

theorem ending_evalOutcome_iff {operands : Bool} {report : Report} :
    (evalOutcome (numbers.map (evalNumber selector)) operands false log).ending = .failed report ↔
      ∃ number ∈ numbers, ∃ unknown,
        selector.categoryForText number = .error (.unknownLocale unknown) ∧
          report = .plain unknown.message := by
  simp only [evalOutcome, Bool.false_eq_true, if_false]
  cases hfound : (numbers.map (evalNumber selector)).findSome? EvalResult.unknownLocale? with
  | none =>
    have hnone := findSome?_unknownLocale?_eq_none_iff.mp hfound
    constructor
    · nofun
    · rintro ⟨number, hnumber, unknown, hunknown, -⟩
      exact absurd hunknown (hnone number hnumber unknown)
  | some unknown =>
    obtain ⟨number, hnumber, hunknown⟩ := exists_of_findSome?_unknownLocale? hfound
    constructor
    · intro h
      cases h
      exact ⟨number, hnumber, unknown, hunknown, rfl⟩
    · rintro ⟨other, -, another, hother, rfl⟩
      rw [Selector.unknown_eq hunknown hother]

theorem all_isOk_iff (hne : numbers ≠ []) :
    (numbers.map (evalNumber selector)).all EvalResult.isOk = true ↔
      (∀ number ∈ numbers, ∃ x, Operand.ofLiteral number = .ok x) ∧ selector.Known := by
  rw [List.all_map, List.all_eq_true]
  simp only [Function.comp_apply, isOk_evalNumber, Selector.exists_categoryForText_iff]
  obtain ⟨first, hfirst⟩ := List.exists_mem_of_ne_nil numbers hne
  constructor
  · intro h
    exact ⟨fun number hnumber => (h number hnumber).1, (h first hfirst).2⟩
  · rintro ⟨hvalid, hknown⟩ number hnumber
    exact ⟨hvalid number hnumber, hknown⟩

theorem evalOutcome_json (operands : Bool) :
    evalOutcome (numbers.map (evalNumber selector)) operands true log =
      ⟨(JsonValue.array (numbers.map (jsonEntry selector))).indentedText ++ "\n",
        log.map Notice.event,
        .exit (if (numbers.map (evalNumber selector)).all EvalResult.isOk then success
          else dataFailure)⟩ := by
  simp only [evalOutcome, if_true, List.map_map]
  rfl

theorem evalOutcome_of_failed {operands : Bool} {report : Report}
    (h : (evalOutcome (numbers.map (evalNumber selector)) operands false log).ending =
      .failed report) :
    evalOutcome (numbers.map (evalNumber selector)) operands false log =
      ⟨"", log.map Notice.event, .failed report⟩ := by
  simp only [evalOutcome, Bool.false_eq_true, if_false] at h ⊢
  cases hfound : (numbers.map (evalNumber selector)).findSome? EvalResult.unknownLocale? with
  | none =>
    rw [hfound] at h
    cases h
  | some unknown =>
    rw [hfound] at h
    cases h
    rfl

theorem evalOutcome_of_not_failed {operands : Bool}
    (h : ∀ report, (evalOutcome (numbers.map (evalNumber selector)) operands false log).ending ≠
      .failed report) :
    evalOutcome (numbers.map (evalNumber selector)) operands false log =
      ⟨String.join (numbers.filterMap (selector.categoryLine? operands)),
        log.map Notice.event ++
          (numbers.filterMap fun number => (evalNumber selector number).errorLine?).map .line,
        (evalOutcome (numbers.map (evalNumber selector)) operands true log).ending⟩ := by
  simp only [evalOutcome, Bool.false_eq_true, if_false, if_true] at h ⊢
  cases hfound : (numbers.map (evalNumber selector)).findSome? EvalResult.unknownLocale? with
  | some unknown =>
    rw [hfound] at h
    exact absurd rfl (h (.plain unknown.message))
  | none =>
    rw [List.map_map, List.filterMap_map,
      ← join_map_eq_join_filterMap fun number => line_evalNumber selector number operands]
    rfl

theorem written_errorLines (wording : Wording) (verbose : Bool) :
    wording.written verbose
        ((numbers.filterMap fun number => (evalNumber selector number).errorLine?).map .line) =
      String.join (numbers.filterMap selector.errorLine?) := by
  rw [Wording.written, List.map_map, List.map_filterMap]
  exact congrArg String.join (List.filterMap_congr fun number _ => errorLine?_evalNumber ..)

section

variable (wording : Wording) (verbose : Bool)

theorem written_append (notices more : List Notice) :
    wording.written verbose (notices ++ more) =
      wording.written verbose notices ++ wording.written verbose more := by
  rw [Wording.written, List.map_append, String.join_append]
  rfl

theorem written_singleton (notice : Notice) :
    wording.written verbose [notice] = wording.notice verbose notice := by
  rw [Wording.written, List.map_singleton, String.join_cons, String.join_nil, String.append_empty]

theorem exit_evalOutcome_json (operands : Bool) :
    (evalOutcome (numbers.map (evalNumber selector)) operands true log).exit wording verbose =
      ⟨(JsonValue.array (numbers.map (jsonEntry selector))).indentedText ++ "\n",
        wording.written verbose (log.map Notice.event),
        if (numbers.map (evalNumber selector)).all EvalResult.isOk then success
          else dataFailure⟩ := by
  rw [evalOutcome_json]
  rfl

theorem exit_evalOutcome_of_failed {operands : Bool} {report : Report}
    (h : (evalOutcome (numbers.map (evalNumber selector)) operands false log).ending =
      .failed report) :
    (evalOutcome (numbers.map (evalNumber selector)) operands false log).exit wording verbose =
      ⟨"", wording.written verbose (log.map Notice.event) ++ wording.report report,
        dataFailure⟩ := by
  rw [evalOutcome_of_failed h, Outcome.exit]
  simp only [Outcome.errors, Outcome.code, written_append, written_singleton]
  rfl

theorem exit_evalOutcome_of_not_failed {operands : Bool}
    (h : ∀ report, (evalOutcome (numbers.map (evalNumber selector)) operands false log).ending ≠
      .failed report) :
    (evalOutcome (numbers.map (evalNumber selector)) operands false log).exit wording verbose =
      ⟨String.join (numbers.filterMap (selector.categoryLine? operands)),
        wording.written verbose (log.map Notice.event) ++
          String.join (numbers.filterMap selector.errorLine?),
        (evalOutcome (numbers.map (evalNumber selector)) operands true log).code⟩ := by
  rw [evalOutcome_of_not_failed h, evalOutcome_json, Outcome.exit]
  simp only [Outcome.errors, Outcome.code, written_append, written_errorLines]

end

theorem code_evalOutcome (operands : Bool) :
    (evalOutcome (numbers.map (evalNumber selector)) operands false log).code =
      (evalOutcome (numbers.map (evalNumber selector)) operands true log).code := by
  -- What makes text output fail is an entry with an error in the JSON output.
  by_cases h : ∃ report,
      (evalOutcome (numbers.map (evalNumber selector)) operands false log).ending = .failed report
  · obtain ⟨report, hreport⟩ := h
    obtain ⟨number, hnumber, unknown, hunknown, -⟩ := ending_evalOutcome_iff.mp hreport
    have hnot : (numbers.map (evalNumber selector)).all EvalResult.isOk = false := by
      rw [List.all_eq_false]
      refine ⟨_, List.mem_map_of_mem hnumber, ?_⟩
      simp [isOk_evalNumber, hunknown]
    rw [evalOutcome_of_failed hreport, evalOutcome_json, hnot]
    rfl
  · rw [evalOutcome_of_not_failed (not_exists.mp h), evalOutcome_json]
    rfl

end

/-- JSON output has an entry for each number, with what the selector answers for it. Text output
fails without an answer printed if an entry's error is a locale without rules, and has else a line
for each number, on the channel for answers or that for errors. The exit code is the same. -/
theorem eval_modes_agree (wording : Wording) {files : Files} {rules? : Option String}
    {table : RuleTable} (hloaded : (loadTable wording files rules?).table = .ok table)
    (locale : String) (fallback? : Option String) {numbers : List String} (hne : numbers ≠ [])
    (operands : Bool) (color : Color) (verbose terminal : Bool) :
    let selector : Selector := ⟨table, locale, fallback?⟩
    let outcome (json : Bool) : Outcome :=
      Invocation.run wording terminal files
        ⟨.eval locale numbers rules? fallback? operands json, color, verbose⟩
    let exit (json : Bool) : Exit := (outcome json).exit wording verbose
    let log := wording.written verbose ((loadTable wording files rules?).log.map .event)
    ((exit true).stdout =
          (JsonValue.array (numbers.map (jsonEntry selector))).indentedText ++ "\n" ∧
        (exit true).stderr = log ∧
        ∀ number,
          ReportsAnswer number (jsonEntry selector number) (selector.categoryForText number)) ∧
      (∀ report, (outcome false).ending = .failed report ↔
        ∃ number ∈ numbers, ∃ unknown,
          selector.categoryForText number = .error (.unknownLocale unknown) ∧
            report = .plain unknown.message) ∧
      (∀ report, (outcome false).ending = .failed report →
        (exit false).stdout = "" ∧ (exit false).stderr = log ++ wording.report report) ∧
      ((∀ report, (outcome false).ending ≠ .failed report) →
        (exit false).stdout = String.join (numbers.filterMap (selector.categoryLine? operands)) ∧
          (exit false).stderr = log ++ String.join (numbers.filterMap selector.errorLine?)) ∧
      (exit false).code = (exit true).code ∧
      ((exit true).code = success ∨ (exit true).code = dataFailure) ∧
      ((exit true).code = success ↔
        (∀ number ∈ numbers, ∃ x, Operand.ofLiteral number = .ok x) ∧ selector.Known) := by
  intro selector outcome exit log
  have houtcome (json : Bool) : outcome json =
      evalOutcome (numbers.map (evalNumber selector)) operands json
        (loadTable wording files rules?).log := by
    simp only [outcome, Invocation.run, Action.run, eval, hloaded, selector]
  have hexit (json : Bool) : exit json =
      (evalOutcome (numbers.map (evalNumber selector)) operands json
        (loadTable wording files rules?).log).exit wording verbose := by
    rw [← houtcome]
  refine ⟨?json, fun report => ?fails, fun report h => ?failed, fun h => ?printed, ?same, ?_, ?_⟩
  case json =>
    rw [hexit, exit_evalOutcome_json]
    exact ⟨rfl, rfl, reportsAnswer_jsonEntry selector⟩
  case fails => rw [houtcome, ending_evalOutcome_iff]
  case failed =>
    rw [houtcome] at h
    rw [hexit, exit_evalOutcome_of_failed wording verbose h]
    exact ⟨rfl, rfl⟩
  case printed =>
    simp only [houtcome] at h
    rw [hexit, exit_evalOutcome_of_not_failed wording verbose h]
    exact ⟨rfl, rfl⟩
  case same =>
    rw [hexit, hexit]
    exact code_evalOutcome operands
  · rw [hexit, exit_evalOutcome_json]
    exact ite_eq_or_eq ..
  · rw [← all_isOk_iff hne, hexit, exit_evalOutcome_json]
    simp [success, dataFailure]

theorem eval_modes_agree_fallback :
    let files : Files := fun _ => .ok "[[[\"en\"],[[\"one\",\"n = 1\"]]]]"
    let wording : Wording :=
      ⟨fun _ => ⟨"expected value", ⟨1, 1⟩⟩, BuildEvent.message, Report.message, fun _ => ""⟩
    let exit (json : Bool) : Exit :=
      (Invocation.run wording false files
        ⟨.eval "de" ["x", "1"] (some "rules.json") (some "en") false json, .auto, false⟩).exit
          wording false
    (∃ table, (loadTable wording files (some "rules.json")).table = .ok table) ∧
      ["x", "1"] ≠ [] ∧
      (exit false).stdout = "1\tone\n" ∧ (exit false).code = dataFailure ∧
      (exit true).code = dataFailure := by
  intro files wording exit
  have hanswers : (loadTable wording files (some "rules.json")).table.map (fun table =>
      ["x", "1"].map (Selector.categoryForText ⟨table, "de", some "en"⟩)) =
      .ok [.error (.invalidNumber ⟨"x", .notDecimal⟩), .ok .one] := by
    decide +kernel
  have hx : Operand.ofLiteral "x" = .error ⟨"x", .notDecimal⟩ := by decide +kernel
  have hone : Operand.ofLiteral "1" = .ok (Operand.ofDigits ['1'] []) := by decide +kernel
  have hne : ["x", "1"] ≠ [] := by decide
  cases hloaded : (loadTable wording files (some "rules.json")).table with
  | error report =>
    rw [hloaded] at hanswers
    cases hanswers
  | ok table =>
    rw [hloaded] at hanswers
    simp only [Except.map, List.map_cons, List.map_nil, Except.ok.injEq, List.cons.injEq,
      and_true] at hanswers
    obtain ⟨-, hfails, -, hprinted, hsame, hcode, hsuccess⟩ :=
      eval_modes_agree wording hloaded "de" (some "en") hne false .auto false false
    have hdata : (exit true).code = dataFailure := by
      refine hcode.resolve_left fun h => ?_
      obtain ⟨y, hy⟩ := (hsuccess.mp h).1 "x" (by decide)
      rw [hx] at hy
      cases hy
    refine ⟨⟨table, rfl⟩, hne, (hprinted fun report h => ?_).1.trans ?_, hsame.trans hdata, hdata⟩
    · obtain ⟨number, hnumber, unknown, hunknown, -⟩ := (hfails report).mp h
      rcases List.mem_pair.mp hnumber with rfl | rfl
      · rw [hanswers.1] at hunknown
        cases hunknown
      · rw [hanswers.2] at hunknown
        cases hunknown
    · simp only [List.filterMap_cons, Selector.categoryLine?, hx, hone, hanswers.2]
      rfl

end Command

end PluralRules
