import Mathlib.Data.List.DropRight
import PluralRules.Proofs.Json.Readback

/-!
Reading objects that are written with two known fields, in either order, and perhaps others. What
stands in another field is passed over.
-/

namespace PluralRules.Json

open JsonValue (escapeChar stringText)

structure Passes (text : List Char) : Prop where
  opens : Opens text
  passes : ∀ frames after, passValue frames (text ++ after) = passEnded frames (skipSpaces after)

theorem passes_stringText (s : String) : Passes (stringText s) := by
  refine ⟨opens_stringText s, fun frames after => ?_⟩
  obtain ⟨_, hstring⟩ := takes_iff.mp (takes_passString s after)
  rw [stringText_append, passValue, passScalar, hstring]
  · rfl
  · exact fun _ h => absurd (List.head_eq_of_cons_eq h) (by decide)
  · exact fun _ h => absurd (List.head_eq_of_cons_eq h) (by decide)

section

variable {inner outer : List Char}

theorem passMember_array (hinner : IsGap inner) (houter : IsGap outer) (frames : List Frame)
    {text : List Char} {texts : List (List Char)} (htext : Passes text)
    (htexts : ∀ text ∈ texts, Passes text) (after : List Char) :
    passMember .array frames
        ((',' :: inner).intercalate (text :: texts) ++ (outer ++ ']' :: after)) =
      passEnded frames (skipSpaces after) := by
  have hcloser : ']' ≠ ',' := by decide
  induction texts generalizing text with
  | nil =>
    rw [List.intercalate_singleton, passMember, htext.passes,
      closes_bracket.skipSpaces_append houter, passEnded, if_neg hcloser]
    exact if_pos rfl
  | cons next texts ih =>
    obtain ⟨hnext, htexts⟩ := List.forall_mem_cons.mp htexts
    have hopens := hnext.opens.intercalate (',' :: inner) texts (outer ++ ']' :: after)
    rw [List.intercalate_cons_cons, List.append_assoc, List.append_assoc, passMember, htext.passes,
      List.cons_append, skipSpaces_cons (by decide), passEnded, if_pos rfl,
      hopens.skipSpaces_append hinner]
    exact ih hnext htexts

theorem Passes.array (hinner : IsGap inner) (houter : IsGap outer) {texts : List (List Char)}
    (h : ∀ text ∈ texts, Passes text) : Passes (enclosed '[' ']' inner outer texts) := by
  refine ⟨⟨'[', _, rfl, .inr (.inl rfl)⟩, fun frames after => ?_⟩
  simp only [enclosed, List.cons_append, List.append_assoc, List.nil_append]
  rw [passValue]
  cases texts with
  | nil =>
    have hgap : IsGap (inner ++ outer) := List.forall_mem_append.mpr ⟨hinner, houter⟩
    rw [List.intercalate_nil, List.nil_append, ← List.append_assoc,
      closes_bracket.skipSpaces_append hgap, passOpened]
    exact if_pos rfl
  | cons text texts =>
    obtain ⟨htext, htexts⟩ := List.forall_mem_cons.mp h
    have hopens := htext.opens.intercalate (',' :: inner) texts (outer ++ ']' :: after)
    obtain ⟨c, tail, hc, hne⟩ := hopens.exists_ne closes_bracket
    rw [hopens.skipSpaces_append hinner, ← passMember_array hinner houter frames htext htexts, hc,
      passOpened]
    exact if_neg hne

end

theorem Passes.reads {text : List Char} (h : Passes text) : Reads passed text () := by
  refine ⟨h.opens, fun {input after} hinput => ⟨skipSpaces after, ?_, List.dropWhile_idempotent ..⟩⟩
  have hpassed : passValue [] (text ++ after) = .ok (skipSpaces after) := by
    rw [h.passes, passEnded]
  apply takes_skipping
  rw [hinput, takes_iff]
  split
  case h_1 fault herror =>
    rw [hpassed] at herror
    cases herror
  case h_2 rest hrest =>
    have hskipped : rest = skipSpaces after := Except.ok.inj (hrest.symm.trans hpassed)
    subst hskipped
    exact ⟨length_lt_of_passValue hpassed, rfl⟩

theorem passes_of_written_strings {items : List String} {text : List Char}
    (h : Written (.array (items.map .string)) text) : Passes text := by
  have hitems {items : List String} {texts : List (List Char)}
      (hwritten : WrittenItems (items.map .string) texts) : ∀ text ∈ texts, Passes text := by
    induction items generalizing texts with
    | nil =>
      cases hwritten
      exact nofun
    | cons s items ih =>
      cases hwritten with
      | cons hvalue hwritten =>
        cases hvalue
        exact List.forall_mem_cons.mpr ⟨passes_stringText s, ih hwritten⟩
  cases h with
  | array hwritten hinner houter => exact Passes.array hinner houter (hitems hwritten)

section

variable {α β : Type} {shape : PairShape} {first : Reader Fault Char α}
  {second : Reader Fault Char β}

inductive Adds (shape : PairShape) (first : Reader Fault Char α) (second : Reader Fault Char β) :
    Option α × Option β → String × JsonValue → Option α × Option β → Prop
  | first {value : JsonValue} {a : α} {b? : Option β} :
    (∀ text, Written value text → Reads first text a) →
    Adds shape first second (none, b?) (shape.first, value) (some a, b?)
  | second {value : JsonValue} {a? : Option α} {b : β} : shape.second ≠ shape.first →
    (∀ text, Written value text → Reads second text b) →
    Adds shape first second (a?, none) (shape.second, value) (a?, some b)
  | other {key : String} {value : JsonValue} {known : Option α × Option β} : key ≠ shape.first →
    key ≠ shape.second → (∀ text, Written value text → Passes text) →
    Adds shape first second known (key, value) known

theorem Adds.reads {known extended : Option α × Option β} {key : String} {value : JsonValue}
    {gap text : List Char} (h : Adds shape first second known (key, value) extended)
    (hgap : IsGap gap) (hvalue : Written value text) :
    Reads (pairField shape first second known) (stringText key ++ ':' :: (gap ++ text))
      extended := by
  refine ⟨(opens_stringText key).append _, fun {input after} hinput => ?_⟩
  rw [List.append_assoc] at hinput
  obtain ⟨_, hname⟩ := takes_iff.mp (takes_quotedName hinput)
  have hcolon : skipSpaces (':' :: (gap ++ text) ++ after) = ':' :: (gap ++ (text ++ after)) := by
    rw [List.cons_append, List.append_assoc, skipSpaces_cons (by decide)]
  obtain ⟨_, hcolon⟩ := takes_iff.mp (takes_colon hcolon)
  cases h with
  | first hread =>
    obtain ⟨rest, htakes, hrest⟩ := (hread text hvalue).takes_gap hgap after
    obtain ⟨_, htakes⟩ := takes_iff.mp htakes
    refine ⟨rest, ?_, hrest⟩
    rw [Takes, pairField, hname]
    simp only [bind, Except.bind, if_true, Option.isSome_none, Bool.false_eq_true, if_false, hcolon,
      htakes]
    exact ⟨_, rfl, rfl, rfl⟩
  | second hne hread =>
    obtain ⟨rest, htakes, hrest⟩ := (hread text hvalue).takes_gap hgap after
    obtain ⟨_, htakes⟩ := takes_iff.mp htakes
    refine ⟨rest, ?_, hrest⟩
    rw [Takes, pairField, hname]
    simp only [bind, Except.bind, hne, if_true, Option.isSome_none, Bool.false_eq_true, if_false,
      hcolon, htakes]
    exact ⟨_, rfl, rfl, rfl⟩
  | other hne hne' hpasses =>
    obtain ⟨rest, htakes, hrest⟩ := (hpasses text hvalue).reads.takes_gap hgap after
    obtain ⟨_, htakes⟩ := takes_iff.mp htakes
    refine ⟨rest, ?_, hrest⟩
    rw [Takes, pairField, hname]
    simp only [bind, Except.bind, hne, hne', if_false, hcolon, htakes]
    exact ⟨_, rfl, rfl, rfl⟩

inductive AddsAll (shape : PairShape) (first : Reader Fault Char α)
    (second : Reader Fault Char β) :
    Option α × Option β → List (String × JsonValue) → Option α × Option β → Prop
  | nil {known : Option α × Option β} : AddsAll shape first second known [] known
  | cons {known next last : Option α × Option β} {field : String × JsonValue}
    {fields : List (String × JsonValue)} :
    Adds shape first second known field next → AddsAll shape first second next fields last →
    AddsAll shape first second known (field :: fields) last

theorem WrittenFields.ne_nil {field : String × JsonValue} {fields : List (String × JsonValue)}
    {texts : List (List Char)} (h : WrittenFields (field :: fields) texts) : texts ≠ [] := by
  cases h
  exact List.cons_ne_nil _ _

theorem WrittenFields.opens {field : String × JsonValue} {fields : List (String × JsonValue)}
    {texts : List (List Char)} (h : WrittenFields (field :: fields) texts) (sep after : List Char) :
    Opens (sep.intercalate texts ++ after) := by
  cases h with
  | cons => exact ((opens_stringText _).append _).intercalate sep _ after

theorem takes_pairFields_last {known : Option α × Option β} {input middle rest : List Char}
    {a : α} {b : β}
    (hfield : Takes (pairField shape first second known) input (some a, some b) middle)
    (hclosed : Takes (another '\x7d') middle false rest) :
    Takes (pairFields shape first second known) input (a, b) rest := by
  obtain ⟨_, hfield⟩ := takes_iff.mp hfield
  obtain ⟨_, hclosed⟩ := takes_iff.mp hclosed
  rw [Takes, pairFields, hfield]
  simp only [bind, Except.bind, hclosed]
  exact ⟨_, rfl, rfl, rfl⟩

theorem takes_pairFields_cons {known extended : Option α × Option β}
    {input middle next rest : List Char} {pair : α × β}
    (hfield : Takes (pairField shape first second known) input extended middle)
    (hcomma : Takes (another '\x7d') middle true next)
    (hothers : Takes (pairFields shape first second extended) next pair rest) :
    Takes (pairFields shape first second known) input pair rest := by
  obtain ⟨_, hfield⟩ := takes_iff.mp hfield
  obtain ⟨_, hcomma⟩ := takes_iff.mp hcomma
  obtain ⟨_, hothers⟩ := takes_iff.mp hothers
  rw [Takes, pairFields, hfield]
  simp only [bind, Except.bind, hcomma, if_true, hothers]
  exact ⟨_, rfl, rfl, rfl⟩

variable {inner outer : List Char}

theorem takes_pairFields (hinner : IsGap inner) (houter : IsGap outer)
    {field : String × JsonValue} {fields : List (String × JsonValue)} {texts : List (List Char)}
    {known : Option α × Option β} {a : α} {b : β}
    (h : AddsAll shape first second known (field :: fields) (some a, some b))
    (hwritten : WrittenFields (field :: fields) texts) {input : List Char} (after : List Char)
    (hinput : skipSpaces input =
      (',' :: inner).intercalate texts ++ (outer ++ '\x7d' :: after)) :
    Takes (pairFields shape first second known) input (a, b) after := by
  induction fields generalizing field texts known input with
  | nil =>
    obtain _ | ⟨hgap, hvalue, ⟨⟩⟩ := hwritten
    obtain _ | ⟨hfield, ⟨⟩⟩ := h
    rw [List.intercalate_singleton] at hinput
    obtain ⟨middle, hread, hmiddle⟩ := (hfield.reads hgap hvalue).takes hinput
    rw [closes_brace.skipSpaces_append houter] at hmiddle
    exact takes_pairFields_last hread (takes_another_closer hmiddle)
  | cons next fields ih =>
    obtain _ | ⟨hgap, hvalue, hwritten⟩ := hwritten
    obtain _ | ⟨hfield, h⟩ := h
    have hopens := hwritten.opens (',' :: inner) (outer ++ '\x7d' :: after)
    have hne := hwritten.ne_nil
    rw [List.intercalate_cons_of_ne_nil hne, List.append_assoc, List.append_assoc] at hinput
    obtain ⟨middle, hread, hmiddle⟩ := (hfield.reads hgap hvalue).takes hinput
    rw [List.cons_append, skipSpaces_cons (by decide)] at hmiddle
    have hcomma := takes_another_comma closes_brace hmiddle hinner hopens
    exact takes_pairFields_cons hread hcomma (ih h hwritten (hopens.skipSpaces_append hinner))

theorem reads_pairOf {fields : List (String × JsonValue)} {text : List Char} {a : α} {b : β}
    (h : AddsAll shape first second (none, none) fields (some a, some b))
    (hwritten : Written (.object fields) text) : Reads (pairOf shape first second) text (a, b) := by
  cases hwritten with
  | @object _ texts inner outer hwritten hinner houter =>
    refine ⟨⟨'\x7b', _, rfl, .inr (.inr rfl)⟩, fun {input after} hinput => ⟨after, ?_, rfl⟩⟩
    apply takes_skipping
    rw [hinput]
    simp only [enclosed, List.cons_append, List.append_assoc, List.nil_append]
    cases fields with
    | nil => cases h
    | cons field fields =>
      have hopens := hwritten.opens (',' :: inner) (outer ++ '\x7d' :: after)
      have hself := hopens.skipSpaces_append isGap_nil
      have hfields := takes_pairFields hinner houter h hwritten after hself
      have hskip := hopens.skipSpaces_append hinner
      exact (takes_emptyOr_content closes_brace hopens hskip hfields).behind rfl

end

end PluralRules.Json
