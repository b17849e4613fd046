import Mathlib.Data.List.Forall2
import PluralRules.Json.Shape
import PluralRules.Proofs.Json.Layout
import PluralRules.Proofs.Json.Strings

/-!
Reading what is written. Readers of lists and of values with two fields read all texts of such a
value if the readers of its parts do. All readers skip spaces first, so what a reader leaves is
given but for the spaces at its front.
-/

namespace PluralRules.Json

open JsonValue (escapeChar stringText)

variable {α β : Type}

theorem skipSpaces_append {gap : List Char} (h : IsGap gap) (text : List Char) :
    skipSpaces (gap ++ text) = skipSpaces text :=
  List.dropWhile_append_of_pos h

theorem skipSpaces_cons {c : Char} (h : isSpace c = false) (text : List Char) :
    skipSpaces (c :: text) = c :: text :=
  List.dropWhile_cons_of_neg (by simp [h])

theorem takes_skipping {reader : Reader Fault Char α} {input rest : List Char} {a : α}
    (h : Takes reader (skipSpaces input) a rest) : Takes (skipping reader) input a rest := by
  obtain ⟨shorter, h⟩ := takes_iff.mp h
  rw [takes_iff, skipping, h]
  exact ⟨_, rfl⟩

def Opens (text : List Char) : Prop :=
  ∃ c tail, text = c :: tail ∧ (c = '"' ∨ c = '[' ∨ c = '\x7b')

theorem opens_stringText (s : String) : Opens (stringText s) :=
  ⟨'"', _, rfl, .inl rfl⟩

theorem Opens.append {text : List Char} (h : Opens text) (more : List Char) :
    Opens (text ++ more) := by
  obtain ⟨c, tail, rfl, hc⟩ := h
  exact ⟨c, tail ++ more, rfl, hc⟩

theorem Opens.skipSpaces_append {gap text : List Char} (h : Opens text) (hgap : IsGap gap) :
    skipSpaces (gap ++ text) = text := by
  obtain ⟨c, tail, rfl, hc⟩ := h
  have hspace : isSpace c = false := by
    rcases hc with rfl | rfl | rfl <;> rfl
  rw [Json.skipSpaces_append hgap, skipSpaces_cons hspace]

def Closes (c : Char) : Prop :=
  c = ']' ∨ c = '\x7d'

theorem closes_bracket : Closes ']' :=
  .inl rfl

theorem closes_brace : Closes '\x7d' :=
  .inr rfl

theorem Closes.skipSpaces_append {closer : Char} (h : Closes closer) {gap : List Char}
    (hgap : IsGap gap) (after : List Char) :
    skipSpaces (gap ++ closer :: after) = closer :: after := by
  have hspace : isSpace closer = false := by
    rcases h with rfl | rfl <;> rfl
  rw [Json.skipSpaces_append hgap, skipSpaces_cons hspace]

theorem Opens.exists_ne {text : List Char} (h : Opens text) {closer : Char}
    (hcloser : Closes closer) : ∃ c tail, text = c :: tail ∧ c ≠ closer := by
  obtain ⟨c, tail, rfl, hc⟩ := h
  refine ⟨c, tail, rfl, ?_⟩
  rcases hc with rfl | rfl | rfl <;> rcases hcloser with rfl | rfl <;> decide

theorem takes_colon {input after : List Char} (hinput : skipSpaces input = ':' :: after) :
    Takes colon input () after := by
  apply takes_skipping
  rw [hinput]
  exact ⟨_, rfl, rfl, rfl⟩

theorem takes_another_closer {closer : Char} {input after : List Char}
    (hinput : skipSpaces input = closer :: after) : Takes (another closer) input false after := by
  apply takes_skipping
  rw [hinput, takes_iff]
  exact ⟨_, if_pos rfl⟩

theorem takes_another_comma {closer : Char} (hcloser : Closes closer) {input gap text : List Char}
    (hinput : skipSpaces input = ',' :: (gap ++ text)) (hgap : IsGap gap) (htext : Opens text) :
    Takes (another closer) input true (gap ++ text) := by
  have hcomma : ',' ≠ closer := by
    rcases hcloser with rfl | rfl <;> decide
  obtain ⟨c, tail, hc, hne⟩ := htext.exists_ne hcloser
  have hnext : skipSpaces (gap ++ text) = c :: tail := (htext.skipSpaces_append hgap).trans hc
  apply takes_skipping
  rw [hinput]
  simp only [Takes, if_neg hcomma, if_true, hnext, if_neg hne]
  exact ⟨_, rfl, rfl, rfl⟩

section

variable {closer : Char} {empty : List Char → Except Fault α} {content : Reader Fault Char α}
  {input after : List Char} {a : α}

theorem takes_emptyOr_empty (hinput : skipSpaces input = closer :: after)
    (h : empty after = .ok a) : Takes (emptyOr closer empty content) input a after := by
  apply takes_skipping
  rw [hinput]
  simp only [Takes, if_true, h]
  exact ⟨_, rfl, rfl, rfl⟩

theorem takes_emptyOr_content {text : List Char} (hcloser : Closes closer) (htext : Opens text)
    (hinput : skipSpaces input = text) (h : Takes content text a after) :
    Takes (emptyOr closer empty content) input a after := by
  obtain ⟨c, tail, rfl, hne⟩ := htext.exists_ne hcloser
  apply takes_skipping
  rw [hinput]
  simpa only [Takes, if_neg hne] using h

end

/-- The reader takes the text as the value. -/
structure Reads (reader : Reader Fault Char α) (text : List Char) (a : α) : Prop where
  opens : Opens text
  takes : ∀ {input after : List Char}, skipSpaces input = text ++ after →
    ∃ rest, Takes reader input a rest ∧ skipSpaces rest = skipSpaces after

theorem Reads.takes_gap {reader : Reader Fault Char α} {gap text : List Char} {a : α}
    (h : Reads reader text a) (hgap : IsGap gap) (after : List Char) :
    ∃ rest, Takes reader (gap ++ (text ++ after)) a rest ∧ skipSpaces rest = skipSpaces after :=
  h.takes ((h.opens.append after).skipSpaces_append hgap)

theorem Reads.map {outer : Reader Fault Char β} {reader : Reader Fault Char α} {text : List Char}
    {a : α} (f : α → β) (h : Reads reader text a)
    (houter : ∀ input, outer input = reader input >>= fun parsed => .ok (parsed.map f)) :
    Reads outer text (f a) := by
  refine ⟨h.opens, fun {input after} hinput => ?_⟩
  obtain ⟨rest, htakes, hrest⟩ := h.takes hinput
  exact ⟨rest, htakes.map f (houter input), hrest⟩

def ReadsBack (reader : Reader Fault Char α) (write : α → JsonValue) : Prop :=
  ∀ a text, Written (write a) text → Reads reader text a

theorem stringText_append (s : String) (after : List Char) :
    stringText s ++ after = '"' :: (s.toList.flatMap escapeChar ++ '"' :: after) := by
  simp only [stringText, List.cons_append, List.append_assoc, List.nil_append]

theorem readsBack_string : ReadsBack string .string := by
  intro s text h
  cases h
  refine ⟨opens_stringText s, fun {input after} hinput => ⟨after, ?_, rfl⟩⟩
  apply takes_skipping
  rw [hinput, stringText_append]
  exact (takes_stringRest s after).behind rfl

theorem takes_quotedName {s : String} {input after : List Char}
    (hinput : skipSpaces input = stringText s ++ after) :
    Takes (quotedName stringRest) input s after := by
  apply takes_skipping
  rw [hinput, stringText_append]
  exact (takes_stringRest s after).behind rfl

theorem exists_intercalate_eq_append (sep text : List Char) (texts : List (List Char)) :
    ∃ more, sep.intercalate (text :: texts) = text ++ more := by
  cases texts with
  | nil => exact ⟨[], by rw [List.intercalate_singleton, List.append_nil]⟩
  | cons next texts => exact ⟨_, by rw [List.intercalate_cons_cons, List.append_assoc]⟩

theorem Opens.intercalate {text : List Char} (h : Opens text) (sep : List Char)
    (texts : List (List Char)) (after : List Char) :
    Opens (sep.intercalate (text :: texts) ++ after) := by
  obtain ⟨more, hmore⟩ := exists_intercalate_eq_append sep text texts
  rw [hmore, List.append_assoc]
  exact h.append _

section

variable {item : Reader Fault Char α}

theorem takes_elements_last {input middle rest : List Char} {a : α}
    (hitem : Takes item input a middle) (hclosed : Takes (another ']') middle false rest) :
    Takes (elements item) input [a] rest := by
  obtain ⟨_, hitem⟩ := takes_iff.mp hitem
  obtain ⟨_, hclosed⟩ := takes_iff.mp hclosed
  rw [Takes, elements, hitem]
  simp only [bind, Except.bind, hclosed]
  exact ⟨_, rfl, rfl, rfl⟩

theorem takes_elements_cons {input middle next rest : List Char} {a : α} {others : List α}
    (hitem : Takes item input a middle) (hcomma : Takes (another ']') middle true next)
    (hothers : Takes (elements item) next others rest) :
    Takes (elements item) input (a :: others) rest := by
  obtain ⟨_, hitem⟩ := takes_iff.mp hitem
  obtain ⟨_, hcomma⟩ := takes_iff.mp hcomma
  obtain ⟨_, hothers⟩ := takes_iff.mp hothers
  rw [Takes, elements, hitem]
  simp only [bind, Except.bind, hcomma, if_true, hothers]
  exact ⟨_, rfl, rfl, rfl⟩

variable {inner outer : List Char}

theorem takes_elements (hinner : IsGap inner) (houter : IsGap outer) {text : List Char}
    {texts : List (List Char)} {a : α} {values : List α} (hitem : Reads item text a)
    (hothers : List.Forall₂ (Reads item) texts values) {input : List Char} (after : List Char)
    (hinput : skipSpaces input =
      (',' :: inner).intercalate (text :: texts) ++ (outer ++ ']' :: after)) :
    Takes (elements item) input (a :: values) after := by
  induction hothers generalizing text a input with
  | nil =>
    rw [List.intercalate_singleton] at hinput
    obtain ⟨middle, hfirst, hmiddle⟩ := hitem.takes hinput
    rw [closes_bracket.skipSpaces_append houter] at hmiddle
    exact takes_elements_last hfirst (takes_another_closer hmiddle)
  | @cons next b texts values hnext _ ih =>
    rw [List.intercalate_cons_cons, List.append_assoc, List.append_assoc] at hinput
    obtain ⟨middle, hfirst, hmiddle⟩ := hitem.takes hinput
    rw [List.cons_append, skipSpaces_cons (by decide)] at hmiddle
    have hopens := hnext.opens.intercalate (',' :: inner) texts (outer ++ ']' :: after)
    have hcomma := takes_another_comma closes_bracket hmiddle hinner hopens
    exact takes_elements_cons hfirst hcomma (ih hnext (hopens.skipSpaces_append hinner))

theorem Reads.listOf (hinner : IsGap inner) (houter : IsGap outer) {texts : List (List Char)}
    {values : List α} (h : List.Forall₂ (Reads item) texts values) :
    Reads (listOf item) (enclosed '[' ']' inner outer texts) values := by
  refine ⟨⟨'[', _, rfl, .inr (.inl rfl)⟩, fun {input after} hinput => ⟨after, ?_, rfl⟩⟩
  apply takes_skipping
  rw [hinput]
  simp only [enclosed, List.cons_append, List.append_assoc, List.nil_append]
  cases h with
  | nil =>
    have hgap : IsGap (inner ++ outer) := List.forall_mem_append.mpr ⟨hinner, houter⟩
    have hempty : skipSpaces (inner ++ (outer ++ ']' :: after)) = ']' :: after := by
      rw [← List.append_assoc, closes_bracket.skipSpaces_append hgap]
    have hread : Takes (emptyOr ']' (fun _ => .ok []) (elements item))
        (inner ++ (outer ++ ']' :: after)) [] after := takes_emptyOr_empty hempty rfl
    exact hread.behind rfl
  | @cons text a texts values hitem hothers =>
    have hopens := hitem.opens.intercalate (',' :: inner) texts (outer ++ ']' :: after)
    have hskip := hopens.skipSpaces_append hinner
    have hself := hopens.skipSpaces_append isGap_nil
    have helements := takes_elements hinner houter hitem hothers after hself
    exact (takes_emptyOr_content closes_bracket hopens hskip helements).behind rfl

theorem reads_listOf {γ : Type} {write : γ → JsonValue} {value : γ → α}
    (h : ∀ c text, Written (write c) text → Reads item text (value c)) {values : List γ}
    {text : List Char} (hwritten : Written (.array (values.map write)) text) :
    Reads (listOf item) text (values.map value) := by
  have hitems {values : List γ} {texts : List (List Char)}
      (hwritten : WrittenItems (values.map write) texts) :
      List.Forall₂ (Reads item) texts (values.map value) := by
    induction values generalizing texts with
    | nil =>
      cases hwritten
      exact .nil
    | cons c values ih =>
      cases hwritten with
      | cons hvalue hwritten => exact .cons (h c _ hvalue) (ih hwritten)
  cases hwritten with
  | array hwritten hinner houter => exact Reads.listOf hinner houter (hitems hwritten)

theorem ReadsBack.listOf {write : α → JsonValue} (h : ReadsBack item write) :
    ReadsBack (listOf item) fun values => .array (values.map write) := by
  intro values text hwritten
  rw [← List.map_id values]
  exact reads_listOf h hwritten

end

end PluralRules.Json
