import Mathlib.Data.List.Basic
import PluralRules.Json.Reader
import PluralRules.Json.Value

/-!
The texts of a JSON value. They differ in the spaces around brackets, commas and values only, and
both written forms of a value are among them.
-/

namespace PluralRules.Json

open JsonValue (stringText newline)

def IsGap (text : List Char) : Prop :=
  ∀ c ∈ text, isSpace c = true

def enclosed (opener closer : Char) (inner outer : List Char) (texts : List (List Char)) :
    List Char :=
  opener :: (inner ++ ((',' :: inner).intercalate texts ++ (outer ++ [closer])))

mutual

inductive Written : JsonValue → List Char → Prop
  | null : Written .null "null".toList
  | bool (b : Bool) : Written (.bool b) (JsonValue.bool b).compact
  | integer (k : Int) : Written (.integer k) (JsonValue.integer k).compact
  | double (x : Double) : Written (.double x) (JsonValue.double x).compact
  | string (s : String) : Written (.string s) (stringText s)
  | array {items : List JsonValue} {texts : List (List Char)} {inner outer : List Char} :
    WrittenItems items texts → IsGap inner → IsGap outer →
    Written (.array items) (enclosed '[' ']' inner outer texts)
  | object {fields : List (String × JsonValue)} {texts : List (List Char)}
    {inner outer : List Char} :
    WrittenFields fields texts → IsGap inner → IsGap outer →
    Written (.object fields) (enclosed '\x7b' '\x7d' inner outer texts)

inductive WrittenItems : List JsonValue → List (List Char) → Prop
  | nil : WrittenItems [] []
  | cons {item : JsonValue} {items : List JsonValue} {text : List Char}
    {texts : List (List Char)} :
    Written item text → WrittenItems items texts → WrittenItems (item :: items) (text :: texts)

inductive WrittenFields : List (String × JsonValue) → List (List Char) → Prop
  | nil : WrittenFields [] []
  | cons {key : String} {value : JsonValue} {fields : List (String × JsonValue)}
    {gap text : List Char} {texts : List (List Char)} :
    IsGap gap → Written value text → WrittenFields fields texts →
    WrittenFields ((key, value) :: fields) ((stringText key ++ ':' :: (gap ++ text)) :: texts)

end

theorem isGap_nil : IsGap [] :=
  nofun

theorem isGap_blank : IsGap [' '] :=
  List.forall_mem_singleton.mpr rfl

theorem isGap_newline (depth : Nat) : IsGap (newline depth) := by
  intro c hc
  rcases List.mem_cons.mp hc with rfl | hc
  · rfl
  · rw [List.eq_of_mem_replicate hc]
    rfl

theorem enclosed_compact (opener closer : Char) (texts : List (List Char)) :
    enclosed opener closer [] [] texts = opener :: [','].intercalate texts ++ [closer] :=
  rfl

theorem enclosed_newline (opener closer : Char) (depth : Nat) (texts : List (List Char)) :
    enclosed opener closer (newline (depth + 1)) (newline depth) texts =
      opener :: newline (depth + 1) ++ (',' :: newline (depth + 1)).intercalate texts ++
        newline depth ++ [closer] := by
  simp only [enclosed, List.cons_append, List.append_assoc]

mutual

theorem written_compact : ∀ value : JsonValue, Written value value.compact
  | .null => .null
  | .bool b => .bool b
  | .integer k => .integer k
  | .double x => .double x
  | .string s => by
    rw [JsonValue.compact]
    exact .string s
  | .array items => by
    rw [JsonValue.compact, ← enclosed_compact]
    exact .array (writtenItems_compact items) isGap_nil isGap_nil
  | .object fields => by
    rw [JsonValue.compact, ← enclosed_compact]
    exact .object (writtenFields_compact fields) isGap_nil isGap_nil

theorem writtenItems_compact :
    ∀ items : List JsonValue, WrittenItems items (JsonValue.compactItems items)
  | [] => .nil
  | item :: items => .cons (written_compact item) (writtenItems_compact items)

theorem writtenFields_compact :
    ∀ fields : List (String × JsonValue), WrittenFields fields (JsonValue.compactFields fields)
  | [] => .nil
  | (_, value) :: fields =>
    .cons isGap_nil (written_compact value) (writtenFields_compact fields)

end

mutual

theorem written_indented (depth : Nat) : ∀ value : JsonValue, Written value (value.indented depth)
  | .null => .null
  | .bool b => .bool b
  | .integer k => .integer k
  | .double x => .double x
  | .string s => .string s
  | .array [] => .array .nil isGap_nil isGap_nil
  | .object [] => .object .nil isGap_nil isGap_nil
  | .array (item :: items) => by
    rw [JsonValue.indented, ← enclosed_newline]
    exact .array (writtenItems_indented (depth + 1) (item :: items)) (isGap_newline _)
      (isGap_newline _)
  | .object (field :: fields) => by
    rw [JsonValue.indented, ← enclosed_newline]
    exact .object (writtenFields_indented (depth + 1) (field :: fields)) (isGap_newline _)
      (isGap_newline _)

theorem writtenItems_indented (depth : Nat) :
    ∀ items : List JsonValue, WrittenItems items (JsonValue.indentedItems depth items)
  | [] => .nil
  | item :: items => .cons (written_indented depth item) (writtenItems_indented depth items)

theorem writtenFields_indented (depth : Nat) :
    ∀ fields : List (String × JsonValue),
      WrittenFields fields (JsonValue.indentedFields depth fields)
  | [] => .nil
  | (_, value) :: fields =>
    .cons isGap_blank (written_indented depth value) (writtenFields_indented depth fields)

end

end PluralRules.Json
