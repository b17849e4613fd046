import PluralRules.Number.Decimal

/-!
JSON values and their two written forms: without blanks, and with one line for each member,
indented by two blanks a level.
-/

namespace PluralRules

inductive JsonValue where
  | null
  | bool (b : Bool)
  | integer (k : Int)
  | double (x : Double)
  | string (s : String)
  | array (items : List JsonValue)
  | object (fields : List (String × JsonValue))

namespace JsonValue

def escapeChar (c : Char) : List Char :=
  match c with
  | '"' => ['\\', '"']
  | '\\' => ['\\', '\\']
  | '\x08' => ['\\', 'b']
  | '\t' => ['\\', 't']
  | '\n' => ['\\', 'n']
  | '\x0c' => ['\\', 'f']
  | '\r' => ['\\', 'r']
  | c =>
    if c.toNat < 32 then
      ['\\', 'u', '0', '0', Nat.digitChar (c.toNat / 16), Nat.digitChar (c.toNat % 16)]
    else [c]

def stringText (s : String) : List Char :=
  '"' :: s.toList.flatMap escapeChar ++ ['"']

mutual

def compact : JsonValue → List Char
  | null => "null".toList
  | bool true => "true".toList
  | bool false => "false".toList
  | integer k => (toString k).toList
  | double x => (x.text .json).toList
  | string s => stringText s
  | array items => '[' :: [','].intercalate (compactItems items) ++ [']']
  | object fields => '\x7b' :: [','].intercalate (compactFields fields) ++ ['\x7d']

def compactItems : List JsonValue → List (List Char)
  | [] => []
  | item :: items => item.compact :: compactItems items

def compactFields : List (String × JsonValue) → List (List Char)
  | [] => []
  | (key, value) :: fields =>
    (stringText key ++ ':' :: value.compact) :: compactFields fields

end

def newline (depth : Nat) : List Char :=
  '\n' :: List.replicate (2 * depth) ' '

mutual

def indented (depth : Nat) : JsonValue → List Char
  | array (item :: items) =>
    '[' :: newline (depth + 1)
      ++ (',' :: newline (depth + 1)).intercalate (indentedItems (depth + 1) (item :: items))
      ++ newline depth ++ [']']
  | object (field :: fields) =>
    '\x7b' :: newline (depth + 1)
      ++ (',' :: newline (depth + 1)).intercalate (indentedFields (depth + 1) (field :: fields))
      ++ newline depth ++ ['\x7d']
  | value => value.compact

def indentedItems (depth : Nat) : List JsonValue → List (List Char)
  | [] => []
  | item :: items => item.indented depth :: indentedItems depth items

def indentedFields (depth : Nat) : List (String × JsonValue) → List (List Char)
  | [] => []
  | (key, value) :: fields =>
    (stringText key ++ ':' :: ' ' :: value.indented depth) :: indentedFields depth fields

end

def text (value : JsonValue) : String :=
  String.ofList value.compact

def indentedText (value : JsonValue) : String :=
  String.ofList (value.indented 0)

end JsonValue

end PluralRules
