import PluralRules.Json.Passing

/-!
Readers for strings, for lists, and for values with two named fields, which may be written as an
object or as an array of the fields in order. Where another kind of value stands it is named in the
fault; fields of other names are passed over.
-/

namespace PluralRules.Json

def found : List Char → Except Fault (Found × List Char)
  | 'n' :: text => do return (.null, (← letters ['u', 'l', 'l'] text).val)
  | 't' :: text => do return (.bool true, (← letters ['r', 'u', 'e'] text).val)
  | 'f' :: text => do return (.bool false, (← letters ['a', 'l', 's', 'e'] text).val)
  | '"' :: text => do
    let s ← stringRest text
    return (.string s.value, s.rest)
  | '[' :: text => .ok (.sequence, '[' :: text)
  | '\x7b' :: text => .ok (.map, '\x7b' :: text)
  | c :: text =>
    if c = '-' ∨ c.isDigit then do
      let number ← numberText .endOfText (c :: text)
      match number.value.value? with
      | some value => return (.number value, number.rest)
      | none => .error .grammar
    else .error .grammar
  | [] => .error .endOfText

def wrongType (expected : String) (text : List Char) : Fault :=
  match found text with
  | .error fault => fault
  | .ok (value, unread) => .mismatch (.wrongType value expected) unread

def another (closer : Char) : Reader Fault Char Bool :=
  skipping fun
    | [] => .error .endOfText
    | c :: text =>
      if c = closer then .ok (.one false c text)
      else if c = ',' then
        match skipSpaces text with
        | [] => .error .endOfText
        | next :: _ => if next = closer then .error .grammar else .ok (.one true c text)
      else .error .grammar

def closing (closer : Char) : Reader Fault Char Unit :=
  skipping fun
    | [] => .error .endOfText
    | c :: text => if c = closer then .ok (.one () c text) else .error .grammar

def string : Reader Fault Char String :=
  skipping fun
    | [] => .error .endOfText
    | '"' :: text => do .ok ((← stringRest text).behind '"')
    | text => .error (wrongType "a string" text)

def elements {α : Type} (item : Reader Fault Char α) (text : List Char) :
    Except Fault (Parsed (List α) text) := do
  let first ← item text
  let more ← another ']' first.rest
  if more.value then
    let others ← elements item more.rest
    .ok (first.join (more.join others ()) (first.value :: others.value))
  else .ok (first.join more [first.value])
termination_by text.length
decreasing_by exact Nat.lt_trans more.shorter first.shorter

def emptyOr {α : Type} (closer : Char) (empty : List Char → Except Fault α)
    (content : Reader Fault Char α) : Reader Fault Char α :=
  skipping fun
    | [] => .error .endOfText
    | c :: text =>
      if c = closer then do .ok (.one (← empty text) c text) else content (c :: text)

def listOf {α : Type} (item : Reader Fault Char α) : Reader Fault Char (List α) :=
  skipping fun
    | [] => .error .endOfText
    | '[' :: text => do
      .ok ((← emptyOr ']' (fun _ => .ok []) (elements item) text).behind '[')
    | text => .error (wrongType "a sequence" text)

structure PairShape where
  expected : String
  first : String
  second : String

section

variable {α β : Type} (shape : PairShape) (first : Reader Fault Char α)
  (second : Reader Fault Char β)

def pairElements : Reader Fault Char (α × β) := fun text => do
  let a ← first text
  let more ← another ']' a.rest
  if more.value then
    let b ← second more.rest
    let last ← closing ']' b.rest
    .ok (a.join (more.join (b.join last ()) ()) (a.value, b.value))
  else .error (.mismatch (.tooShort 1 shape.expected) more.rest)

def duplicate (name : String) (text : List Char) : Fault :=
  match skipSpaces text with
  | '\x7d' :: rest => .mismatch (.duplicateField name) rest
  | rest => .mismatch (.duplicateField name) rest

def pairField (known : Option α × Option β) : Reader Fault Char (Option α × Option β) :=
  fun text => do
    let name ← quotedName stringRest text
    if name.value = shape.first then
      if known.1.isSome then .error (duplicate name.value name.rest)
      else
        let colon ← colon name.rest
        let a ← first colon.rest
        .ok (name.join (colon.join a ()) (some a.value, known.2))
    else if name.value = shape.second then
      if known.2.isSome then .error (duplicate name.value name.rest)
      else
        let colon ← colon name.rest
        let b ← second colon.rest
        .ok (name.join (colon.join b ()) (known.1, some b.value))
    else
      let colon ← colon name.rest
      let other ← passed colon.rest
      .ok (name.join (colon.join other ()) known)

def bothFields (known : Option α × Option β) (unread : List Char) : Except Fault (α × β) :=
  match known with
  | (none, _) => .error (.mismatch (.missingField shape.first) unread)
  | (some _, none) => .error (.mismatch (.missingField shape.second) unread)
  | (some a, some b) => .ok (a, b)

def pairFields (known : Option α × Option β) (text : List Char) :
    Except Fault (Parsed (α × β) text) := do
  let field ← pairField shape first second known text
  let more ← another '\x7d' field.rest
  if more.value then
    let others ← pairFields field.value more.rest
    .ok (field.join (more.join others ()) others.value)
  else do
    .ok (field.join more (← bothFields shape field.value more.rest))
termination_by text.length
decreasing_by exact Nat.lt_trans more.shorter field.shorter

def pairOf : Reader Fault Char (α × β) :=
  skipping fun
    | [] => .error .endOfText
    | '[' :: text => do
      let tooShort := fun rest => .error (.mismatch (.tooShort 0 shape.expected) rest)
      .ok ((← emptyOr ']' tooShort (pairElements shape first second) text).behind '[')
    | '\x7b' :: text => do
      let incomplete := bothFields shape (none, none)
      let fields := pairFields shape first second (none, none)
      .ok ((← emptyOr '\x7d' incomplete fields text).behind '\x7b')
    | text => .error (wrongType shape.expected text)

end

end PluralRules.Json
