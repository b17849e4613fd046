import PluralRules.Json.Reader

/-!
Strings in JSON text. Where a string is only passed over, its escapes need not form characters.
-/

namespace PluralRules.Json

def hexDigit? (c : Char) : Option Nat :=
  if c.isDigit then some (c.toNat - 48)
  else if 'a' ≤ c ∧ c ≤ 'f' then some (c.toNat - 87)
  else if 'A' ≤ c ∧ c ≤ 'F' then some (c.toNat - 55)
  else none

def hexQuad : Reader Fault Char Nat
  | a :: b :: c :: d :: rest =>
    match hexDigit? a, hexDigit? b, hexDigit? c, hexDigit? d with
    | some p, some q, some r, some s =>
      .ok ((((Parsed.one (((p * 16 + q) * 16 + r) * 16 + s) d rest).behind c).behind b).behind a)
    | _, _, _, _ => .error .grammar
  | text => .error (if Text.byteLength text < 4 then .endOfText else .grammar)

def shortEscape? : Char → Option Char
  | '"' => some '"'
  | '\\' => some '\\'
  | '/' => some '/'
  | 'b' => some '\x08'
  | 'f' => some '\x0c'
  | 'n' => some '\n'
  | 'r' => some '\r'
  | 't' => some '\t'
  | _ => none

def isLeading (unit : Nat) : Bool := 0xD800 ≤ unit && unit < 0xDC00

def isTrailing (unit : Nat) : Bool := 0xDC00 ≤ unit && unit < 0xE000

def pairedChar (leading trailing : Nat) : Char :=
  Char.ofNat ((leading - 0xD800) * 0x400 + (trailing - 0xDC00) + 0x10000)

def trailingUnit : Reader Fault Char Nat
  | '\\' :: 'u' :: text => do
    let unit ← hexQuad text
    if isTrailing unit.value then .ok ((unit.behind 'u').behind '\\') else .error .grammar
  | [] => .error .endOfText
  | ['\\'] => .error .endOfText
  | _ => .error .grammar

def escape : Reader Fault Char Char
  | [] => .error .endOfText
  | 'u' :: text => do
    let unit ← hexQuad text
    if isTrailing unit.value then .error .grammar
    else if isLeading unit.value then
      let trailing ← trailingUnit unit.rest
      .ok ((unit.join trailing (pairedChar unit.value trailing.value)).behind 'u')
    else .ok ((unit.map Char.ofNat).behind 'u')
  | c :: text =>
    match shortEscape? c with
    | some escaped => .ok (.one escaped c text)
    | none => .error .grammar

def passEscape : Reader Fault Char Unit
  | [] => .error .endOfText
  | 'u' :: text => do .ok (((← hexQuad text).map fun _ => ()).behind 'u')
  | c :: text => if (shortEscape? c).isSome then .ok (.one () c text) else .error .grammar

def stringBody {α : Type} (escape : Reader Fault Char α) (plain : Char → α) (text : List Char) :
    Except Fault (Parsed (List α) text) :=
  match text with
  | [] => .error .endOfText
  | '"' :: rest => .ok (.one [] '"' rest)
  | '\\' :: rest => do
    let first ← escape rest
    let others ← stringBody escape plain first.rest
    .ok ((first.join others (first.value :: others.value)).behind '\\')
  | c :: rest =>
    if c.toNat < 32 then .error .grammar
    else do
      let others ← stringBody escape plain rest
      .ok ((others.map (plain c :: ·)).behind c)
termination_by text.length
decreasing_by
  · exact Nat.lt_succ_of_lt first.shorter
  · exact Nat.lt_succ_self _

def stringRest : Reader Fault Char String := fun text => do
  .ok ((← stringBody escape id text).map String.ofList)

def passString : Reader Fault Char Unit := fun text => do
  .ok ((← stringBody passEscape (fun _ => ()) text).map fun _ => ())

def quotedName {α : Type} (body : Reader Fault Char α) : Reader Fault Char α :=
  skipping fun
    | '"' :: text => do .ok ((← body text).behind '"')
    | [] => .error .endOfText
    | _ => .error .grammar

end PluralRules.Json
