import PluralRules.Command.Options

/-!
Progress in reading arguments from left to right at one level of the command line. What an option
or argument has gathered is settled when the next one starts.
-/

namespace PluralRules.Command

inductive UsageError where
  | missingArgument
  | unknownArgument
  | invalidValue
  | invalidSubcommand
  | repeatedOption
  | unexpectedValue
  | missingSubcommand
  | help
  | version
  | helpForNothing
deriving DecidableEq

inductive Pending where
  | nothing
  | bare (opt : Opt)
  | valued (opt : Opt) (value : String)
  | arguments (gathered : List String)
deriving DecidableEq

structure Progress where
  given : List (Opt × String)
  arguments : List String
  pending : Pending
  -- Everything after two dashes is an argument.
  onlyArguments : Bool
deriving DecidableEq

namespace Progress

def start : Progress := ⟨[], [], .nothing, false⟩

def isGiven (progress : Progress) (opt : Opt) : Bool :=
  (progress.given.lookup opt).isSome

def record (progress : Progress) (opt : Opt) (value : String) : Except UsageError Progress :=
  if progress.isGiven opt then .error .repeatedOption
  else if !opt.accepts value then .error .invalidValue
  else .ok { progress with given := (opt, value) :: progress.given, pending := .nothing }

def settle (level : Level) (progress : Progress) : Except UsageError Progress :=
  match progress.pending with
  | .nothing => .ok progress
  | .bare _ => .error .invalidValue
  | .valued opt value => progress.record opt value
  | .arguments gathered =>
    if !level.takesNumbers && gathered.contains "" then .error .invalidValue
    else
      .ok { progress with arguments := progress.arguments ++ gathered, pending := .nothing }

def flag (level : Level) (opt : Opt) (progress : Progress) : Except UsageError Progress := do
  let progress ← progress.settle level
  match opt with
  | .help => .error .help
  | .version => .error .version
  | opt => progress.record opt ""

def argument (level : Level) (text : String) (progress : Progress) :
    Except UsageError Progress :=
  if level.takesArguments then
    match progress.pending with
    | .arguments gathered => .ok { progress with pending := .arguments (gathered ++ [text]) }
    | _ => do
      let progress ← progress.settle level
      .ok { progress with pending := .arguments [text] }
  else if level = .program ∧ ¬(progress.onlyArguments ∧ (Verb.ofName? text).isSome) then
    .error .invalidSubcommand
  else .error .unknownArgument

def plain (level : Level) (text : String) (progress : Progress) : Except UsageError Progress :=
  match progress.pending with
  | .bare opt => .ok { progress with pending := .valued opt text }
  | _ => progress.argument level text

def long (level : Level) (text name : String) (value? : Option String) (progress : Progress) :
    Except UsageError Progress :=
  match level.ofLong? name, value? with
  | some opt, value? =>
    if opt.takesValue then do
      let progress ← progress.settle level
      match value? with
      | some value => progress.record opt value
      | none => .ok { progress with pending := .bare opt }
    else if value?.isSome then .error .unexpectedValue
    else progress.flag level opt
  | none, _ => if level.takesNumbers then progress.plain level text else .error .unknownArgument

def short (level : Level) (text : String) (letters : List Char) (progress : Progress) :
    Except UsageError Progress :=
  if level.takesNumbers ∧ letters.any fun letter => (level.ofShort? letter).isNone then
    progress.plain level text
  else
    letters.foldlM (fun progress letter =>
      match level.ofShort? letter with
      | some opt => progress.flag level opt
      | none => .error .unknownArgument) progress

def inNumbers (level : Level) (progress : Progress) : Bool :=
  match progress.pending with
  | .arguments _ => level.takesNumbers
  | _ => false

def step (level : Level) (progress : Progress) (text : String) : Except UsageError Progress :=
  if progress.onlyArguments then progress.argument level text
  else if progress.inNumbers level then progress.plain level text
  else
    match text.toList with
    | ['-', '-'] => .ok { progress with onlyArguments := true }
    | '-' :: '-' :: letters =>
      let name := String.ofList (letters.takeWhile (· != '='))
      match letters.dropWhile (· != '=') with
      | [] => progress.long level text name none
      | _ :: value => progress.long level text name (some (String.ofList value))
    | '-' :: letter :: letters => progress.short level text (letter :: letters)
    | _ => progress.plain level text

def atVerb (progress : Progress) : Bool :=
  !progress.onlyArguments &&
    match progress.pending with
    | .nothing => true
    | .valued _ _ => true
    | _ => false

end Progress

end PluralRules.Command
