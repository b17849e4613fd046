import PluralRules.Command.Progress

/-!
From the arguments of the program to an action. Of two faults the one that is met first is reported;
what stands before the name of a command is settled after what stands behind it.
-/

namespace PluralRules.Command

inductive Color where
  | auto
  | always
  | never
deriving DecidableEq

inductive Action where
  | check (files : List String) (json : Bool)
  | eval (locale : String) (numbers : List String) (rules? fallback? : Option String)
      (operands json : Bool)
  | locales (rules? : Option String) (showRules json : Bool)
deriving DecidableEq

structure Invocation where
  action : Action
  color : Color
  verbose : Bool
deriving DecidableEq

def Progress.action (progress : Progress) : Verb → Except UsageError Action
  | .check =>
    if progress.arguments.isEmpty then .error .missingArgument
    else .ok (.check progress.arguments (progress.isGiven .json))
  | .eval =>
    match progress.given.lookup .locale with
    | none => .error .missingArgument
    | some locale =>
      if progress.arguments.isEmpty then .error .missingArgument
      else .ok (.eval locale progress.arguments (progress.given.lookup .rules)
        (progress.given.lookup .fallback) (progress.isGiven .operands) (progress.isGiven .json))
  | .locales =>
    .ok (.locales (progress.given.lookup .rules) (progress.isGiven .showRules)
      (progress.isGiven .json))
  | .help => .error .help

def chosenColor (outer inner : Progress) : Color :=
  match (inner.given.lookup .color).or (outer.given.lookup .color) with
  | some "always" => .always
  | some "never" => .never
  | _ => .auto

def helpTopic : List String → UsageError
  | [] => .help
  | [topic] => if (Verb.ofName? topic).isSome then .help else .invalidSubcommand
  | _ => .invalidSubcommand

def readCommand (outer : Progress) (verb : Verb) (arguments : List String) :
    Except UsageError Invocation := do
  if verb = .help then .error (helpTopic arguments)
  let level := Level.command verb
  let inner ← arguments.foldlM (Progress.step level) .start
  let inner ← inner.settle level
  let action ← inner.action verb
  let outer ← outer.settle .program
  .ok ⟨action, chosenColor outer inner, outer.isGiven .verbose || inner.isGiven .verbose⟩

def readProgram (progress : Progress) : List String → Except UsageError Invocation
  | [] => do
    let progress ← progress.settle .program
    .error (if progress.given.isEmpty then .helpForNothing else .missingSubcommand)
  | text :: arguments =>
    match if progress.atVerb then Verb.ofName? text else none with
    | some verb => readCommand progress verb arguments
    | none => do readProgram (← progress.step .program text) arguments

def readArguments (arguments : List String) : Except UsageError Invocation :=
  readProgram .start arguments

end PluralRules.Command
