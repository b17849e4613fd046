/-!
The options of the command line, and what each level of it accepts: the program before the name of
a command, and the commands themselves.
-/

namespace PluralRules.Command

inductive Opt where
  | color
  | verbose
  | help
  | version
  | json
  | locale
  | rules
  | fallback
  | operands
  | showRules
deriving DecidableEq

namespace Opt

def long : Opt → String
  | color => "color"
  | verbose => "verbose"
  | help => "help"
  | version => "version"
  | json => "json"
  | locale => "locale"
  | rules => "rules"
  | fallback => "fallback"
  | operands => "operands"
  | showRules => "show-rules"

def short? : Opt → Option Char
  | verbose => some 'v'
  | help => some 'h'
  | version => some 'V'
  | _ => none

def takesValue : Opt → Bool
  | color => true
  | locale => true
  | rules => true
  | fallback => true
  | _ => false

def accepts (opt : Opt) (value : String) : Bool :=
  match opt with
  | color => value == "auto" || value == "always" || value == "never"
  | rules => value != ""
  | _ => true

end Opt

inductive Verb where
  | check
  | eval
  | locales
  | help
deriving DecidableEq

namespace Verb

def name : Verb → String
  | check => "check"
  | eval => "eval"
  | locales => "locales"
  | help => "help"

def ofName? (name : String) : Option Verb :=
  [check, eval, locales, help].find? fun verb => verb.name == name

end Verb

inductive Level where
  | program
  | command (verb : Verb)
deriving DecidableEq

namespace Level

def options : Level → List Opt
  | program => [.color, .verbose, .help, .version]
  | command .check => [.color, .verbose, .help, .json]
  | command .eval =>
    [.color, .verbose, .help, .locale, .rules, .fallback, .operands, .json]
  | command .locales => [.color, .verbose, .help, .rules, .showRules, .json]
  | command .help => []

def takesArguments : Level → Bool
  | command .check => true
  | command .eval => true
  | _ => false

def takesNumbers (level : Level) : Bool :=
  level == command .eval

def ofLong? (level : Level) (name : String) : Option Opt :=
  level.options.find? fun opt => opt.long == name

def ofShort? (level : Level) (letter : Char) : Option Opt :=
  level.options.find? fun opt => opt.short? == some letter

end Level

end PluralRules.Command
