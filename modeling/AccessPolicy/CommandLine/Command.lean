import AccessPolicy.CommandLine.Arguments

/-!
# Commands

The command line inspects a policy file and decides requests against it.

* `validate FILE` builds the policy and reports what is wrong with it.
* `rules FILE` lists its rules, all or those that match some filters.
* `authorize FILE RULE` decides one request.

`Invocation.read` gives what some arguments ask for.

**Order.**  A version or help screen that is asked for before the command wins over
everything after it.  An unknown command is noticed before an unknown log level, and that
before anything wrong with the arguments of the command.
-/

namespace AccessPolicy
namespace CommandLine

/-- Where a policy comes from: a file, and a check module that wins over its own. -/
structure PolicySource where
  path : String
  checkModule : Option String
deriving DecidableEq, Repr

/-- Filters on rules, as they are written. -/
structure FilterTexts where
  object : Option String
  action : Option String
  allow : Option String
  deny : Option String
  metadata : Option String
deriving DecidableEq, Repr

/-- A request, as it is written: subject and object in JSON, options as pairs. -/
structure RequestTexts where
  rule : String
  subject : Option String
  object : Option String
  options : List String
deriving DecidableEq, Repr

/-- What to do with a policy. -/
inductive Task where
  | validate
  | rules (filters : FilterTexts)
  | authorize (request : RequestTexts)
deriving DecidableEq, Repr

/-- A task, its policy and whether to answer in JSON. -/
structure Command where
  policy : PolicySource
  task : Task
  json : Bool
deriving DecidableEq, Repr

/-- What some arguments ask for. -/
inductive Invocation where
  | version
  | help
  | misuse
  | unknownLogLevel (name : String)
  | command (c : Command)
deriving DecidableEq, Repr

namespace Invocation

section Commands

def commonOptions : List OptionSpec :=
  [.valued "check-module" (some 'm'), .valued "import-path" (some 'I'), .flag "json" none,
    .flag "help" none]

def filterOptions : List OptionSpec :=
  [.valued "object" (some 'o'), .valued "action" (some 'a'), .valued "allow" none,
    .valued "deny" none, .valued "metadata" none]

/-- The options that make a request. -/
def requestOptions : List OptionSpec :=
  [.valued "subject" (some 's'), .valued "object" (some 'o'), .valued "opt" none]

/-- A command on the policy of a path. -/
def commandOn (path : String) (a : Arguments) (task : Task) : Command :=
  ⟨⟨path, a.last? "check-module"⟩, task, a.has "json"⟩

/-- The command to validate a policy. -/
def validation? (a : Arguments) : Option Command :=
  match a.positions with
  | [path] => some (commandOn path a .validate)
  | _ => none

def listing? (a : Arguments) : Option Command :=
  match a.positions with
  | [path] =>
      some (commandOn path a (.rules
        ⟨a.last? "object", a.last? "action", a.last? "allow", a.last? "deny",
          a.last? "metadata"⟩))
  | _ => none

/-- The command to decide a request. -/
def decision? (a : Arguments) : Option Command :=
  match a.positions with
  | [path, rule] =>
      some (commandOn path a (.authorize
        ⟨rule, a.last? "subject", a.last? "object", a.all "opt"⟩))
  | _ => none

/-- Reads the arguments of a command with some options of its own. -/
def readCommand (options : List OptionSpec) (make : Arguments → Option Command)
    (args : List String) : Invocation :=
  match Arguments.read? (options ++ commonOptions) args with
  | none => .misuse
  | some a =>
      if a.has "help" then .help
      else
        match make a with
        | some c => .command c
        | none => .misuse

/-- The readers of the commands by name. -/
def commands : List (String × (List String → Invocation)) :=
  [("validate", readCommand [] validation?), ("rules", readCommand filterOptions listing?),
    ("authorize", readCommand requestOptions decision?)]

end Commands

def leadingOptions : List OptionSpec :=
  [.flag "version" (some 'v'), .valued "log-level" none, .flag "help" none]

/-- The names of log levels in upper case. -/
def logLevels : List String :=
  ["CRITICAL", "FATAL", "ERROR", "WARN", "WARNING", "INFO", "DEBUG", "NOTSET"]

/-- The name of a log level in upper case.  Two letters outside the basic ones have capitals
among these. -/
def levelName (name : String) : String :=
  name.map fun c => if c = 'ı' then 'I' else if c = 'ſ' then 'S' else c.toUpper

/-- The screen that options ask for, if they do; the first one counts. -/
def screen? (options : List (String × String)) : Option Invocation :=
  options.findSome? fun o =>
    if o.1 == "version" then some .version
    else if o.1 == "help" then some .help
    else none

def read (args : List String) : Invocation :=
  match Arguments.readLeading? leadingOptions args with
  | none => .misuse
  | some a =>
      match screen? a.options, a.positions with
      | some screen, _ => screen
      | none, [] => .misuse
      | none, name :: rest =>
          let level := levelName ((a.last? "log-level").getD "warning")
          match commands.lookup name with
          | none => .misuse
          | some readRest =>
              if logLevels.contains level then readRest rest else .unknownLogLevel level

end Invocation
end CommandLine
end AccessPolicy
