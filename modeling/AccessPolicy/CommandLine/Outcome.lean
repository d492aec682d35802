import AccessPolicy.CommandLine.Command
import AccessPolicy.CommandLine.Files
import AccessPolicy.CommandLine.Report
import AccessPolicy.DocumentText
import AccessPolicy.Json.Reader
import AccessPolicy.PolicyBuilder

/-!
# Outcomes of commands

`CommandLine.run` carries out what some arguments ask for and gives the outcome: an exit
code with the output, or a failure that no command reports.

**Exit codes.**  Misuse of the command line is 2, with no output.  `validate` and `rules`
end with 0 or 1.  `authorize` ends with 0, 1 or 2 for the three decisions and with 3 if
there is no decision.

**Failures that are not reported.**  Options of a request are read before the command
looks after failures, and the answer is written after it has done so.  Either failure ends
the program with 1.  While it does so, it looks after exceptions only: what else is raised
ends the program with an exit code of its own.

**Unreadable files.**  A policy file that cannot be read is reported without its text.
-/

namespace AccessPolicy
namespace CommandLine

/-- How a program ends. -/
inductive Outcome where
  | exit (code : Nat) (output : String)
  | crash (failure : Failure)
deriving Repr

namespace Outcome

def code : Outcome → Nat
  | .exit code _ => code
  | .crash _ => 1

def output : Outcome → String
  | .exit _ output => output
  | .crash _ => ""

/-- The end after a wrong use of the command line. -/
def misuse : Outcome :=
  .exit 2 ""

def answer (json : Bool) (code : Nat) (a : Answer) : Outcome :=
  match a.output json with
  | .ok output => .exit code output
  | .error failure => .crash failure

/-- The end after a failure that is looked after: an exception is answered. -/
def handle (json : Bool) (code : Nat) (report : Failure → Answer) (f : Failure) : Outcome :=
  match f.exitCode? with
  | some own => .exit own ""
  | none => .answer json code (report f)

end Outcome

section Loading

variable (env : Environment)

/-- A problem of a policy file, without the text of the file. -/
def withoutText (problem : Yaml.Problem) : Yaml.Problem :=
  if problem.stage.isConversion then problem
  else { problem with description := "<yaml error>" }

/-- The document that lies at a path. -/
def documentOf : FileEntry → Except Failure PolicyDocument
  | .directory => .error (.unreadable (withoutText ⟨.characters, ""⟩))
  | .text content =>
      match PolicyDocument.ofText content with
      | .error (.unreadable problem) => .error (.unreadable (withoutText problem))
      | x => x

/-- The policy that lies at a path, with the check module that is given for it. -/
def loadPolicy (entry : FileEntry) (checkModule : Option String) : Except Failure Policy := do
  let document ← documentOf entry
  Policy.ofDocument env document (Value.ofOptionalText checkModule)

end Loading

section Reading

/-- A filter: a bare text, or a pair if it has an equals sign. -/
def readFilter : Option String → Except Failure Value
  | none => .ok .null
  | some text =>
      match Text.cut? '=' text with
      | none => .ok (.text text)
      | some (key, value) =>
          match Yaml.load value with
          | .ok v => .ok (.tuple [.text key, v])
          | .error problem => .error (.unreadable problem)

def readFilters (t : FilterTexts) : Except Failure Fields := do
  let allow ← readFilter t.allow
  let deny ← readFilter t.deny
  let metadata ← readFilter t.metadata
  return [("object", Value.ofOptionalText t.object), ("action", Value.ofOptionalText t.action),
    ("allow", allow), ("deny", deny), ("metadata", metadata)]

/-- A value in JSON; nothing given is null. -/
def readJson : Option String → Except Outcome Value
  | none => .ok .null
  | some text =>
      match Json.read text with
      | .ok v => .ok v
      | .error .malformed => .error .misuse
      | .error .tooLong => .error (.crash .unwritable)
      | .error .tooDeep => .error (.crash .tooDeep)

/-- The options of a request after some that are read. -/
def readOptions (sofar : Entries) : List String → Except Outcome Entries
  | [] => .ok sofar
  | text :: rest =>
      match Text.cut? '=' text with
      | none => .error .misuse
      | some (key, value) =>
          match Yaml.load value with
          | .ok v => readOptions (Entries.set sofar (.text key) v) rest
          | .error problem => .error (.crash (.unreadable problem))

/-- A request whose texts are read. -/
structure Request where
  rule : String
  subject : Value
  object : Value
  options : Entries
deriving Repr

/-- Reads the texts of a request: subject, object and options in this order. -/
def readRequest (t : RequestTexts) : Except Outcome Request := do
  let subject ← readJson t.subject
  let object ← readJson t.object
  let options ← readOptions [] t.options
  return ⟨t.rule, subject, object, options⟩

end Reading

section Commands

variable (env : Environment)

/-- Builds a policy and reports what is wrong with it. -/
def validate (json : Bool) (policy : Except Failure Policy) : Outcome :=
  match policy with
  | .ok p => .answer json 0 (Report.valid env.signs p)
  | .error f => .handle json 1 (Report.invalid env.signs) f

/-- The rules of a policy that match some filters, with the policy. -/
def matchingRules (policy : Except Failure Policy) (filters : FilterTexts) :
    Except Failure (Policy × List Rule) := do
  let p ← policy
  let given ← readFilters filters
  let rules ← p.listRules given
  return (p, rules)

/-- Lists the rules of a policy that match some filters. -/
def listRules (json : Bool) (policy : Except Failure Policy) (filters : FilterTexts) : Outcome :=
  match matchingRules policy filters with
  | .ok (p, rules) => .answer json 0 (Report.rules env.signs p rules)
  | .error f => .handle json 1 (Report.failed env.signs "rules_error") f

/-- The exit code of a decision. -/
def exitCode : Decision → Nat
  | .allowed => 0
  | .denied => 1
  | .ruleNotFound => 2

/-- Decides a request against a policy. -/
def decideRequest (policy : Except Failure Policy) (r : Request) : Run Decision := do
  let p ← Run.ofExcept policy
  p.decide env r.rule r.subject r.object (Value.record r.options)

/-- Decides a request and answers it. -/
def answerRequest (json : Bool) (policy : Except Failure Policy) (r : Request) :
    Run Outcome := do
  match ← (decideRequest env policy r).attempt with
  | .ok d => return .answer json (exitCode d) (Report.decided env.signs r.rule d)
  | .error f => return .handle json 3 (Report.failed env.signs "authorize_error") f

/-- Reads a request, decides it and answers it. -/
def authorize (json : Bool) (policy : Except Failure Policy) (t : RequestTexts) : Run Outcome :=
  match readRequest t with
  | .ok r => answerRequest env json policy r
  | .error outcome => .result outcome

/-- Carries out a command on what lies at the path of its policy. -/
def perform (c : Command) (entry : FileEntry) : Run Outcome :=
  let policy := loadPolicy env entry c.policy.checkModule
  match c.task with
  | .validate => .result (validate env c.json policy)
  | .rules filters => .result (listRules env c.json policy filters)
  | .authorize request => authorize env c.json policy request

/-- The answer that names the version. -/
def version : Outcome :=
  match Report.print env.signs "[bold]warden[/bold] version 0.1.0" with
  | .ok output => .exit 0 output
  | .error failure => .crash failure

/-- Carries out what some arguments ask for; the policy file must exist. -/
def run (files : Files) (args : List String) : Run Outcome :=
  match Invocation.read args with
  | .version => .result (version env)
  | .help => .result (.exit 0 "")
  | .misuse => .result .misuse
  | .unknownLogLevel name => .result (.crash (.unknownLogLevel name))
  | .command c =>
      match files.entry? c.policy.path with
      | some entry => perform env c entry
      | none => .result .misuse

end Commands

end CommandLine
end AccessPolicy
