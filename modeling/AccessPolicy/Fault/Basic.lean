import AccessPolicy.Value.Display

/-!
# Coded faults

A fault tells what went wrong as a `Cause`, and carries a message, a numeric code,
a suggestion and a context for the people and programs that handle it.

**Defaults.**  `Fault.make` fills in what the raiser left empty: an empty message,
a zero code, and a suggestion that is missing or empty where the cause has one of
its own.  The context starts with what the raiser gave and gains the details of
the cause.

**Details.**  This library raises faults with texts for details.  A host program may put
any value there; `Fault.Flaw` says why a fault cannot be made of some values.
-/

namespace AccessPolicy

/-- What went wrong. -/
inductive Cause where
  | general
  | unauthorized (rule reason : Value)
  | ruleNotFound (rule : Value)
  | definition (policy : Value)
  | duplicateRule (policy duplicates : Value)
  | duplicateCheck (policy object action field checks : Value)
  | unknownCheck (policy check rule module : Value)
  | unknownHook (policy hook rule module : Value)
  | invalidHookArgs (policy hook args : Value)
  | invalidHookResult (hook resultType : Value)
  | policyFrozen (policy : Value)
  | invalidFilter (option : Value)
  | redaction (typeName : Value)
  | notRedactable (typeName : Value)
  | redactionTypeMismatch (typeName field expected : Value)
deriving Repr

/-- What a raiser sets by hand. -/
structure Overrides where
  message : Value := .text ""
  code : Value := .int 0
  suggestion : Value := .null
  context : Value := Value.record []

/-- A coded fault. -/
structure Fault where
  cause : Cause
  message : Value
  code : Value
  suggestion : Value
  context : Value
deriving Repr

/-- Why a fault cannot be made. -/
inductive Fault.Flaw where
  | wrongType
  | wrongCount
  | missingMember
  | unwritable
deriving DecidableEq, Repr

namespace Cause

/-- The name of a kind of fault. -/
def title : Cause → String
  | .general => "WardenError"
  | .unauthorized .. => "UnauthorizedError"
  | .ruleNotFound .. => "RuleNotFoundError"
  | .definition .. => "PolicyDefinitionError"
  | .duplicateRule .. => "DuplicateRuleError"
  | .duplicateCheck .. => "DuplicateCheckError"
  | .unknownCheck .. => "UnknownCheckError"
  | .unknownHook .. => "UnknownHookError"
  | .invalidHookArgs .. => "InvalidHookArgsError"
  | .invalidHookResult .. => "InvalidHookResultError"
  | .policyFrozen .. => "PolicyFrozenError"
  | .invalidFilter .. => "InvalidFilterError"
  | .redaction .. => "RedactionError"
  | .notRedactable .. => "NotRedactableError"
  | .redactionTypeMismatch .. => "RedactionTypeMismatchError"

/-- The code of a cause; codes are grouped by thousands. -/
def code : Cause → Int
  | .general => 0
  | .unauthorized .. => 1001
  | .ruleNotFound .. => 1002
  | .definition .. => 2001
  | .duplicateRule .. => 2002
  | .duplicateCheck .. => 2003
  | .unknownCheck .. => 2004
  | .unknownHook .. => 2005
  | .invalidHookArgs .. => 2006
  | .invalidHookResult .. => 2007
  | .policyFrozen .. => 2008
  | .invalidFilter .. => 3001
  | .redaction .. => 0
  | .notRedactable .. => 4001
  | .redactionTypeMismatch .. => 4002

/-- The parts of a value that must have some. -/
def partsOf (v : Value) : Except Fault.Flaw (List Value) :=
  match v.parts? with
  | some parts => .ok parts
  | none => .error .wrongType

/-- The text for an object and an action that belong together. -/
def pairText (pair : Value) : Except Fault.Flaw String := do
  match ← partsOf pair with
  | [object, action] =>
      return "object: " ++ object.display ++ ", action: " ++ action.display
  | _ => .error .wrongCount

/-- A value that must be a text. -/
def textOf (v : Value) : Except Fault.Flaw String :=
  match v.text? with
  | some s => .ok s
  | none => .error .wrongType

/-- The sentence that describes a cause. -/
def sentence : Cause → Except Fault.Flaw String
  | .general => .ok ""
  | .unauthorized .. => .ok "unauthorized"
  | .ruleNotFound rule => .ok ("Rule not found: " ++ rule.display)
  | .definition .. => .ok ""
  | .duplicateRule policy duplicates => do
      let pairs ← (← partsOf duplicates).mapM pairText
      return "Duplicate authorization rules in " ++
        (if policy.isTrue then policy.display else "policy") ++ ": " ++ Text.join ", " pairs
  | .duplicateCheck _ object action field checks => do
      let names ← (← partsOf checks).mapM textOf
      return "Duplicate authorization checks in " ++ field.display ++ " of " ++ object.display ++
        "_" ++ action.display ++ ": " ++ Text.join ", " names
  | .unknownCheck _ check rule module =>
      .ok ("Unknown check " ++ check.inspect ++ " in rule " ++ rule.display ++
        " (module: " ++ module.display ++ ")")
  | .unknownHook _ hook rule module =>
      .ok ("Unknown pre-hook " ++ hook.inspect ++ " in rule " ++ rule.display ++
        " (module: " ++ module.display ++ ")")
  | .invalidHookArgs _ hook args =>
      .ok ("Invalid pre-hook options for " ++ hook.display ++ ": expected a mapping, got " ++
        args.inspect)
  | .invalidHookResult hook resultType =>
      .ok ("Pre-hook " ++ hook.display ++ " must return a (subject, object) tuple, got " ++
        resultType.display)
  | .policyFrozen policy =>
      .ok ("Policy " ++ policy.inspect ++ " is already built and cannot be changed")
  | .invalidFilter option => .ok ("Unknown rule filter: " ++ option.display)
  | .redaction .. => .ok ""
  | .notRedactable typeName => .ok ("No redacted_fields callback for type " ++ typeName.display)
  | .redactionTypeMismatch typeName field expected =>
      .ok ("Field " ++ field.display ++ " was declared as " ++ expected.display ++ ", got " ++
        typeName.display)

/-- The suggestion that belongs to a cause. -/
def suggestion? : Cause → Option String
  | .ruleNotFound .. => some "Rule names have the form \x7bobject\x7d_\x7baction\x7d"
  | .duplicateRule .. =>
      some "Look out for actions that are defined twice for the same object"
  | .unknownCheck .. =>
      some "Define the check function in the check module or register it"
  | .invalidFilter .. =>
      some "Valid filters are object, action, allow, deny and metadata"
  | .notRedactable .. =>
      some "Subclass Redactable or register the type in a RedactionRegistry"
  | _ => none

/-- The details of a cause as the fields of a fault. -/
def details : Cause → Fields
  | .general => []
  | .unauthorized rule reason => [("rule", rule), ("reason", reason)]
  | .ruleNotFound rule => [("rule", rule)]
  | .definition policy => [("policy", policy)]
  | .duplicateRule policy duplicates => [("policy", policy), ("duplicates", duplicates)]
  | .duplicateCheck policy object action field checks =>
      [("policy", policy), ("object", object), ("action", action), ("field_name", field),
        ("checks", checks)]
  | .unknownCheck policy check rule module =>
      [("policy", policy), ("check", check), ("rule", rule), ("module", module)]
  | .unknownHook policy hook rule module =>
      [("policy", policy), ("hook", hook), ("rule", rule), ("module", module)]
  | .invalidHookArgs policy hook args => [("policy", policy), ("hook", hook), ("args", args)]
  | .invalidHookResult hook resultType => [("hook", hook), ("result_type", resultType)]
  | .policyFrozen policy => [("policy", policy)]
  | .invalidFilter option => [("option", option)]
  | .redaction typeName => [("type_name", typeName)]
  | .notRedactable typeName => [("type_name", typeName)]
  | .redactionTypeMismatch typeName field expected =>
      [("type_name", typeName), ("field_name", field), ("expected", expected)]

/-- The details of a cause under the names of a context. -/
def context : Cause → Except Fault.Flaw Fields
  | .duplicateRule policy duplicates => do
      let pairs ← (← partsOf duplicates).mapM fun pair => return Value.list (← partsOf pair)
      return [("policy", policy), ("duplicates", .list pairs)]
  | .duplicateCheck policy object action field checks =>
      .ok [("policy", policy), ("object", object), ("action", action), ("field", field),
        ("checks", checks)]
  | .invalidHookArgs policy hook args =>
      if args.isWritable then
        .ok [("policy", policy), ("hook", hook), ("args", .text args.inspect)]
      else .error .unwritable
  | .redactionTypeMismatch typeName field expected =>
      .ok [("type_name", typeName), ("field", field), ("expected", expected)]
  | c => .ok c.details

/-- Why the details of a cause cannot be put into something that is no map to change. -/
def refusedContext : Cause → Option Fault.Flaw
  | .general => none
  | .unauthorized .. => some .missingMember
  | .invalidHookResult .. => some .missingMember
  | _ => some .wrongType

/-- Whether a cause lies in the rules of a policy. -/
def isDefinition : Cause → Bool
  | .definition .. | .duplicateRule .. | .duplicateCheck .. | .unknownCheck .. => true
  | .unknownHook .. | .invalidHookArgs .. | .policyFrozen .. => true
  | _ => false

/-- Whether a cause lies in a redaction. -/
def isRedaction : Cause → Bool
  | .redaction .. | .notRedactable .. | .redactionTypeMismatch .. => true
  | _ => false

end Cause

namespace Fault

/-- The context that a raiser gave with the details of the cause.  A type of maps in place of
a map takes details without keeping them. -/
def fullContext (cause : Cause) (given : Value) : Except Flaw Value :=
  let refused :=
    match cause.refusedContext with
    | some flaw => .error flaw
    | none => .ok given
  match given with
  | .map t entries =>
      if t.isSubtypeOf (.builtin .map) then do
        return .map t (Entries.merge entries (Value.textEntries (← cause.context)))
      else refused
  | .type t =>
      if cause.refusedContext = some .missingMember && t.isSubtypeOf (.builtin .map) then
        if t.isSubtypeOf (.builtin .orderedMap) then .error .wrongType else .ok given
      else refused
  | _ => refused

/-- The sentence that describes a cause, unless it tells a value that cannot be written. -/
def wholeSentence (cause : Cause) : Except Flaw Value := do
  let sentence ← cause.sentence
  let isTold : String × Value → Bool :=
    match cause with
    | .unauthorized .. | .duplicateCheck .. => fun _ => false
    | .invalidHookArgs .. => fun f => f.1 != "policy"
    | _ => fun _ => true
  if (cause.details.filter isTold).all fun f => f.2.isWritable then return .text sentence
  else .error .unwritable

/-- A fault with the given cause; what the overrides leave empty is filled in. -/
def make (cause : Cause) (given : Overrides := {}) : Except Flaw Fault := do
  let message ←
    if cause.code = 0 ∨ given.message.isTrue then pure given.message
    else
      match cause with
      | .definition _ => pure given.message
      | c => wholeSentence c
  let code := if given.code.agreesWithInt 0 then .int cause.code else given.code
  let suggestion :=
    match cause.suggestion? with
    | some s => if given.suggestion.isTrue then given.suggestion else .text s
    | none => given.suggestion
  let context ← fullContext cause given.context
  return ⟨cause, message, if cause.code = 0 then given.code else code, suggestion, context⟩

/-- A fault whose details are known to be in order. -/
def of (cause : Cause) (given : Overrides := {}) : Fault :=
  match make cause given with
  | .ok f => f
  | .error _ => ⟨cause, given.message, .int cause.code, given.suggestion, given.context⟩

/-- The text shown to people: the bare message of a refusal, else code and message.  A bare
message that is no text cannot be shown. -/
def text? (f : Fault) : Option String :=
  match f.cause with
  | .unauthorized .. => f.message.text?
  | _ =>
      let hint :=
        if f.suggestion.isTrue then "\nSuggestion: " ++ f.suggestion.display else ""
      some ("[E" ++ f.code.display ++ "] " ++ f.message.display ++ hint)

/-- The text shown to programmers: every field by name. -/
def inspect (f : Fault) : String :=
  let start := "message=" ++ f.message.inspect
  let context := "context=" ++ f.context.inspect
  let parts :=
    match f.cause with
    | .general => [start, "code=" ++ f.code.display, context]
    | _ =>
        [start, "code=" ++ f.code.inspect, "suggestion=" ++ f.suggestion.inspect, context] ++
          Value.inspectFields f.cause.details
  f.cause.title ++ Value.bracketed "(" ")" parts

def toFields (f : Fault) : Fields :=
  [("error_type", .text f.cause.title), ("message", f.message), ("code", f.code),
    ("suggestion", f.suggestion), ("context", f.context)]

end Fault
end AccessPolicy
