import AccessPolicy.PolicyConfig
import AccessPolicy.RuleFilter
import AccessPolicy.RuleTable.Basic

/-!
# Policies

A policy decides requests: may this subject do what a rule describes with this object?

1. A rule name that the policy does not have gives `Decision.ruleNotFound`.
2. The hooks of the rule prepare subject and object.
3. If a deny group passes, the request is denied and allow is not looked at.
4. Otherwise the request is allowed if an allow group passes, and denied if none does.

`Policy.decide` gives the decision; `isAuthorized`, `authorize` and `enforce` are made
from it.
-/

namespace AccessPolicy

/-- A policy: its rules, its settings, and the types registered for object names. -/
structure Policy where
  table : RuleTable
  config : PolicyConfig
  schemas : List (String × Value)
deriving Repr

namespace Policy

/-- Builds a policy from finished rules. -/
def ofRules (env : Environment) (rules : List Rule) (config : PolicyConfig)
    (schemas : List (String × Value)) : Except Failure Policy := do
  let table ← RuleTable.ofRules env rules config.checkModule config.name
  return ⟨table, config, schemas⟩

def name (p : Policy) : String :=
  p.config.name

/-- The names of the rules of a policy. -/
def ruleNames (p : Policy) : List String :=
  p.table.names

section Requests

variable (env : Environment) (p : Policy)

/-- The decision of bound conditions on a prepared subject and object. -/
def judge (c : CompiledRule) (subject object : Value) : Run Decision := do
  if ← Condition.evaluate env subject object c.deny then return .denied
  else if ← Condition.evaluate env subject object c.allow then return .allowed
  else return .denied

/-- The record that a decision leaves. -/
def decisionRecord (rule : String) (d : Decision) : LogRecord :=
  ⟨.debug, "Rule " ++ rule ++ " decided: " ++ d.text, rule, p.name, some d⟩

/-- The record that a request for a missing rule leaves. -/
def missingRecord (rule : String) : LogRecord :=
  ⟨.warning, "Permission checked for rule that does not exist: " ++ rule, rule, p.name, none⟩

def decide (rule : String) (subject object : Value) (options : Value) : Run Decision :=
  match p.table.get? rule with
  | none => .result .ruleNotFound
  | some c => do
      let pair ← Hydration.hydrate env options c.preHooks subject object
      let d ← judge env c pair.1 pair.2
      Run.log (p.decisionRecord rule d)
      return d

/-- Warns if a rule was not found. -/
def warnIfMissing (rule : String) (d : Decision) : Run Unit :=
  match d with
  | .ruleNotFound => Run.log (p.missingRecord rule)
  | _ => .result ()

def isAuthorized (rule : String) (subject object : Value) (options : Value) : Run Bool := do
  let d ← p.decide env rule subject object options
  p.warnIfMissing rule d
  return d == .allowed

/-- The result of a request, with the reason of the policy if it is not allowed. -/
def authorize (rule : String) (subject object : Value) (options : Value) :
    Run AuthorizationResult := do
  let d ← p.decide env rule subject object options
  p.warnIfMissing rule d
  match d with
  | .allowed => return .ok rule
  | _ => return .refusal p.config.errorReason rule d

/-- Fails with the message of the policy unless a request is allowed. -/
def enforce (rule : String) (subject object : Value) (options : Value) : Run Unit := do
  let r ← p.authorize env rule subject object options
  if r.allowed then return ()
  else
    .fail (.fault (Fault.of 
      (.unauthorized (.text rule) r.reason) { message := .text p.config.errorMessage }))

end Requests

section Introspection

variable (p : Policy)

/-- The rules that match some filters; all rules if there are none. -/
def listRules (filters : Fields) : Except Failure (List Rule) :=
  if filters.isEmpty then .ok p.table.rules
  else RuleFilter.filterRules p.table.rules filters

def getRule? (rule : String) : Option Rule :=
  (p.table.get? rule).map CompiledRule.rule

/-- The rule of a name, which must exist. -/
def fetchRule (rule : String) : Except Failure Rule :=
  match p.getRule? rule with
  | some r => .ok r
  | none => .error (Failure.ofCause (.ruleNotFound (.text rule)))

/-- The type registered for an object name. -/
def getSchema? (object : String) : Option Value :=
  p.schemas.lookup object

/-- Whether a value is a type rather than an instance of one. -/
def isType : Value → Bool
  | .type _ => true
  | .module r _ => r.form == .typeForm
  | _ => false

/-- Whether a registered value is the given type itself. -/
def isSameType (registered type : Value) : Bool :=
  isType registered && registered.agrees type

/-- The first object name registered for a type or for the type of an instance. -/
def getObjectName? (schema : Value) : Option String :=
  let type := if isType schema then schema else .type schema.typeOf
  (p.schemas.find? fun s => isSameType s.2 type).map (·.1)

/-- The object name and object that a reference means. -/
def referent (ref : Value) : Except Failure (String × Value) :=
  let registered := fun (_ : Unit) =>
    match p.getObjectName? ref with
    | some name => .ok (name, ref)
    | none =>
        .error (.fault (Fault.of (.invalidFilter (.text "object"))
          { message := .text ("No object registered for type " ++ ref.typeName)
            suggestion :=
              .text ("Pass an (object_name, object) tuple or register the class with " ++
                "the object") }))
  match ref with
  | .tuple [name, object] =>
      match name.text? with
      | some s => .ok (s, object)
      | none => registered ()
  | _ => registered ()

/-- Keeps the rules whose request is allowed, deciding them in order. -/
def keepAllowed (env : Environment) (subject object : Value) (options : Value) :
    List Rule → Run (List Rule)
  | [] => .result []
  | r :: rest => do
      let d ← p.decide env r.name subject object options
      let more ← keepAllowed env subject object options rest
      return if d == .allowed then r :: more else more

/-- The rules of an object that the subject may perform on it. -/
def filterAllowed (env : Environment) (rules : List Rule) (subject ref : Value)
    (options : Value) : Run (List Rule) := do
  let (name, object) ← Run.ofExcept (p.referent ref)
  let candidates ← Run.ofExcept (RuleFilter.filterRules rules [("object", .text name)])
  p.keepAllowed env subject object options candidates

def inspect : String :=
  "<Policy " ++ p.name ++ ": " ++ toString p.table.size ++ " rules>"

end Introspection

end Policy
end AccessPolicy
