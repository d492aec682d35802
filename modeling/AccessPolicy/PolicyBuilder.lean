import AccessPolicy.Document
import AccessPolicy.Policy

/-!
# Builders of policies

A builder collects rules and the types of objects, and is closed by a successful
build.  Nothing can be added to a closed builder.  A failed build leaves it as it was.

The operations return the builder that follows; one that fails changes nothing, except
that defining several actions in one block keeps what was defined before the failure.
-/

namespace AccessPolicy

/-- A policy in the making. -/
structure PolicyBuilder where
  config : PolicyConfig
  rules : List Rule := []
  schemas : List (String × Value) := []
  closed : Bool := false
deriving Repr

namespace PolicyBuilder

/-- An open builder with nothing in it. -/
def new (config : PolicyConfig) : PolicyBuilder :=
  { config }

/-- Fails if the builder is closed. -/
def ensureOpen (b : PolicyBuilder) : Except Failure Unit :=
  if b.closed then .error (Failure.ofCause (.policyFrozen (.text b.config.name)))
  else .ok ()

def addRule (b : PolicyBuilder) (r : Rule) : Except Failure PolicyBuilder := do
  b.ensureOpen
  return { b with rules := b.rules ++ [r] }

def addRules (b : PolicyBuilder) (rules : List Rule) : Except Failure PolicyBuilder :=
  rules.foldlM addRule b

/-- Registers the type of an object; the first one given for a name stays. -/
def addSchema (b : PolicyBuilder) (object : String) (schema : Value) :
    Except Failure PolicyBuilder := do
  b.ensureOpen
  if (b.schemas.lookup object).isSome then return b
  else return { b with schemas := b.schemas ++ [(object, schema)] }

/-- Enters the block of an object, registering its type if one is given. -/
def enterObject (b : PolicyBuilder) (object : String) (schema : Value) :
    Except Failure PolicyBuilder := do
  b.ensureOpen
  match schema with
  | .null => return b
  | s => b.addSchema object s

/-- The named values that an action definition may give. -/
def actionFields : List String := ["allow", "deny", "pre_hooks", "metadata", "description"]

/-- The names of actions: one text, or the items of a sequence. -/
def actionNames (names : Value) : Except Failure (List Value) :=
  match names.text? with
  | some _ => .ok [names]
  | none =>
      match names.parts? with
      | some items => .ok items
      | none => .error .wrongType

/-- The rule for an action of an object; what is not given is empty. -/
def actionRule (object : String) (given : Fields) (action : Value) : Except Failure Rule :=
  Rule.build
    ([("object", .text object), ("action", action)] ++
      actionFields.map fun f => (f, (Fields.get? given f).getD .null))

/-- The rules for some actions of an object that share their conditions. -/
def actionRules (object : String) (names : Value) (given : Fields) :
    Except Failure (List Rule) := do
  if given.any (fun f => !actionFields.contains f.1) then .error .wrongType
  else
    let names ← actionNames names
    names.mapM (actionRule object given)

/-- Defines actions of an object: either all rules are added or none. -/
def action (b : PolicyBuilder) (object : String) (names : Value) (given : Fields) :
    Except Failure (PolicyBuilder × List Rule) := do
  let rules ← actionRules object names given
  let b ← b.addRules rules
  return (b, rules)

/-- Builds the policy and closes the builder. -/
def build (env : Environment) (b : PolicyBuilder) : Except Failure (Policy × PolicyBuilder) := do
  b.ensureOpen
  let p ← Policy.ofRules env b.rules b.config b.schemas
  return (p, { b with closed := true })

/-- The settings of a document; a check module given beside it wins over its own. -/
def configOfDocument (d : PolicyDocument) (checkModule : Value) : Except Failure PolicyConfig :=
  let module :=
    match checkModule with
    | .null => Value.ofOptionalText d.checkModule
    | m => m
  PolicyConfig.build
    [("name", .text d.name), ("check_module", module), ("error_reason", d.errorReason),
      ("error_message", .text d.errorMessage)]

/-- Registers the types that a document names by path. -/
def addSchemaPaths (env : Environment) :
    PolicyBuilder → List (String × ObjectDefinition) → Except Failure PolicyBuilder
  | b, [] => .ok b
  | b, (object, definition) :: rest => do
      match definition.schemaPath with
      | none => addSchemaPaths env b rest
      | some path =>
          if path.isEmpty then addSchemaPaths env b rest
          else
            let schema ← env.importPath path
            let b ← b.addSchema object schema
            addSchemaPaths env b rest

/-- A builder with the rules and types of a document. -/
def ofDocument (env : Environment) (d : PolicyDocument) (checkModule : Value) :
    Except Failure PolicyBuilder := do
  let config ← configOfDocument d checkModule
  let b ← addSchemaPaths env (new config) d.objects
  let rules ← d.toRules
  b.addRules rules

end PolicyBuilder

/-- Builds a policy from a document. -/
def Policy.ofDocument (env : Environment) (d : PolicyDocument) (checkModule : Value) :
    Except Failure Policy := do
  let b ← PolicyBuilder.ofDocument env d checkModule
  let (p, _) ← b.build env
  return p

end AccessPolicy
