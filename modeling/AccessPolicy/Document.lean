import AccessPolicy.Rule

/-!
# Policy documents

A document declares a whole policy as data: settings, and for every object its
actions.  Conditions, hooks and metadata stay in shorthand until rules are made of
them, so that a document can be valid while one of its rules is not.
-/

namespace AccessPolicy

/-- One action of an object in a document. -/
structure ActionDefinition where
  description : Option String
  allow : Value
  deny : Value
  preHooks : Value
  metadata : Value
deriving Repr

/-- One object in a document. -/
structure ObjectDefinition where
  schemaPath : Option String
  actions : List (String × ActionDefinition)
deriving Repr

/-- A policy as data. -/
structure PolicyDocument where
  name : String
  checkModule : Option String
  errorReason : Value
  errorMessage : String
  objects : List (String × ObjectDefinition)
deriving Repr

namespace ActionDefinition

/-- An action definition as a value. -/
def toValue (a : ActionDefinition) : Value :=
  .object (.schema .actionDefinition)
    [("description", Value.ofOptionalText a.description), ("allow", a.allow), ("deny", a.deny),
      ("pre_hooks", a.preHooks), ("metadata", a.metadata)]

/-- The action definition that a value is. -/
def ofValue? : Value → Option ActionDefinition
  | .object (.schema .actionDefinition)
      [(_, description), (_, allow), (_, deny), (_, hooks), (_, metadata)] =>
      some ⟨description.text?, allow, deny, hooks, metadata⟩
  | _ => none

/-- Reads the fields of an action definition. -/
def readFields (input : Entries) : Verdict ActionDefinition :=
  ActionDefinition.mk <$> Verdict.optional input "description" none Verdict.optionalText
    <*> Verdict.optional input "allow" (.list []) Verdict.anything
    <*> Verdict.optional input "deny" (.list []) Verdict.anything
    <*> Verdict.optional input "pre_hooks" (.list []) Verdict.anything
    <*> Verdict.optional input "metadata" (.list []) Verdict.anything
    <* Verdict.noOthers input ["description", "allow", "deny", "pre_hooks", "metadata"]

/-- Reads an action definition: itself or a map of its fields. -/
def read (v : Value) : Verdict ActionDefinition :=
  match ofValue? v, v.entries? with
  | some a, _ => .accepted a
  | none, some entries => readFields entries
  | none, none => Verdict.problem .modelExpected

end ActionDefinition

namespace ObjectDefinition

/-- An object definition as a value. -/
def toValue (o : ObjectDefinition) : Value :=
  .object (.schema .objectDefinition)
    [("schema_path", Value.ofOptionalText o.schemaPath),
      ("actions", Value.ofFields (o.actions.map fun a => (a.1, a.2.toValue)))]

/-- The actions of a map from names to action definitions. -/
def actionsOf? : Entries → Option (List (String × ActionDefinition))
  | [] => some []
  | (.text n, v) :: rest =>
      match ActionDefinition.ofValue? v, actionsOf? rest with
      | some a, some more => some ((n, a) :: more)
      | _, _ => none
  | _ => none

/-- The object definition that a value is. -/
def ofValue? : Value → Option ObjectDefinition
  | .object (.schema .objectDefinition) [(_, path), (_, .map _ actions)] =>
      (actionsOf? actions).map fun as => ⟨path.text?, as⟩
  | _ => none

/-- The name under which a map gives the schema path: the short one wins. -/
def pathField (input : Entries) : String :=
  if (Entries.getText? input "schema").isNone && (Entries.getText? input "schema_path").isSome
  then "schema_path"
  else "schema"

/-- Reads the fields of an object definition. -/
def readFields (input : Entries) : Verdict ObjectDefinition :=
  ObjectDefinition.mk <$> Verdict.optional input (pathField input) none Verdict.optionalText
    <*> Verdict.optional input "actions" [] (Verdict.mapOf ActionDefinition.read)
    <* Verdict.noOthers input [pathField input, "actions"]

/-- Reads an object definition: itself or a map of its fields. -/
def read (v : Value) : Verdict ObjectDefinition :=
  match ofValue? v, v.entries? with
  | some o, _ => .accepted o
  | none, some entries => readFields entries
  | none, none => Verdict.problem .modelExpected

end ObjectDefinition

namespace PolicyDocument

def toValue (d : PolicyDocument) : Value :=
  .object (.schema .policyDocument)
    [("name", .text d.name), ("check_module", Value.ofOptionalText d.checkModule),
      ("error_reason", d.errorReason), ("error_message", .text d.errorMessage),
      ("objects", Value.ofFields (d.objects.map fun o => (o.1, o.2.toValue)))]

/-- The objects of a map from names to object definitions. -/
def objectsOf? : Entries → Option (List (String × ObjectDefinition))
  | [] => some []
  | (.text n, v) :: rest =>
      match ObjectDefinition.ofValue? v, objectsOf? rest with
      | some o, some more => some ((n, o) :: more)
      | _, _ => none
  | _ => none

/-- The document that a value is. -/
def ofValue? : Value → Option PolicyDocument
  | .object (.schema .policyDocument)
      [(_, .text name), (_, module), (_, reason), (_, .text message), (_, .map _ objects)] =>
      (objectsOf? objects).map fun os => ⟨name, module.text?, reason, message, os⟩
  | _ => none

/-- The fields of a document in order. -/
def fieldNames : List String :=
  ["name", "check_module", "error_reason", "error_message", "objects"]

/-- Reads the fields of a document. -/
def readFields (input : Entries) : Verdict PolicyDocument :=
  PolicyDocument.mk <$> Verdict.optional input "name" "policy" Verdict.name
    <*> Verdict.optional input "check_module" none Verdict.optionalText
    <*> Verdict.optional input "error_reason" (.text "unauthorized") Verdict.anything
    <*> Verdict.optional input "error_message" "unauthorized" Verdict.text
    <*> Verdict.optional input "objects" [] (Verdict.mapOf ObjectDefinition.read)
    <* Verdict.noOthers input fieldNames

/-- Reads a document: itself or a map of its fields. -/
def read (v : Value) : Verdict PolicyDocument :=
  match ofValue? v, v.entries? with
  | some d, _ => .accepted d
  | none, some entries => readFields entries
  | none, none => Verdict.problem .modelExpected

def validate (v : Value) : Except Failure PolicyDocument :=
  (read v).toExcept Model.policyDocument.name

/-- The named values of the rule for one action of an object. -/
def ruleFields (object action : String) (a : ActionDefinition) : Fields :=
  [("object", .text object), ("action", .text action), ("allow", a.allow), ("deny", a.deny),
    ("pre_hooks", a.preHooks), ("metadata", a.metadata),
    ("description", Value.ofOptionalText a.description)]

/-- The rules of one object, in order. -/
def rulesOfObject (object : String) (o : ObjectDefinition) : Except Failure (List Rule) :=
  o.actions.mapM fun a => Rule.build (ruleFields object a.1 a.2)

/-- The rules of a document, in order; the first action without a valid rule fails. -/
def toRules (d : PolicyDocument) : Except Failure (List Rule) := do
  let rules ← d.objects.mapM fun o => rulesOfObject o.1 o.2
  return rules.flatten

end PolicyDocument
end AccessPolicy
