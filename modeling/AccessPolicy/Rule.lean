import AccessPolicy.Shorthand

/-!
# Rules

A rule says when an action on an object is allowed: its deny groups win over its
allow groups, and its hooks run before both.  The name of a rule is made of object
and action unless it is given.

`Rule.read` builds a rule from data in which conditions, hooks and metadata are
written in shorthand.
-/

namespace AccessPolicy

/-- An authorization rule. -/
structure Rule where
  object : String
  action : String
  name : String
  allow : List Group
  deny : List Group
  preHooks : List Hook
  metadata : Fields
  description : Option String
deriving Repr

/-- An optional text as a value. -/
def Value.ofOptionalText : Option String → Value
  | some s => .text s
  | none => .null

/-- Groups of checks as a value. -/
def Value.ofGroups (groups : List Group) : Value :=
  .tuple (groups.map fun g => .tuple (g.map Check.toValue))

def Value.ofHooks (hooks : List Hook) : Value :=
  .tuple (hooks.map Hook.toValue)

/-- Pairs of metadata as a value. -/
def Value.ofPairs (pairs : Entries) : Value :=
  .tuple (pairs.map fun p => .tuple [p.1, p.2])

namespace Rule

def toValue (r : Rule) : Value :=
  .object (.schema .rule)
    [("object", .text r.object), ("action", .text r.action), ("name", .text r.name),
      ("allow", Value.ofGroups r.allow), ("deny", Value.ofGroups r.deny),
      ("pre_hooks", Value.ofHooks r.preHooks),
      ("metadata", Value.ofPairs (Value.textEntries r.metadata)),
      ("description", Value.ofOptionalText r.description)]

/-- The fields of a rule in order. -/
def fieldNames : List String :=
  ["object", "action", "name", "allow", "deny", "pre_hooks", "metadata", "description"]

/-- Puts the name made of object and action where none is given. -/
def withDefaultName (input : Entries) : Entries :=
  if ((Entries.getText? input "name").getD .null).isTrue then input
  else
    let part := fun field => ((Entries.getText? input field).getD .null).display
    Entries.set input (.text "name") (.text (part "object" ++ "_" ++ part "action"))

/-- Reads groups of checks in shorthand. -/
def readConditions (v : Value) : Verdict (List Group) :=
  Verdict.ofConversion (Shorthand.conditions v)

def readHooks (v : Value) : Verdict (List Hook) :=
  Verdict.ofConversion (Shorthand.hooks v)

/-- The pairs of metadata whose keys are texts; places count from `i`. -/
def readPairs (i : Nat) : Entries → Verdict Fields
  | [] => .accepted []
  | (k, v) :: rest =>
      (fun key pairs => (key, v) :: pairs) <$>
        Verdict.under (.index i) (Verdict.under (.index 0) (Verdict.text k))
        <*> readPairs (i + 1) rest

def readMetadata (v : Value) : Verdict Fields :=
  match Verdict.ofConversion (Shorthand.metadata v) with
  | .accepted pairs => readPairs 0 pairs
  | .rejected ps => .rejected ps
  | .aborted f => .aborted f

/-- Reads a rule whose name is already in place. -/
def readNamed (input : Entries) : Verdict Rule :=
  Rule.mk <$> Verdict.required input "object" Verdict.name
    <*> Verdict.required input "action" Verdict.name
    <*> Verdict.required input "name" Verdict.name
    <*> Verdict.optional input "allow" [] readConditions
    <*> Verdict.optional input "deny" [] readConditions
    <*> Verdict.optional input "pre_hooks" [] readHooks
    <*> Verdict.optional input "metadata" [] readMetadata
    <*> Verdict.optional input "description" none Verdict.optionalText
    <* Verdict.noOthers input fieldNames

def read (input : Entries) : Verdict Rule :=
  readNamed (withDefaultName input)

/-- Builds a rule from named values. -/
def build (input : Fields) : Except Failure Rule :=
  (read (Value.textEntries input)).toExcept Model.rule.name

/-- Whether two rules are the same, values being compared as data. -/
def agrees (r r' : Rule) : Bool :=
  r.toValue.agrees r'.toValue

end Rule
end AccessPolicy
