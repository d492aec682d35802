import AccessPolicy.Condition
import AccessPolicy.Hydration
import AccessPolicy.RuleTable.Duplicates

/-!
# Tables of rules

A table holds the rules of a policy with their checks and hooks bound to functions.
It is built once from a list of rules.  Building fails, in this order of precedence,
for rules that share an object and action or a name, for groups that repeat a check,
and for checks and hooks without a function.
-/

namespace AccessPolicy

/-- A rule with everything bound. -/
structure CompiledRule where
  rule : Rule
  allow : List BoundGroup
  deny : List BoundGroup
  preHooks : List BoundHook
deriving Repr

/-- The compiled rules of a policy, in the order of definition. -/
structure RuleTable where
  compiled : List CompiledRule
deriving Repr

namespace CompiledRule

/-- The name of a compiled rule. -/
def name (c : CompiledRule) : String :=
  c.rule.name

/-- Binds the checks and hooks of a rule. -/
def ofRule (env : Environment) (module : Value) (policy : String) (r : Rule) :
    Except Failure CompiledRule := do
  let allow ← Condition.bind env module r.name policy r.allow
  let deny ← Condition.bind env module r.name policy r.deny
  let hooks ← Hydration.bind env module r.name policy r.preHooks
  return ⟨r, allow, deny, hooks⟩

end CompiledRule

namespace RuleTable

/-- Validates and binds a list of rules. -/
def ofRules (env : Environment) (rules : List Rule) (module : Value) (policy : String) :
    Except Failure RuleTable := do
  Duplicates.inRules policy rules
  rules.forM (Duplicates.inRule policy)
  let compiled ← rules.mapM (CompiledRule.ofRule env module policy)
  return ⟨compiled⟩

/-- The compiled rule of a name. -/
def get? (t : RuleTable) (name : String) : Option CompiledRule :=
  t.compiled.find? fun c => c.name == name

/-- The rules of a table, in the order of definition. -/
def rules (t : RuleTable) : List Rule :=
  t.compiled.map CompiledRule.rule

/-- The names of the rules of a table, in the order of definition. -/
def names (t : RuleTable) : List String :=
  t.compiled.map CompiledRule.name

def size (t : RuleTable) : Nat :=
  t.compiled.length

def inspect (t : RuleTable) : String :=
  "<RuleRegistry: " ++ Value.bracketed "[" "]" t.names ++ ">"

end RuleTable
end AccessPolicy
