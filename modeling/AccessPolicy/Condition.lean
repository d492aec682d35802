import AccessPolicy.Check
import AccessPolicy.Environment

/-!
# Conditions

The groups of a rule are bound to functions once, when a policy is built, and
evaluated for every request.

**Binding.**  `Condition.bind` finds the function of every check that calls one, in
the order in which the checks are written, and fails at the first that has none.

**Evaluation.**  Groups are tried in order and the first passing group wins; inside a
group the first failing check ends it.  A group without checks never passes.
-/

namespace AccessPolicy

/-- A check and what it calls; a constant check calls nothing. -/
structure BoundCheck where
  check : Check
  function : Option Value
deriving Repr

/-- Bound checks that must all pass. -/
abbrev BoundGroup := List BoundCheck

/-- The arguments of a check's function. -/
def Check.arguments (subject object : Value) : Check → List Value
  | .withArg _ arg => [subject, object, arg]
  | _ => [subject, object]

namespace BoundCheck

/-- Runs a check on subject and object. -/
def run (env : Environment) (subject object : Value) (c : BoundCheck) : Run Bool :=
  match c.check, c.function with
  | .literal b, _ => .result b
  | check, some f => do
      let v ← env.callValue f (check.arguments subject object)
      return v.isTrue
  | _, none => .fail .wrongType

end BoundCheck

namespace Condition

section Binding

variable (env : Environment) (module : Value) (rule policy : String)

/-- The failure of a check without a function, which tells the module where none was found,
if that can be written. -/
def unknownCheck (name : String) : Failure :=
  if module.moduleLabel.isWritable then
    Failure.ofCause (.unknownCheck (.text policy) (.text name) (.text rule) module.moduleLabel)
  else .unwritable

/-- Finds the function of one check. -/
def bindCheck (c : Check) : Except Failure BoundCheck :=
  match c.name? with
  | none => .ok ⟨c, none⟩
  | some name => do
      match ← env.resolve module name with
      | some f => .ok ⟨c, some f⟩
      | none => .error (unknownCheck module rule policy name)

/-- Finds the functions of all checks of some groups. -/
def bind (groups : List Group) : Except Failure (List BoundGroup) :=
  groups.mapM fun g => g.mapM (bindCheck env module rule policy)

end Binding

section Evaluation

variable (env : Environment) (subject object : Value)

/-- Whether all checks of a group pass; nothing after a failing check is run. -/
def allPass : BoundGroup → Run Bool
  | [] => .result true
  | c :: rest => do
      if ← c.run env subject object then allPass rest
      else .result false

/-- Whether some group with checks passes; nothing after a passing group is run. -/
def evaluate : List BoundGroup → Run Bool
  | [] => .result false
  | [] :: rest => evaluate rest
  | (c :: cs) :: rest => do
      if ← allPass env subject object (c :: cs) then .result true
      else evaluate rest

end Evaluation

end Condition
end AccessPolicy
