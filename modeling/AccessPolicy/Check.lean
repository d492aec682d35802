import AccessPolicy.Validation

/-!
# Checks

A check is a constant, a function of subject and object, or a function of subject,
object and one argument.  Rules combine checks into groups: all checks of a group
must pass, and one passing group is enough.
-/

namespace AccessPolicy

/-- A single check of a rule. -/
inductive Check where
  | literal (value : Bool)
  | named (name : String)
  | withArg (name : String) (arg : Value)
deriving Repr

/-- Checks that must all pass. -/
abbrev Group := List Check

namespace Check

def model : Check → Model
  | .literal _ => .literalCheck
  | .named _ => .namedCheck
  | .withArg _ _ => .argCheck

def toValue : Check → Value
  | .literal b => .object (.schema .literalCheck) [("value", .bool b)]
  | .named n => .object (.schema .namedCheck) [("name", .text n)]
  | .withArg n v => .object (.schema .argCheck) [("name", .text n), ("arg", v)]

/-- The check that a value is. -/
def ofValue? : Value → Option Check
  | .object (.schema .literalCheck) [(_, .bool b)] => some (.literal b)
  | .object (.schema .namedCheck) [(_, .text n)] => some (.named n)
  | .object (.schema .argCheck) [(_, .text n), (_, v)] => some (.withArg n v)
  | _ => none

/-- The function that a check calls. -/
def name? : Check → Option String
  | .literal _ => none
  | .named n => some n
  | .withArg n _ => some n

/-- The short text of a check. -/
def display (c : Check) : String :=
  c.toValue.display

/-- Whether two checks are the same, arguments being compared as data. -/
def agrees : Check → Check → Bool
  | .literal a, .literal b => a == b
  | .named m, .named n => m == n
  | .withArg m v, .withArg n w => m == n && v.isSame w
  | _, _ => false

/-- A constant check from the fields of its model. -/
def readLiteral (input : Entries) : Verdict Check :=
  Check.literal <$> Verdict.required input "value" Verdict.bool
    <* Verdict.noOthers input ["value"]

/-- A check without argument from the fields of its model. -/
def readNamed (input : Entries) : Verdict Check :=
  Check.named <$> Verdict.required input "name" Verdict.name
    <* Verdict.noOthers input ["name"]

/-- A check with an argument from the fields of its model. -/
def readWithArg (input : Entries) : Verdict Check :=
  Check.withArg <$> Verdict.required input "name" Verdict.name
    <*> Verdict.optional input "arg" .null Verdict.anything
    <* Verdict.noOthers input ["name", "arg"]

@[simp] theorem ofValue?_toValue (c : Check) : ofValue? c.toValue = some c := by
  cases c <;> rfl

end Check
end AccessPolicy
