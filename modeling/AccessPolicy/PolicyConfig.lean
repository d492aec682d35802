import AccessPolicy.Validation

/-!
# Settings and results of a policy

A policy has a name, a check module in which checks and hooks are found, and the
reason and message that it gives on a refusal.  A request that asks for more than
yes or no gets an `AuthorizationResult`.
-/

namespace AccessPolicy

/-- The settings of a policy. -/
structure PolicyConfig where
  name : String := "policy"
  checkModule : Value := .null
  errorReason : Value := .text "unauthorized"
  errorMessage : String := "unauthorized"
deriving Repr

namespace PolicyConfig

def toValue (c : PolicyConfig) : Value :=
  .object (.schema .policyConfig)
    [("name", .text c.name), ("check_module", c.checkModule), ("error_reason", c.errorReason),
      ("error_message", .text c.errorMessage)]

/-- Reads settings; what is not given keeps its default. -/
def read (input : Entries) : Verdict PolicyConfig :=
  PolicyConfig.mk <$> Verdict.optional input "name" "policy" Verdict.name
    <*> Verdict.optional input "check_module" .null Verdict.anything
    <*> Verdict.optional input "error_reason" (.text "unauthorized") Verdict.anything
    <*> Verdict.optional input "error_message" "unauthorized" Verdict.text
    <* Verdict.noOthers input ["name", "check_module", "error_reason", "error_message"]

def build (input : Fields) : Except Failure PolicyConfig :=
  (read (Value.textEntries input)).toExcept Model.policyConfig.name

end PolicyConfig

/-- The result of a request with its reason. -/
structure AuthorizationResult where
  allowed : Bool
  reason : Value
  rule : String
  decision : Decision
deriving Repr

namespace AuthorizationResult

/-- The result of a request that is allowed. -/
def ok (rule : String) : AuthorizationResult :=
  ⟨true, .null, rule, .allowed⟩

/-- The result of a request that is not allowed. -/
def refusal (reason : Value) (rule : String) (decision : Decision) : AuthorizationResult :=
  ⟨false, reason, rule, decision⟩

def toValue (r : AuthorizationResult) : Value :=
  .object (.schema .authorizationResult)
    [("allowed", .bool r.allowed), ("reason", r.reason), ("rule", .text r.rule),
      ("decision", .tag (.decision r.decision))]

def read (input : Entries) : Verdict AuthorizationResult :=
  AuthorizationResult.mk <$> Verdict.required input "allowed" Verdict.bool
    <*> Verdict.optional input "reason" .null Verdict.anything
    <*> Verdict.required input "rule" Verdict.text
    <*> Verdict.required input "decision" Verdict.decision
    <* Verdict.noOthers input ["allowed", "reason", "rule", "decision"]

/-- Builds a result from named values. -/
def build (input : Fields) : Except Failure AuthorizationResult :=
  (read (Value.textEntries input)).toExcept Model.authorizationResult.name

end AuthorizationResult
end AccessPolicy
