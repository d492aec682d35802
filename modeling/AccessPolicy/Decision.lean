/-!
# Decisions

The outcome of a request.  A rule that does not exist is kept apart from a
denial, so that a mistyped rule name can be told from a refusal.
-/

namespace AccessPolicy

/-- The outcome of deciding a request. -/
inductive Decision where
  | allowed
  | denied
  | ruleNotFound
deriving DecidableEq, Repr, Inhabited

namespace Decision

/-- The text that stands for a decision. -/
def text : Decision → String
  | .allowed => "allowed"
  | .denied => "denied"
  | .ruleNotFound => "rule_not_found"

/-- The member name of a decision. -/
def memberName : Decision → String
  | .allowed => "ALLOWED"
  | .denied => "DENIED"
  | .ruleNotFound => "RULE_NOT_FOUND"

/-- Reads the text of a decision. -/
def ofText? (s : String) : Option Decision :=
  [allowed, denied, ruleNotFound].find? (fun d => d.text == s)

end Decision
end AccessPolicy
