import AccessPolicy.Fault.Basic

/-!
# Faults by name

A fault can be made from the name of its cause and named values: the message, code,
suggestion and context that every fault has, and the details of the cause.  A name that
belongs to neither is refused.
-/

namespace AccessPolicy

namespace Cause

/-- The cause of a name with details given by name; one that is missing is empty. -/
def ofDetails? (title : String) (given : Fields) : Option Cause :=
  let text := fun name => (Fields.get? given name).getD (.text "")
  let list := fun name => (Fields.get? given name).getD (.list [])
  let value := fun name => (Fields.get? given name).getD .null
  [.general,
    .unauthorized (text "rule") (value "reason"),
    .ruleNotFound (text "rule"),
    .definition (text "policy"),
    .duplicateRule (text "policy") (list "duplicates"),
    .duplicateCheck (text "policy") (text "object") (text "action") (text "field_name")
      (list "checks"),
    .unknownCheck (text "policy") (text "check") (text "rule") (text "module"),
    .unknownHook (text "policy") (text "hook") (text "rule") (text "module"),
    .invalidHookArgs (text "policy") (text "hook") (value "args"),
    .invalidHookResult (text "hook") (text "result_type"),
    .policyFrozen (text "policy"),
    .invalidFilter (text "option"),
    .redaction (text "type_name"),
    .notRedactable (text "type_name"),
    .redactionTypeMismatch (text "type_name") (text "field_name") (text "expected")].find?
    fun c => c.title == title

end Cause

namespace Fault

/-- The names that every fault has. -/
def commonNames : List String := ["message", "code", "suggestion", "context"]

/-- The fault of a named cause; a given name must belong to such faults. -/
def ofFields (title : String) (given : Fields) : Except Flaw Fault :=
  match Cause.ofDetails? title given with
  | none => .error .wrongType
  | some cause =>
      let names := commonNames ++ cause.details.map (·.1)
      if given.any (fun f => !names.contains f.1) then .error .wrongType
      else
        let standard : Overrides := {}
        make cause
          { message := (Fields.get? given "message").getD standard.message
            code := (Fields.get? given "code").getD standard.code
            suggestion := (Fields.get? given "suggestion").getD standard.suggestion
            context := (Fields.get? given "context").getD standard.context }

end Fault
end AccessPolicy
