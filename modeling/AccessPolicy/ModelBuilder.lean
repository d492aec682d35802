import AccessPolicy.Document
import AccessPolicy.PolicyConfig

/-!
# Building models by kind

`Model.build` makes a value of any model from named values, and `Model.assign` refuses
to change one: the fields of a model never change after it is built.
-/

namespace AccessPolicy
namespace Model

/-- The verdict on the fields of a model of any kind. -/
def read (m : Model) (input : Entries) : Verdict Value :=
  match m with
  | .literalCheck => Check.toValue <$> Check.readLiteral input
  | .namedCheck => Check.toValue <$> Check.readNamed input
  | .argCheck => Check.toValue <$> Check.readWithArg input
  | .namedHook => Hook.toValue <$> Hook.readNamed input
  | .moduleHook => Hook.toValue <$> Hook.readInModule input
  | .moduleArgsHook => Hook.toValue <$> Hook.readInModuleWith input
  | .rule => Rule.toValue <$> Rule.read input
  | .policyConfig => PolicyConfig.toValue <$> PolicyConfig.read input
  | .authorizationResult => AuthorizationResult.toValue <$> AuthorizationResult.read input
  | .actionDefinition => ActionDefinition.toValue <$> ActionDefinition.readFields input
  | .objectDefinition => ObjectDefinition.toValue <$> ObjectDefinition.readFields input
  | .policyDocument => PolicyDocument.toValue <$> PolicyDocument.readFields input

/-- A model of any kind as a value. -/
def build (m : Model) (input : Fields) : Except Failure Value :=
  (m.read (Value.textEntries input)).toExcept m.name

/-- Sets a member of a finished model: a field is refused, and a member with a hidden name
changes nothing that is seen. -/
def assign (m : Model) (built : Value) (name : String) : Except Failure Value :=
  if name = "__class__" ∨ name = "__dict__" then .error .wrongType
  else if name.startsWith "_" then .ok built
  else .error (.invalid ⟨m.name, [⟨.frozen, [.name name]⟩]⟩)

end Model
end AccessPolicy
