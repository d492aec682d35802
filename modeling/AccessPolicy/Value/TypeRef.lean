/-!
# Types of values

A type is built in, is one of the schema models of this library, or is declared
by a host program.  Types form chains: `TypeRef.lineage` lists a type and its
bases from the nearest to the most general one, and a value is an instance of a
type exactly if that type lies in the lineage of the value's own type.
-/

namespace AccessPolicy

/-- Types that need no declaration. -/
inductive Builtin where
  | object
  | null
  | bool
  | int
  | float
  | text
  | marker
  | decision
  | bytes
  | list
  | tuple
  | set
  | map
  | orderedMap
  | defaultMap
  | mapView
  | readOnlyMap
  | notLoaded
  | model
  | type
  | modelType
  | abstractType
  | closedType
  | function
  | method
  | functionTable
  | module
  | date
  | timestamp
  | undecided
deriving DecidableEq, Repr

/-- The models of this library that also occur as values. -/
inductive Model where
  | literalCheck
  | namedCheck
  | argCheck
  | namedHook
  | moduleHook
  | moduleArgsHook
  | rule
  | policyConfig
  | authorizationResult
  | actionDefinition
  | objectDefinition
  | policyDocument
deriving DecidableEq, Repr

/-- How the instances of a declared type are built. -/
inductive Kind where
  | plain
  | model
  | record
  | map
  | readOnlyMap
  | notLoaded
deriving DecidableEq, Repr

/--
A reference to a type.  A declared type has its own fields, the text that its
instances answer to as a class-wide `name`, a base, and may bring a redaction callback.
-/
inductive TypeRef where
  | builtin (b : Builtin)
  | schema (m : Model)
  | declared
      (name : String)
      (kind : Kind)
      (ownFields : List String)
      (label : Option String)
      (isRedactable : Bool)
      (base : TypeRef)
deriving DecidableEq, Repr

namespace Builtin

/-- The name of a built-in type. -/
def name : Builtin → String
  | .object => "object"
  | .null => "NoneType"
  | .bool => "bool"
  | .int => "int"
  | .float => "float"
  | .text => "str"
  | .marker => "RedactedValue"
  | .decision => "Decision"
  | .bytes => "bytes"
  | .list => "list"
  | .tuple => "tuple"
  | .set => "set"
  | .map => "dict"
  | .orderedMap => "OrderedDict"
  | .defaultMap => "defaultdict"
  | .mapView => "mappingproxy"
  | .readOnlyMap => "Mapping"
  | .notLoaded => "NotLoaded"
  | .model => "BaseModel"
  | .type => "type"
  | .modelType => "ModelMetaclass"
  | .abstractType => "ABCMeta"
  | .closedType => "EnumType"
  | .function => "function"
  | .method => "builtin_function_or_method"
  | .functionTable => "CheckRegistry"
  | .module => "module"
  | .date => "date"
  | .timestamp => "datetime"
  | .undecided => "NotImplementedType"

/-- The built-in types with a name of their own in declarations and registries. -/
def named : List Builtin :=
  [.map, .list, .tuple, .text, .int, .bool, .float, .object, .orderedMap, .defaultMap,
    .mapView, .notLoaded]

/-- The bases of a built-in type, nearest first. -/
def bases : Builtin → List Builtin
  | .object => []
  | .bool => [.int, .object]
  | .marker => [.text, .object]
  | .decision => [.text, .object]
  | .orderedMap => [.map, .object]
  | .defaultMap => [.map, .object]
  | .timestamp => [.date, .object]
  | .modelType => [.abstractType, .type, .object]
  | .abstractType => [.type, .object]
  | .closedType => [.type, .object]
  | _ => [.object]

end Builtin

namespace Model

def name : Model → String
  | .literalCheck => "LiteralCheck"
  | .namedCheck => "NamedCheck"
  | .argCheck => "ArgCheck"
  | .namedHook => "NamedHook"
  | .moduleHook => "ModuleHook"
  | .moduleArgsHook => "ModuleArgsHook"
  | .rule => "Rule"
  | .policyConfig => "PolicyConfig"
  | .authorizationResult => "AuthorizationResult"
  | .actionDefinition => "ActionDefinition"
  | .objectDefinition => "ObjectDefinition"
  | .policyDocument => "PolicyDocument"

def all : List Model :=
  [.literalCheck, .namedCheck, .argCheck, .namedHook, .moduleHook, .moduleArgsHook, .rule,
    .policyConfig, .authorizationResult, .actionDefinition, .objectDefinition, .policyDocument]

end Model

namespace TypeRef

def name : TypeRef → String
  | .builtin b => b.name
  | .schema m => m.name
  | .declared n .. => n

/-- A type and its bases, nearest first. -/
def lineage : TypeRef → List TypeRef
  | .builtin b => .builtin b :: b.bases.map .builtin
  | .schema m => [.schema m, .builtin .model, .builtin .object]
  | .declared n k fs l r base => .declared n k fs l r base :: base.lineage

/-- Whether the instances of the first type are instances of the second. -/
def isSubtypeOf (t u : TypeRef) : Bool :=
  t.lineage.contains u

/-- The fields of a declared type, those of its bases first. -/
def fields : TypeRef → List String
  | .builtin .notLoaded => ["field"]
  | .builtin _ => []
  | .schema _ => []
  | .declared _ _ own _ _ base =>
      base.fields ++ own.filter (fun f => !base.fields.contains f)

/-- The class-wide `name` that a type hands to its instances. -/
def label? : TypeRef → Option String
  | .declared _ _ _ (some l) _ _ => some l
  | .declared _ _ _ none _ base => base.label?
  | _ => none

/-- The built-in type at the end of a type's chain of bases. -/
def root : TypeRef → TypeRef
  | .declared _ _ _ _ _ base => base.root
  | t => t

/-- The type of a type: models, types with abstract parts and closed sets have their own. -/
def metatype : TypeRef → Builtin
  | .schema _ => .modelType
  | .builtin .model => .modelType
  | .builtin .readOnlyMap => .abstractType
  | .builtin .marker => .closedType
  | .builtin .decision => .closedType
  | .builtin _ => .type
  | .declared _ kind _ _ isRedactable base =>
      if kind = .model then .modelType
      else if isRedactable && base.metatype = .type then .abstractType
      else base.metatype

/-- The full name of a type. -/
def fullName : TypeRef → String
  | .builtin .orderedMap => "collections.OrderedDict"
  | .builtin .defaultMap => "collections.defaultdict"
  | .builtin .notLoaded => "warden.redaction.NotLoaded"
  | .builtin .functionTable => "warden.policy.checks.CheckRegistry"
  | .builtin .date => "datetime.date"
  | .builtin .timestamp => "datetime.datetime"
  | .schema m => "warden.schema." ++ m.name
  | t => t.name

/-- The base of a declared type of some kind that names no other base. -/
def baseOfKind : Kind → TypeRef
  | .plain => .builtin .object
  | .model => .builtin .model
  | .record => .builtin .object
  | .map => .builtin .map
  | .readOnlyMap => .builtin .readOnlyMap
  | .notLoaded => .builtin .notLoaded

end TypeRef
end AccessPolicy
