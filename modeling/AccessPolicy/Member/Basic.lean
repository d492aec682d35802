import AccessPolicy.Member.Names
import AccessPolicy.Value.Display

/-!
# Members that every value has

Beside the members that a host program declares, every value has members that come with its
type: methods, and data such as the type itself or the parts of a number.
`Value.givenMember?` finds them.

**Own members first.**  What a value or its declared type defines under the same name wins;
these members are what is left then.
-/

namespace AccessPolicy
namespace Value

/-- The fields of a value that keeps them in a map of its own. -/
def fieldMap? (v : Value) : Option Value :=
  match v with
  | .object _ fields => some (.ofFields fields)
  | .entity _ _ fields => some (.ofFields fields)
  | .module r members =>
      match r.form with
      | .file => some (.ofFields (Fields.set members "__name__" (.text r.name)))
      | _ => some (.ofFields members)
  | .type (.declared ..) => some (.ofFields [])
  | .function _ => some (.ofFields [])
  | .map (.declared ..) _ => some (.ofFields [])
  | .map (.builtin .orderedMap) _ => some (.ofFields [])
  | _ => none

/-- Whether a value belongs to a type that a program declares. -/
def isDeclared (v : Value) : Bool :=
  match v.typeOf with
  | .declared .. => true
  | .schema _ => true
  | .builtin b => b = .notLoaded || b = .marker || b = .decision

/-- The type of a value as a value. -/
def typeValue (v : Value) : Value :=
  match v with
  | .module r _ => if r.form = .typeForm then .type (.builtin .type) else .type v.typeOf
  | v => .type v.typeOf

/-- Members that hold data about the type of a value. -/
def commonData? (v : Value) (name : String) : Option Value :=
  match name with
  | "__class__" => some v.typeValue
  | "__doc__" =>
      match v with
      | .object (.schema _) _ => some (.text "")
      | .object _ _ => if showsFields v.typeOf && v.typeOf.root != .builtin .model then
          some (.text v.typeName) else some .null
      | .entity .. => some .null
      | .module .. => some .null
      | .function _ => some .null
      | .type (.declared ..) => some .null
      | _ => some (.text "")
  | "__hash__" =>
      match v with
      | .type t => if t.isUnhashable then some .null else none
      | v => if v.typeOf.isUnhashable then some .null else none
  | "__dict__" => v.fieldMap?
  | "__module__" => if v.isDeclared then some (.text "") else none
  | "__weakref__" => if v.isDeclared then some .null else none
  | _ => none

/-- Members that hold parts of a number. -/
def numberData? (v : Value) (name : String) : Option Value :=
  let whole : Value :=
    match v with
    | .bool b => .int (intOfBool b)
    | v => v
  let isWhole := v.isInstance (.builtin .int)
  if !isWhole && !v.isInstance (.builtin .float) then none
  else
    match name with
    | "real" => some whole
    | "imag" => some (if isWhole then .int 0 else .float (.zero false))
    | "numerator" => if isWhole then some whole else none
    | "denominator" => if isWhole then some (.int 1) else none
    | _ => none

/-- Members that hold the name and text of a member of a closed set. -/
def tagData? (t : Tag) (name : String) : Option Value :=
  match name with
  | "value" => some (.text t.text)
  | "_value_" => some (.text t.text)
  | "name" => some (.text t.memberName)
  | "_name_" => some (.text t.memberName)
  | _ => none

/-- Members that name a type, a module or a function and tell how it is placed. -/
def namingData? (v : Value) (name : String) : Option Value :=
  match v, name with
  | .type t, "__name__" => some (.text t.name)
  | .type t, "__qualname__" => some (.text t.name)
  | .type t, "__mro__" => some (.tuple (t.lineage.map .type))
  | .type t, "__bases__" => some (.tuple ((t.lineage.drop 1).take 1 |>.map .type))
  | .type t, "__base__" => some (((t.lineage.drop 1).head?.map .type).getD .null)
  | .module r _, "__name__" =>
      if r.form = .file ∨ r.form = .typeForm then some (.text r.name) else none
  | .module r _, "__qualname__" => if r.form = .typeForm then some (.text r.name) else none
  | .module r _, "__loader__" => if r.form = .file then some .null else none
  | .module r _, "__package__" => if r.form = .file then some .null else none
  | .module r _, "__spec__" => if r.form = .file then some .null else none
  | .function f, "__name__" => if f.name.isEmpty then none else some (.text f.name)
  | .function f, "__qualname__" => if f.name.isEmpty then none else some (.text f.name)
  | .map (.builtin .defaultMap) _, "default_factory" => some (.type (.builtin .int))
  | _, _ => none

/-- Members that tell the fields of a type. -/
def fieldData? (t : TypeRef) (name : String) : Option Value :=
  let names := t.fields.map Value.text
  let table := Value.record (names.map fun n => (n, .null))
  let isModel := t.isSubtypeOf (.builtin .model)
  if isModel then
    match name with
    | "model_fields" | "model_computed_fields" | "model_config" | "__fields__" => some table
    | "model_fields_set" | "__fields_set__" | "__pydantic_fields_set__" => some (.set names)
    | "model_extra" | "__pydantic_extra__" | "__pydantic_private__" => some .null
    | "__pydantic_complete__" => some (.bool true)
    | "__pydantic_root_model__" => some (.bool false)
    | "__annotations__" | "__private_attributes__" | "__pydantic_fields__" => some table
    | "__class_vars__" | "__abstractmethods__" => some (.set [])
    | "__slots__" => some (.tuple [])
    | "__signature__" => some (.text "")
    | _ => none
  else if showsFields t then
    match name with
    | "__dataclass_fields__" | "__annotations__" => some table
    | "__dataclass_params__" => some (.text "")
    | "__match_args__" => some (.tuple names)
    | _ => none
  else none

/-- The member of a value that comes with its type. -/
def givenMember? (v : Value) (name : String) : Option Value :=
  let data :=
    (v.commonData? name).or <| (v.numberData? name).or <| (v.namingData? name).or <|
      match v with
      | .tag t => tagData? t name
      | .object t _ => fieldData? t name
      | _ => none
  let callable : Bool :=
    match v with
    | .type t => t.hasCallable name || (TypeRef.builtin .type).hasCallable name
    | .module r _ =>
        if r.form = .typeForm then (TypeRef.builtin .type).hasCallable name
        else v.typeOf.hasCallable name
    | v => v.typeOf.hasCallable name
  if data.isSome then data
  else if callable then some (.method v name)
  else none

end Value
end AccessPolicy
