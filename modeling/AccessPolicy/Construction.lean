import AccessPolicy.Failure
import AccessPolicy.Number.Literal

/-!
# Calls of types

A type can stand where a function is expected: calling it makes a value of that type.
`Construction.call` says what a type makes of some arguments, and refuses arguments of the
wrong number, kind or form.
-/

namespace AccessPolicy
namespace Construction

section Parts

/-- The items that a collection is made of. -/
def items (v : Value) : Except Failure (List Value) :=
  match v.parts? with
  | some xs => .ok xs
  | none => .error .wrongType

/-- A value that must be a pair of a possible key and a value. -/
def pair (v : Value) : Except Failure (Value × Value) := do
  match ← items v with
  | [k, w] => if k.isKey then return (k, w) else .error .wrongType
  | _ => .error .wrongCount

/-- The entries of a map, or those that pairs make. -/
def entries (v : Value) : Except Failure Entries :=
  match v with
  | .map _ es => .ok es
  | v => do return Entries.ofList (← (← items v).mapM pair)

/-- The entries that at most one argument gives. -/
def optionalEntries : List Value → Except Failure Entries
  | [] => .ok []
  | [v] => entries v
  | _ => .error .wrongType

end Parts

section Numbers

/-- The number that a text was read as. -/
def read {α : Type} (x : Except Literal.Refusal α) : Except Failure α :=
  x.mapError fun _ => .wrongValue

/-- The characters of a text or of a row of bytes. -/
def characters? (v : Value) : Option (List Char) :=
  match v with
  | .bytes bs => some (bs.map fun b => Char.ofNat b.toNat)
  | v => v.text?.map String.toList

/-- The integer that a value stands for, a fraction being dropped. -/
def int (v : Value) : Except Failure Int :=
  match v with
  | .bool b => .ok (Value.intOfBool b)
  | .int i => .ok i
  | .float (.nan _) => .error .wrongValue
  | .float x =>
      match x.truncate? with
      | some i => .ok i
      | none => .error .outOfRange
  | v =>
      match characters? v with
      | some cs => read (Literal.int 10 cs)
      | none => .error .wrongType

/-- The base that a value stands for. -/
def base (v : Value) : Except Failure Nat :=
  let valid := fun (i : Int) =>
    if i = 0 ∨ (2 ≤ i ∧ i ≤ 36) then .ok i.toNat else .error .wrongValue
  match v with
  | .bool b => valid (Value.intOfBool b)
  | .int i => valid i
  | _ => .error .wrongType

/-- The floating-point number that a value stands for. -/
def float (v : Value) : Except Failure Binary64 :=
  let ofInt := fun (i : Int) =>
    match Binary64.ofInt i with
    | .infinite _ => .error .outOfRange
    | x => .ok x
  match v with
  | .bool b => ofInt (Value.intOfBool b)
  | .int i => ofInt i
  | .float x => .ok x
  | v =>
      match characters? v with
      | some cs => read (Literal.float 2 cs)
      | none => .error .wrongType

end Numbers

/-- An object whose fields have the given values, in order; the others are empty. -/
def object (t : TypeRef) (args : List Value) : Except Failure Value :=
  if t.fields.length < args.length then .error .wrongType
  else
    let given := args ++ List.replicate (t.fields.length - args.length) Value.null
    .ok (.object t (t.fields.zip given))

/-- What a built-in type makes of some arguments. -/
def builtin (b : Builtin) (args : List Value) : Except Failure Value :=
  match b, args with
  | .object, [] => .ok (.entity 0 (.builtin .object) [])
  | .bool, [] => .ok (.bool false)
  | .bool, [v] => .ok (.bool v.isTrue)
  | .int, [] => .ok (.int 0)
  | .int, [v] => .int <$> int v
  | .int, [v, b] => do
      let radix ← base b
      match characters? v with
      | some cs => .int <$> read (Literal.int radix cs)
      | none => .error .wrongType
  | .float, [] => .ok (.float (.zero false))
  | .float, [v] => .float <$> float v
  | .text, [] => .ok (.text "")
  | .text, [v] => .ok (.text v.display)
  | .list, [] => .ok (.list [])
  | .list, [v] => .list <$> items v
  | .tuple, [] => .ok (.tuple [])
  | .tuple, [v] => .tuple <$> items v
  | .map, args => .map (.builtin .map) <$> optionalEntries args
  | .orderedMap, args => .map (.builtin .orderedMap) <$> optionalEntries args
  | .defaultMap, [] => .ok (.map (.builtin .defaultMap) [])
  | .defaultMap, factory :: args =>
      if factory.isCallable || factory matches .null then
        .map (.builtin .defaultMap) <$> optionalEntries args
      else .error .wrongType
  | .mapView, [.map _ es] => .ok (.map (.builtin .mapView) es)
  | .notLoaded, args => object (.builtin .notLoaded) args
  | .type, [v] => .ok (.type v.typeOf)
  | .module, name :: rest =>
      match name.text?, rest with
      | some n, [] => .ok (.module ⟨"", .file, n⟩ [("__doc__", .null)])
      | some n, [text] => .ok (.module ⟨"", .file, n⟩ [("__doc__", text)])
      | _, _ => .error .wrongType
  | .marker, _ :: _ =>
      match args with
      | [v] => if v.agrees Value.redacted then .ok Value.redacted else .error .wrongValue
      | _ => .error .wrongValue
  | _, _ => .error .wrongType

/-- What a type makes of some arguments. -/
def call (t : TypeRef) (args : List Value) : Except Failure Value :=
  match t with
  | .builtin b => builtin b args
  | .schema _ => .error .wrongType
  | .declared _ kind .. =>
      match kind with
      | .plain => if args.isEmpty then .ok (.entity 0 t []) else .error .wrongType
      | .model => if args.isEmpty then object t [] else .error .wrongType
      | .record => object t args
      | .notLoaded => object t args
      | .map => .map t <$> optionalEntries args
      | .readOnlyMap => .map t <$> optionalEntries args

end Construction
end AccessPolicy
