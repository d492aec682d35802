import AccessPolicy.Environment

/-!
# Redaction callbacks

A type says how its instances are redacted through a callback, which gets the object,
the subject and the options and gives a spec.  Types bring a callback of their own, or
have one registered.

**Lookup.**  A registered callback serves the type and all types derived from it that
have no closer one.  A callback of an object's own type wins over the registry.

**Objects.**  The callback of its own type is asked through the object.  A member of the object
itself that has the name of the callback stands in the way, and is no callback.

**Hierarchies.**  Which base is closer is a matter of the order in which a type and its
bases are asked.  Types with one base each are asked along their lineage; a registry works
for any other hierarchy as well.
-/

namespace AccessPolicy
namespace Redaction

/-- A labelled callback: what it gives for object, subject and options. -/
structure Callback where
  label : String
  run : List Value → Except Failure Value

/-- The order in which a type and its bases are asked, for every type. -/
abbrev Hierarchy := TypeRef → List TypeRef

/-- Callbacks by type. -/
structure Registry where
  callbacks : List (TypeRef × Callback) := []

namespace Registry

/-- Registers a callback for a type in place of an earlier one. -/
def register (r : Registry) (t : TypeRef) (c : Callback) : Registry :=
  ⟨go r.callbacks⟩
where
  /-- Replaces the entry of the type or adds one at the end. -/
  go : List (TypeRef × Callback) → List (TypeRef × Callback)
    | [] => [(t, c)]
    | (u, d) :: rest => if u = t then (t, c) :: rest else (u, d) :: go rest

/-- The callback registered for exactly a type. -/
def get? (r : Registry) (t : TypeRef) : Option Callback :=
  r.callbacks.lookup t

/-- The callback of the first type that has one, in the order of a hierarchy. -/
def lookupIn? (r : Registry) (h : Hierarchy) (t : TypeRef) : Option Callback :=
  (h t).findSome? r.get?

/-- The callback of the nearest type in the lineage of a type. -/
def lookup? (r : Registry) (t : TypeRef) : Option Callback :=
  r.lookupIn? TypeRef.lineage t

/-- Whether some type in the lineage of a type has a callback. -/
def contains (r : Registry) (t : TypeRef) : Bool :=
  (r.lookup? t).isSome

/-- The number of types with a callback. -/
def size (r : Registry) : Nat :=
  r.callbacks.length

end Registry

/-- The callback that a type brings itself or inherits. -/
def ownCallback? (env : Environment) (t : TypeRef) : Option Callback :=
  t.lineage.findSome? fun u => (env.callback u).map fun run => ⟨u.name, run⟩

/-- The callback that redacts an object: that of its own type, or a registered one. -/
def callbackOf? (env : Environment) (registry : Option Registry) (v : Value) : Option Callback :=
  (ownCallback? env v.typeOf).or (registry.bind fun r => r.lookup? v.typeOf)

/-- The name under which types bring a callback. -/
def callbackName : String :=
  "redacted_fields"

/-- Whether an object has a member of its own in the place of the callback that its type
brings, so that it cannot be asked. -/
def hidesCallback (env : Environment) (v : Value) : Bool :=
  (ownCallback? env v.typeOf).isSome &&
    match v with
    | .object _ fields => (Fields.get? fields callbackName).isSome
    | .entity _ _ fields => (Fields.get? fields callbackName).isSome
    | .module r members => r.form == .objectForm && (Fields.get? members callbackName).isSome
    | _ => false

end Redaction
end AccessPolicy
