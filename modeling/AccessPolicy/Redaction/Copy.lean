import AccessPolicy.Environment

/-!
# Copies with other fields

Objects are never changed.  Other values are put into a copy, and how this is made depends on
what the object is.

**Maps.**  A plain map is made anew of its entries and the new ones.  Any other map that can
change is copied and updated, and one that cannot change is constructed from all entries.

**Models** are copied, and the values put into the fields of the copy.

**Records** are made again: a new record is given the fields of the old one and the new values
in place of some, but not the fields that it sets by itself.  It knows no other fields.

**All other objects** are copied, and the members of the copy are set one after the other.

Types may decide what copying, updating, constructing, making and setting do
(`Environment.handlingOf`).
-/

namespace AccessPolicy
namespace Redaction

/-- The updates of members by name. -/
def namedUpdates (updates : Entries) : Fields :=
  updates.filterMap fun u => u.1.text?.map fun n => (n, u.2)

/-- Replaces members of a value that does not change by it, if all of them can be replaced. -/
def replaceNothing (object : Value) (isLocked : String → Bool) (updates : Fields) :
    Except Failure Value :=
  match updates.find? fun u => u.1 = "__class__" || isLocked u.1 with
  | some u => .error (if u.1 = "__class__" then .wrongType else .missingAttribute)
  | none => .ok object

/-- The fields of a record that is made again with other values in some of them. -/
def remake (handling : Handling) (fields updates : Fields) : Except Failure Fields :=
  let given :=
    match handling.recordFields? with
    | some names => names.map fun n => (n, (Fields.get? fields n).getD .null)
    | none => fields
  if updates.any fun u => (Fields.get? handling.preset u.1).isSome then .error .wrongValue
  else if updates.any fun u => (Fields.get? given u.1).isNone then .error .wrongType
  else handling.complete (Fields.merge (Fields.merge given handling.preset) updates)

section Kinds

variable (env : Environment)

/-- A map with other values in some of its entries. -/
def replaceEntries (t : TypeRef) (entries updates : Entries) : Except Failure Value := do
  if t = .builtin .map then return .map t (Entries.merge entries updates)
  else if t.isReadOnlyMap then
    return .map t (← (env.handlingOf t).construct (Entries.merge entries updates))
  else
    let copy ← (env.handlingOf t).copy (.map t entries)
    (env.handlingOf copy.typeOf).update copy updates

/-- A model with other values in some of its fields. -/
def replaceInModel (t : TypeRef) (fields updates : Fields) : Except Failure Value := do
  match ← (env.handlingOf t).copy (.object t fields) with
  | .object u copied =>
      if u.isClosed then .error .missingAttribute
      else return .object u (← (env.handlingOf t).extend copied updates)
  | _ => .error .missingAttribute

/-- A copy of an object whose members were set one after the other. -/
def replaceMembers (object : Value) (updates : Fields) : Except Failure Value := do
  let copy ← (env.handlingOf object.typeOf).copy object
  updates.foldlM (fun v u => (env.handlingOf v.typeOf).assign v u.1 u.2) copy

/-- A copy of an object with some fields replaced. -/
def replaceFields (object : Value) (updates : Entries) : Except Failure Value :=
  let named := namedUpdates updates
  match object with
  | .map t entries => replaceEntries env t entries updates
  | .object t fields =>
      if t.isClosed then (remake (env.handlingOf t) fields named).map (.object t)
      else replaceInModel env t fields named
  | .entity id t fields =>
      if (env.handlingOf t).recordFields?.isSome then
        (remake (env.handlingOf t) fields named).map (.entity id t)
      else replaceMembers env (.entity id t fields) named
  | .module r members =>
      match r.form with
      | .objectForm => .ok (.module r (Fields.merge members named))
      | .file => .error .wrongType
      | _ => .ok object
  | .tag t => replaceNothing (.tag t) (fun n => n = "name" || n = "value") named
  | .type (.declared ..) => .ok object
  | .type _ => .error .wrongType
  | .function f => replaceNothing (.function f) (fun _ => false) named
  | v => replaceNothing v (fun _ => true) named

end Kinds

end Redaction
end AccessPolicy
