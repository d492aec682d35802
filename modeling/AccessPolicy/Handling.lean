import AccessPolicy.Failure

/-!
# How types handle their instances

A program may declare types that copy, fill or read their instances in a way of their own: a
map that adds numbers up, a record that works out some fields by itself, an object with
members that are computed.  `Handling` holds what a type decides about its instances.  The
handling of a type that decides nothing is the empty one, `{}`: instances are copied as they
are, and what is put into them is what is found in them afterwards.
-/

namespace AccessPolicy

namespace TypeRef

/-- Whether the instances of a type have declared fields only. -/
def isClosed : TypeRef → Bool
  | .builtin b => b == .notLoaded
  | .schema _ => false
  | .declared _ kind .. => kind == .record || kind == .notLoaded

/-- The record that a type is or derives from. -/
def recordBase? (t : TypeRef) : Option TypeRef :=
  t.lineage.find? fun
    | .declared _ .record .. => true
    | _ => false

/-- Whether the entries of a type's maps are given when a map is made and stay as they are. -/
def isReadOnlyMap (t : TypeRef) : Bool :=
  t.root == .builtin .mapView || t.root == .builtin .readOnlyMap

end TypeRef

/-- Puts a value in place of a member of an entity: one that says what the entity is takes
only values of its own kind. -/
def Fields.setMember (fields : Fields) (name : String) (value : Value) :
    Except Failure Fields :=
  match name, value with
  | "__class__", _ => .error .wrongType
  | "__dict__", .map _ entries =>
      .ok (entries.filterMap fun e => e.1.text?.map fun n => (n, e.2))
  | "__dict__", _ => .error .wrongType
  | "__weakref__", _ => .error .missingAttribute
  | _, _ => .ok (Fields.set fields name value)

namespace Value

/-- Puts entries into a map that can change. -/
def putEntries (v : Value) (updates : Entries) : Except Failure Value :=
  match v with
  | .map t entries =>
      if t.isReadOnlyMap then .error .missingAttribute
      else .ok (.map t (Entries.merge entries updates))
  | _ => .error .missingAttribute

/-- Sets a member of a value whose members can be set.  Models take their fields only, and what
is set beside the entries of a map is no entry. -/
def assign (v : Value) (name : String) (value : Value) : Except Failure Value :=
  match v with
  | .entity id t fields => (Fields.setMember fields name value).map (.entity id t)
  | .object t fields =>
      if isFixed t then .error .missingAttribute
      else if !t.isClosed && (Fields.get? fields name).isNone then .error .wrongValue
      else (Fields.setMember fields name value).map (.object t)
  | .map (.declared ..) _ => .ok v
  | .map (.builtin .orderedMap) _ => .ok v
  | _ => .error .missingAttribute

end Value

/-- What a type decides about how its instances are read, copied and changed.  The defaults
are what happens to instances of types that decide nothing. -/
structure Handling where
  /-- What an instance gives for a name or a key by computing it, whatever else it holds. -/
  computed? : Value → Value → Option Value := fun _ _ => none
  /-- Copies an instance. -/
  copy : Value → Except Failure Value := .ok
  /-- Puts entries into an instance that is a map. -/
  update : Value → Entries → Except Failure Value := Value.putEntries
  /-- Sets a member of an instance. -/
  assign : Value → String → Value → Except Failure Value := Value.assign
  /-- What a map that cannot change holds if it is made of some entries. -/
  construct : Entries → Except Failure Entries := .ok
  /-- Puts values into the fields of a copy of a model. -/
  extend : Fields → Fields → Except Failure Fields := fun fields updates =>
    .ok (Fields.merge fields updates)
  /-- The fields of a record, if its instances may have members beside them, or if instances
  of a plain type are copied as records. -/
  recordFields? : Option (List String) := none
  /-- The fields that a record is not given when it is made, with what it puts into them. -/
  preset : Fields := []
  /-- What a record that is being made turns its fields into. -/
  complete : Fields → Except Failure Fields := .ok

end AccessPolicy
