import AccessPolicy.Handling
import AccessPolicy.Member.Call
import AccessPolicy.Run
import AccessPolicy.Text.Split

/-!
# The host program

Check functions, hooks and redaction callbacks belong to a host program.  An
`Environment` is what the library sees of it: what a call of a function gives, which
modules can be imported, what the declared types define for all their instances, how
they handle these, and which of them bring a redaction callback.

**Functions.**  The outcome of a call is told by the function and its arguments: a function
called twice with the same arguments gives the same twice, and changes none of them.

**Modules.**  `Environment.resolve` finds a function by name in whatever a policy
uses as its check module: a table of functions, a map, an importable path, or any
value with members.

**Paths.**  `Environment.importPath` gives the module of a dotted path, or the member
of a module if the path is no module itself.  A module may raise something instead of being
imported.
-/

namespace AccessPolicy

/-- What the library sees of a host program. -/
structure Environment where
  /-- The outcome of calling a function. -/
  apply : Function → List Value → Except Failure Value
  /-- Modules by dotted name. -/
  importable : List (String × Value)
  /-- Class-wide members of a declared type, without those of its bases. -/
  classMembers : TypeRef → Fields
  /-- The redaction callback that a declared type defines, called with the object, the
  subject and the options. -/
  callback : TypeRef → Option (List Value → Except Failure Value)
  /-- How a type handles its instances, if there is more to it than its class-wide members
  tell. -/
  handling : TypeRef → Option Handling := fun _ => none
  /-- What a module of a dotted name raises while it is imported, if it cannot be imported for
  this reason. -/
  importError : String → Option Raised := fun _ => none
  /-- What the terminal shows for the name of a pictogram. -/
  signs : String → Option (List Char) := fun _ => none

namespace Environment

variable (env : Environment)

/-- Calls a function: the call is an event even if it fails. -/
def call (f : Function) (args : List Value) : Run Value :=
  ⟨[.call f args], env.apply f args⟩

/-- Asks the redaction callback that a type brings or inherits: this is an event, too. -/
def consult (t : TypeRef) (object subject options : Value) : Run Value :=
  match t.lineage.findSome? fun u => (env.callback u).map fun run => (u.name, run) with
  | some (label, run) =>
      ⟨[.consult label subject options], run [object, subject, options]⟩
  | none => .fail .wrongType

/-- Calls a member that comes with the type of a value. -/
def callMethod (owner : Value) (name : String) (args : List Value) : Run Value :=
  match owner, name, args with
  | .function f, "__call__", args => env.call f args
  | .type t, "redacted_fields", [object, subject, options] =>
      env.consult t object subject options
  | v, "redacted_fields", [subject, options] => env.consult v.typeOf v subject options
  | v, name, args => .ofExcept (v.callMember name args)

/-- Calls any value: a function, a type, or a member that can be called. -/
def callValue (v : Value) (args : List Value) : Run Value :=
  match v with
  | .function f => env.call f args
  | .type t => .ofExcept (Construction.call t args)
  | .module r _ =>
      if r.form = .typeForm then
        .ofExcept
          (Construction.call (.declared r.name .plain [] none false (.builtin .object)) args)
      else .fail .wrongType
  | .method owner name => env.callMethod owner name args
  | _ => .fail .wrongType

/-- The class-wide member of a type, from the nearest type that has it. -/
def classMember? (t : TypeRef) (name : String) : Option Value :=
  t.lineage.findSome? fun u => Fields.get? (env.classMembers u) name

/-- The outcome of calling a class-wide member of an object's type, which gets the object first
if it is a function. -/
def callOn (object member : Value) (args : List Value) : Except Failure Value :=
  match member with
  | .function f => (env.callValue (.function f) (object :: args)).outcome
  | m => (env.callValue m args).outcome

/-- The handling of a type by its class-wide members: it may bring its own way to copy
instances and, if these are maps, to put entries into them. -/
def memberHandling (t : TypeRef) : Handling where
  copy v :=
    match env.classMember? t "__copy__" with
    | none => .ok v
    | some .null => .ok v
    | some m =>
        if t.isSubtypeOf (.builtin .model) then env.callOn v m []
        else (env.callValue m [v]).outcome
  update v updates :=
    match env.classMember? t "update" with
    | none => v.putEntries updates
    | some m => (env.callOn v m [.record updates]).map fun _ => v

/-- How a type handles its instances. -/
def handlingOf (t : TypeRef) : Handling :=
  (env.handling t).getD (env.memberHandling t)

/-- The program with plain types that derive from records: their instances are copied as records,
which leaves out the members that these have no fields for. -/
def withDerivedRecords : Environment :=
  { env with
    handling := fun t =>
      match t with
      | .declared _ .plain .. =>
          (env.handling t).or (t.recordBase?.map fun r =>
            { env.memberHandling t with recordFields? := some r.fields })
      | _ => env.handling t }

/-- The member that a host program declares for a value: one that is computed, its own, or else
the class-wide one. -/
def declaredMember? (v : Value) (name : String) : Option Value :=
  match v with
  | .object t fields =>
      ((env.handlingOf t).computed? v (.text name)).or
        ((Fields.get? fields name).or (env.classMember? t name))
  | .entity _ t fields =>
      ((env.handlingOf t).computed? v (.text name)).or
        ((Fields.get? fields name).or (env.classMember? t name))
  | .type t => env.classMember? t name
  | .module r members =>
      if r.form = .table then none
      else Fields.get? members name
  | _ => env.classMember? v.typeOf name

/-- The member of a value: a declared one, or else one that comes with its type. -/
def member? (v : Value) (name : String) : Option Value :=
  (env.declaredMember? v name).or (v.givenMember? name)

/-- Why a module is not imported whose parent is, if it has one: it raises something, or it is
missing. -/
def importFailure (name : String) (parent : Option String) : Failure :=
  match env.importError name with
  | some r => .raised r
  | none => .moduleNotFound name parent

/-- Why a module is missing: the first ancestor that is, or a parent that has no such part. -/
def missingModule : List String → Failure
  | [] => .emptyModulePath
  | [name] => env.importFailure name none
  | last :: parents =>
      let parent := Text.join "." parents.reverse
      if (env.importable.lookup parent).isSome then
        env.importFailure (parent ++ "." ++ last) (some parent)
      else missingModule parents

/-- The module of a dotted path. -/
def importModule (path : String) : Except Failure Value :=
  if path.isEmpty then .error .emptyModulePath
  else if path.toList.head? = some '.' then .error .wrongType
  else
    match env.importable.lookup path with
    | some m => .ok m
    | none => .error (env.missingModule (Text.split '.' path).reverse)

/-- A failure says that a module is missing; a module may raise this on its own. -/
def isMissingModule : Failure → Bool
  | .moduleNotFound .. => true
  | .raised r => r.kind == "ModuleNotFoundError"
  | _ => false

/-- The module of a dotted path, or the member of a module. -/
def importPath (path : String) : Except Failure Value :=
  match env.importModule path with
  | .ok m => .ok m
  | .error f =>
      match isMissingModule f, (Text.split '.' path).reverse with
      | true, last :: parents =>
          let parentPath := Text.join "." parents.reverse
          if parentPath.isEmpty then .error f
          else do
            let m ← env.importModule parentPath
            match env.member? m last with
            | some v => .ok v
            | none => .error (.attributeNotFound parentPath last)
      | _, _ => .error f

/-- The value that a module has under a name. -/
def lookup? (module : Value) (name : String) : Option Value :=
  match module with
  | .module r members =>
      if r.form = .table then Fields.get? members name
      else env.member? module name
  | .map _ entries => Entries.getText? entries name
  | v => env.member? v name

/-- The function that a module has under a name, if there is one that can be called. -/
def resolve (module : Value) (name : String) : Except Failure (Option Value) := do
  let found? := fun (m : Value) => (env.lookup? m name).filter Value.isCallable
  match module with
  | .null => .ok none
  | v =>
      match v.text? with
      | some path => do
          let m ← env.importPath path
          .ok (found? m)
      | none => .ok (found? v)

end Environment
end AccessPolicy
