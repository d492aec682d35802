import AccessPolicy.Decision
import AccessPolicy.Number.Shortest
import AccessPolicy.Value.Calendar
import AccessPolicy.Value.TypeRef

/-!
# Values

Subjects, objects, check arguments, metadata and options are values of a host
program.  `Value` is the one type of all of them: scalars, sequences, mappings
that keep the order of insertion, objects with named fields, and references to
types, modules and functions.

Maps and objects carry their type; a map is a list of entries, an object a list
of fields, both without repeated keys.  An object is told apart from others by its
fields, an entity by its identity alone.

A member of a value that the host program itself provides is a `method`, and a
collection that stands inside itself is a `loop`.
-/

namespace AccessPolicy

/-- A member of a closed set of texts. -/
inductive Tag where
  | redacted
  | decision (d : Decision)
deriving DecidableEq, Repr

namespace Tag

/-- The text that a tag equals. -/
def text : Tag → String
  | .redacted => "redacted"
  | .decision d => d.text

/-- The name of a tag in its set. -/
def memberName : Tag → String
  | .redacted => "REDACTED"
  | .decision d => d.memberName

/-- The set and member name of a tag. -/
def qualifiedName : Tag → String
  | .redacted => "RedactedValue.REDACTED"
  | .decision d => "Decision." ++ d.memberName

end Tag

/-- A reference to a function of the host program. -/
structure Function where
  name : String
  index : Nat
deriving DecidableEq, Repr

/-- What a module is made of. -/
inductive ModuleForm where
  | table
  | file
  | typeForm
  | objectForm
deriving DecidableEq, Repr

/-- A reference to a module: a named holder of functions. -/
structure ModuleRef where
  id : String
  form : ModuleForm
  name : String
deriving DecidableEq, Repr

/-- A value of the host program. -/
inductive Value where
  | null
  | bool (b : Bool)
  | int (i : Int)
  | float (x : Binary64)
  | text (s : String)
  | tag (t : Tag)
  | bytes (items : List UInt8)
  | date (d : Day)
  | timestamp (m : Moment)
  | list (items : List Value)
  | tuple (items : List Value)
  | set (items : List Value)
  | map (type : TypeRef) (entries : List (Value × Value))
  | object (type : TypeRef) (fields : List (String × Value))
  | entity (id : Nat) (type : TypeRef) (fields : List (String × Value))
  | type (t : TypeRef)
  | module (ref : ModuleRef) (members : List (String × Value))
  | function (f : Function)
  | method (owner : Value) (name : String)
  | loop (type : TypeRef)
deriving Repr, Inhabited

/-- Named values in order. -/
abbrev Fields := List (String × Value)

/-- The entries of a map in order. -/
abbrev Entries := List (Value × Value)

namespace Value

/-- A map of the plain type. -/
def record (entries : Entries) : Value :=
  .map (.builtin .map) entries

/-- The entries of a map with text keys. -/
def textEntries (fields : Fields) : Entries :=
  fields.map fun f => (.text f.1, f.2)

/-- A map of the plain type with text keys. -/
def ofFields (fields : Fields) : Value :=
  record (textEntries fields)

/-- The marker put in place of redacted fields. -/
def redacted : Value := .tag .redacted

/-- The placeholder of a field that was not loaded. -/
def notLoaded (field : Option String) : Value :=
  .object (.builtin .notLoaded)
    [("field", match field with | some f => .text f | none => .null)]

def typeOf : Value → TypeRef
  | .null => .builtin .null
  | .bool _ => .builtin .bool
  | .int _ => .builtin .int
  | .float _ => .builtin .float
  | .text _ => .builtin .text
  | .tag .redacted => .builtin .marker
  | .tag (.decision _) => .builtin .decision
  | .bytes _ => .builtin .bytes
  | .date _ => .builtin .date
  | .timestamp _ => .builtin .timestamp
  | .list _ => .builtin .list
  | .tuple _ => .builtin .tuple
  | .set _ => .builtin .set
  | .map t _ => t
  | .object t _ => t
  | .entity _ t _ => t
  | .type t => .builtin t.metatype
  | .module r _ =>
      match r.form with
      | .table => .builtin .functionTable
      | .file => .builtin .module
      | .typeForm => .builtin .type
      | .objectForm => .declared r.name .plain [] none false (.builtin .object)
  | .function _ => .builtin .function
  | .method _ _ => .builtin .method
  | .loop t => t

/-- The name of the type of a value. -/
def typeName (v : Value) : String :=
  v.typeOf.name

/-- Whether a value is an instance of a type or of one derived from it. -/
def isInstance (v : Value) (t : TypeRef) : Bool :=
  v.typeOf.isSubtypeOf t

/-- Whether a value stands for something that was not loaded. -/
def isNotLoaded : Value → Bool
  | .object t _ => t.isSubtypeOf (.builtin .notLoaded)
  | _ => false

/-- The characters of a value that is a text. -/
def text? : Value → Option String
  | .text s => some s
  | .tag t => some t.text
  | _ => none

/-- The text that a row of bytes encodes, if it encodes one. -/
def decoded? (bs : List UInt8) : Option String :=
  String.fromUTF8? ⟨bs.toArray⟩

/-- The entries of a value that is a map. -/
def entries? : Value → Option Entries
  | .map _ es => some es
  | _ => none

/-- The parts of a value that is gone through item by item. -/
def parts? : Value → Option (List Value)
  | .list xs => some xs
  | .tuple xs => some xs
  | .set xs => some xs
  | .bytes bs => some (bs.map fun b => .int b.toNat)
  | .text s => some (s.toList.map fun c => .text (String.singleton c))
  | .tag t => some (t.text.toList.map fun c => .text (String.singleton c))
  | .map _ entries => some (entries.map (·.1))
  | .object (.schema _) fields => some (fields.map fun f => .tuple [.text f.1, f.2])
  | .object t fields =>
      if t.root == .builtin .model then some (fields.map fun f => .tuple [.text f.1, f.2])
      else none
  | .module r members =>
      if r.form = .table then some (members.map fun m => .text m.1)
      else none
  | _ => none

/-- Whether the fields of a type's objects cannot change. -/
def isFixed : TypeRef → Bool
  | .schema _ => true
  | .builtin _ => true
  | .declared _ kind .. => kind = .notLoaded

mutual

/-- Whether a value can be the key of a map: nothing in it may change. -/
def isKey : Value → Bool
  | .list _ => false
  | .set _ => false
  | .map _ _ => false
  | .loop _ => false
  | .tuple xs => areKeys xs
  | .object t fields => isFixed t && areFieldKeys fields
  | _ => true

/-- Whether the items of a sequence can all be keys. -/
def areKeys : List Value → Bool
  | [] => true
  | v :: rest => isKey v && areKeys rest

/-- Whether the values of fields can all be keys. -/
def areFieldKeys : List (String × Value) → Bool
  | [] => true
  | (_, v) :: rest => isKey v && areFieldKeys rest

end

/-- Whether a value counts as true where a condition is expected. -/
def isTrue : Value → Bool
  | .null => false
  | .bool b => b
  | .int i => i != 0
  | .float x => !x.isZero
  | .text s => !s.isEmpty
  | .tag _ => true
  | .bytes bs => !bs.isEmpty
  | .list xs => !xs.isEmpty
  | .tuple xs => !xs.isEmpty
  | .set xs => !xs.isEmpty
  | .map _ es => !es.isEmpty
  | .module r ms =>
      match r.form with
      | .table => !ms.isEmpty
      | _ => true
  | _ => true

/-- Whether a value can be called. -/
def isCallable : Value → Bool
  | .function _ => true
  | .method _ _ => true
  | .type _ => true
  | .module r _ => r.form == .typeForm
  | _ => false

end Value
end AccessPolicy
