import AccessPolicy.Number.Literal
import AccessPolicy.Text.Quoted
import AccessPolicy.Value.Equality

/-!
# Texts of values

`Value.inspect` writes a value so that its kind can be seen: texts in quotes,
sequences and maps in brackets, objects with the names of their fields.
`Value.display` writes a value as part of a sentence: a text as it stands, a check
or hook in its short form, and anything else as `inspect` does.

`Value.moduleLabel` is the printable name of whatever is used as a module.

**Long integers.**  An integer may be too long to be written.  `Value.isWritable` and
`Value.isDisplayable` say whether there is a text at all.

**Deep values.**  A value may also nest too deeply to be written, which is a failure of another
kind.  `Value.isShallow` tells this apart for values that are refused.
-/

namespace AccessPolicy
namespace Value

def boolText (b : Bool) : String :=
  if b then "True" else "False"

/-- Texts in brackets, separated by commas. -/
def bracketed (left right : String) (items : List String) : String :=
  left ++ Text.join ", " items ++ right

/-- A tuple in brackets; a comma tells a tuple of one item from brackets alone. -/
def tupleText : List String → String
  | [item] => "(" ++ item ++ ",)"
  | items => bracketed "(" ")" items

/-- A map in brackets, with the name of its type unless that is the plain one. -/
def mapText (t : TypeRef) (entries : List (String × String)) : String :=
  let body := bracketed "\x7b" "\x7d" (entries.map fun e => e.1 ++ ": " ++ e.2)
  match t.root with
  | .builtin .orderedMap =>
      if entries.isEmpty then t.name ++ "()"
      else t.name ++ bracketed "([" "])" (entries.map fun e => "(" ++ e.1 ++ ", " ++ e.2 ++ ")")
  | .builtin .defaultMap => t.name ++ "(<class 'int'>, " ++ body ++ ")"
  | .builtin .mapView => t.name ++ "(" ++ body ++ ")"
  | .builtin .readOnlyMap => "<" ++ t.name ++ " object>"
  | _ => body

/-- Whether the instances of a type are written with their fields. -/
def showsFields : TypeRef → Bool
  | .schema _ => true
  | .builtin b => b == .notLoaded
  | .declared _ kind .. => kind != .plain

/-- A byte of a row of bytes between the given quotes. -/
def byteText (quote : Char) (b : UInt8) : String :=
  let c := Char.ofNat b.toNat
  if c = quote ∨ c = '\\' then String.ofList ['\\', c]
  else if c = '\t' then "\\t"
  else if c = '\n' then "\\n"
  else if c = '\r' then "\\r"
  else if b < 0x20 ∨ 0x7F ≤ b then "\\x" ++ String.ofList (Text.hex 2 b.toNat)
  else String.singleton c

/-- A row of bytes in quotes. -/
def bytesText (bs : List UInt8) : String :=
  let quote := if bs.contains 0x27 && !bs.contains 0x22 then '"' else '\''
  "b" ++ String.singleton quote ++ Text.join "" (bs.map (byteText quote)) ++
    String.singleton quote

def sortedNames (names : List String) : List String :=
  names.mergeSort (fun a b => decide (a ≤ b))

/-- The text of a module reference. -/
def moduleText (ref : ModuleRef) (members : Fields) : String :=
  match ref.form with
  | .table =>
      "<CheckRegistry " ++ ref.name ++ ": " ++
        bracketed "[" "]" (sortedNames (members.map (·.1))) ++ ">"
  | .file => "<module " ++ Text.quoted ref.name ++ ">"
  | .typeForm => "<class " ++ Text.quoted ref.name ++ ">"
  | .objectForm => "<" ++ ref.name ++ " object>"

mutual

/-- The text of a value that shows its kind. -/
def inspect : Value → String
  | .null => "None"
  | .bool b => boolText b
  | .int i => toString i
  | .float x => x.text
  | .text s => Text.quoted s
  | .tag t => "<" ++ t.qualifiedName ++ ": " ++ Text.quoted t.text ++ ">"
  | .bytes bs => bytesText bs
  | .date d => d.inspect
  | .timestamp m => m.inspect
  | .list xs => bracketed "[" "]" (inspectAll xs)
  | .tuple xs => tupleText (inspectAll xs)
  | .set xs => if xs.isEmpty then "set()" else bracketed "\x7b" "\x7d" (inspectAll xs)
  | .map t es => mapText t (inspectEntries es)
  | .object t fs =>
      if showsFields t then t.name ++ bracketed "(" ")" (inspectFields fs)
      else "<" ++ t.name ++ " object>"
  | .entity _ t _ => "<" ++ t.name ++ " object>"
  | .type t =>
      (if t.metatype = .closedType then "<enum " else "<class ") ++ Text.quoted t.fullName ++ ">"
  | .module r ms => moduleText r ms
  | .function f => "<function " ++ f.name ++ ">"
  | .method v n => "<built-in method " ++ n ++ " of " ++ v.typeName ++ " object>"
  | .loop t => if t.isSubtypeOf (.builtin .map) then "\x7b...\x7d" else "[...]"

/-- The texts of the items of a sequence. -/
def inspectAll : List Value → List String
  | [] => []
  | v :: rest => inspect v :: inspectAll rest

/-- The texts of keys and values. -/
def inspectEntries : List (Value × Value) → List (String × String)
  | [] => []
  | (k, v) :: rest => (inspect k, inspect v) :: inspectEntries rest

/-- The texts of fields with their names. -/
def inspectFields : List (String × Value) → List String
  | [] => []
  | (n, v) :: rest => (n ++ "=" ++ inspect v) :: inspectFields rest

end

mutual

/-- Whether all integers in a value can be written. -/
def isWritable : Value → Bool
  | .int i => Literal.isWritable i
  | .list xs => areWritable xs
  | .tuple xs => areWritable xs
  | .set xs => areWritable xs
  | .map t es => t.root == .builtin .readOnlyMap || areEntriesWritable es
  | .object _ fs => areFieldsWritable fs
  | _ => true

/-- Whether all integers in the items of a sequence can be written. -/
def areWritable : List Value → Bool
  | [] => true
  | v :: rest => isWritable v && areWritable rest

/-- Whether all integers in the entries of a map can be written. -/
def areEntriesWritable : List (Value × Value) → Bool
  | [] => true
  | (k, v) :: rest => isWritable k && isWritable v && areEntriesWritable rest

/-- Whether all integers in the fields of an object can be written. -/
def areFieldsWritable : List (String × Value) → Bool
  | [] => true
  | (_, v) :: rest => isWritable v && areFieldsWritable rest

end

mutual

/-- How many values lie within one another where the text of a value is written. -/
def levels : Value → Nat
  | .list xs => itemsLevels xs + 1
  | .tuple xs => itemsLevels xs + 1
  | .set xs => itemsLevels xs + 1
  | .map _ es => entriesLevels es + 1
  | .object _ fs => fieldsLevels fs + 1
  | _ => 0

/-- The levels of the items of a sequence. -/
def itemsLevels : List Value → Nat
  | [] => 0
  | v :: rest => max (levels v) (itemsLevels rest)

/-- The levels of keys and values. -/
def entriesLevels : List (Value × Value) → Nat
  | [] => 0
  | (k, v) :: rest => max (max (levels k) (levels v)) (entriesLevels rest)

/-- The levels of fields. -/
def fieldsLevels : List (String × Value) → Nat
  | [] => 0
  | (_, v) :: rest => max (levels v) (fieldsLevels rest)

end

/-- How many levels can be written.  The number belongs to one interpreter, which allows a
thousand calls within one another, and to the calls that are under way where a value is
written; what is said of values that are too deep holds for any number. -/
def levelLimit : Nat := 960

/-- A value does not nest too deeply to be written. -/
def isShallow (v : Value) : Bool :=
  decide (v.levels ≤ levelLimit)

/-- The own member of a value, without those of its type. -/
def ownMember? (v : Value) (name : String) : Option Value :=
  match v with
  | .object _ fs => Fields.get? fs name
  | .entity _ _ fs => Fields.get? fs name
  | .module r ms =>
      match r.form with
      | .table => if name = "name" then some (.text r.name) else none
      | _ => Fields.get? ms name
  | _ => none

/-- The `name` of a value, its own or that of its type, if it is a text. -/
def nameText? (v : Value) : Option Value :=
  let shared :=
    match v with
    | .type t => t.label?
    | v => v.typeOf.label?
  let name := (v.ownMember? "name").or (shared.map .text)
  name.filter fun n => n.text?.isSome

/-- The printable name of a value that is used as a module. -/
def moduleLabel (v : Value) : Value :=
  match v with
  | .null => .text "<none>"
  | .text s => .text s
  | .tag t => .tag t
  | .type t => (v.nameText?).getD (.text t.name)
  | .module r _ =>
      let given := (v.ownMember? "__name__").getD (.text r.name)
      match r.form with
      | .file => given
      | .typeForm => (v.nameText?).getD (.text r.name)
      | .table | .objectForm => (v.nameText?).getD given
  | .function f => .text f.name
  | .method _ name => .text name
  | v => (v.nameText?).getD ((v.ownMember? "__name__").getD (.text v.typeName))

/-- The printable name of a module as part of a sentence. -/
def labelText (v : Value) : String :=
  match v.moduleLabel with
  | .text s => s
  | .tag t => t.qualifiedName
  | name => name.inspect

/-- The text of a value as part of a sentence. -/
def display : Value → String
  | .text s => s
  | .tag t => t.qualifiedName
  | .date d => d.display
  | .timestamp m => m.display
  | .object (.schema .literalCheck) [(_, .bool b)] => if b then "true" else "false"
  | .object (.schema .namedCheck) [(_, .text n)] => n
  | .object (.schema .argCheck) [(_, .text n), (_, v)] => n ++ "(" ++ display v ++ ")"
  | .object (.schema .namedHook) [(_, .text n)] => n
  | .object (.schema .moduleHook) [(_, m), (_, .text n)] => m.labelText ++ "." ++ n
  | .object (.schema .moduleArgsHook) [(_, m), (_, .text n), (_, a)] =>
      m.labelText ++ "." ++ n ++ "(" ++ a.inspect ++ ")"
  | .object (.schema _) fs => Text.join " " (inspectFields fs)
  | .object (.declared _ .model ..) fs => Text.join " " (inspectFields fs)
  | v => v.inspect

/-- Whether `display` can be written: a hook is written with the label of its module, not with
the module itself. -/
def isDisplayable : Value → Bool
  | .object (.schema .argCheck) [(_, .text _), (_, v)] => isDisplayable v
  | .object (.schema .moduleHook) [(_, m), (_, .text _)] => m.moduleLabel.isWritable
  | .object (.schema .moduleArgsHook) [(_, m), (_, .text _), (_, a)] =>
      m.moduleLabel.isWritable && a.isWritable
  | v => v.isWritable

end Value
end AccessPolicy
