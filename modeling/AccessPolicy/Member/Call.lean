import AccessPolicy.Construction
import AccessPolicy.Member.Basic
import AccessPolicy.Member.Operator

/-!
# Calls of members

`Value.callMember` says what a member gives that comes with the type of a value.  A member of
a type takes the value that it works on as its first argument.

**State.**  Members that would change their value give nothing; values never change.
-/

namespace AccessPolicy
namespace Member

section Texts

/-- The position of the first occurrence of a text in another one. -/
def position? (needle : List Char) : List Char → Option Nat
  | [] => if needle.isEmpty then some 0 else none
  | c :: rest =>
      if needle.isPrefixOf (c :: rest) then some 0
      else (position? needle rest).map (· + 1)

/-- The text before the first occurrence of another one, and the text after it. -/
def cutAt? (needle cs : List Char) : Option (List Char × List Char) :=
  (position? needle cs).map fun n => (cs.take n, cs.drop (n + needle.length))

/-- The text before the last occurrence of another one, and the text after it. -/
def cutAtLast? (needle cs : List Char) : Option (List Char × List Char) :=
  (cutAt? needle.reverse cs.reverse).map fun p => (p.2.reverse, p.1.reverse)

/-- The parts of a text between the occurrences of another one, which has some length. -/
def partsBetween (needle : List Char) : Nat → List Char → List (List Char)
  | 0, cs => [cs]
  | limit + 1, cs =>
      match cutAt? needle cs with
      | some (before, after) => before :: partsBetween needle limit after
      | none => [cs]

def textOf (cs : List Char) : Value :=
  .text (String.ofList cs)

/-- A position, or the number for none. -/
def indexOf : Option Nat → Value
  | some n => .int n
  | none => .int (-1)

/-- A member of a text with another text as its argument. -/
def ofTexts (name : String) (s t : List Char) : Except Failure Value :=
  let trimLeft := fun (cs : List Char) => cs.dropWhile t.contains
  let trimRight := fun (cs : List Char) => (cs.reverse.dropWhile t.contains).reverse
  match name with
  | "startswith" => .ok (.bool (t.isPrefixOf s))
  | "endswith" => .ok (.bool (t.isSuffixOf s))
  | "__contains__" => .ok (.bool (position? t s).isSome)
  | "__add__" => .ok (textOf (s ++ t))
  | "find" => .ok (indexOf (position? t s))
  | "rfind" => .ok (indexOf ((cutAtLast? t s).map fun p => p.1.length))
  | "index" =>
      match position? t s with
      | some n => .ok (.int n)
      | none => .error .wrongValue
  | "rindex" =>
      match cutAtLast? t s with
      | some p => .ok (.int p.1.length)
      | none => .error .wrongValue
  | "count" =>
      if t.isEmpty then .ok (.int (s.length + 1))
      else .ok (.int ((partsBetween t s.length s).length - 1))
  | "split" =>
      if t.isEmpty then .error .wrongValue
      else .ok (.list ((partsBetween t s.length s).map textOf))
  | "rsplit" =>
      if t.isEmpty then .error .wrongValue
      else .ok (.list ((partsBetween t s.length s).map textOf))
  | "partition" =>
      if t.isEmpty then .error .wrongValue
      else
        match cutAt? t s with
        | some p => .ok (.tuple [textOf p.1, textOf t, textOf p.2])
        | none => .ok (.tuple [textOf s, .text "", .text ""])
  | "rpartition" =>
      if t.isEmpty then .error .wrongValue
      else
        match cutAtLast? t s with
        | some p => .ok (.tuple [textOf p.1, textOf t, textOf p.2])
        | none => .ok (.tuple [.text "", .text "", textOf s])
  | "strip" => .ok (textOf (trimRight (trimLeft s)))
  | "lstrip" => .ok (textOf (trimLeft s))
  | "rstrip" => .ok (textOf (trimRight s))
  | "removeprefix" => .ok (textOf (if t.isPrefixOf s then s.drop t.length else s))
  | "removesuffix" =>
      .ok (textOf (if t.isSuffixOf s then s.take (s.length - t.length) else s))
  | "format" => .ok (textOf s)
  | "maketrans" =>
      if s.length = t.length then
        .ok (.record (Entries.ofList ((s.zip t).map fun p => (.int p.1.toNat, .int p.2.toNat))))
      else .error .wrongValue
  | _ => .error .wrongType

/-- The texts of the items of a collection, all of which must be texts. -/
def textItems (v : Value) : Except Failure (List String) := do
  (← Construction.items v).mapM fun item =>
    match item.text? with
    | some s => .ok s
    | none => .error .wrongType

/-- Whether a name of an encoding is one of those that write a character as one to four
bytes. -/
def isUnicodeEncoding (name : String) : Bool :=
  let letters := name.toList.filter fun c => c != '-' && c != '_' && c != ' '
  (String.ofList letters).toLower = "utf8"

def ofText (name : String) (s : String) (args : List Value) : Except Failure Value :=
  match name, args with
  | "join", [v] => do return .text (Text.join s (← textItems v))
  | "__mul__", [.int n] => .ok (textOf (List.replicate n.toNat s.toList).flatten)
  | "__len__", [] => .ok (.int s.length)
  | "__str__", [] => .ok (.text s)
  | "format", _ => .ok (.text s)
  | "format_map", [v] => if v.parts?.isSome then .ok (.text s) else .error .wrongType
  | "translate", [v] => if v.parts?.isSome then .ok (.text s) else .error .wrongType
  | "__format__", [v] =>
      match v.text? with
      | some "" => .ok (.text s)
      | some _ => .error .wrongValue
      | none => .error .wrongType
  | "encode", [v] =>
      match v.text? with
      | some encoding =>
          if isUnicodeEncoding encoding then .ok (.bytes (s.toUTF8.toList))
          else .error .unknownEncoding
      | none => .error .wrongType
  | "__getitem__", [.int i] =>
      match s.toList[(if i < 0 then s.length + i else i).toNat]? with
      | some c => if -(s.length : Int) ≤ i then .ok (textOf [c]) else .error .missingIndex
      | none => .error .missingIndex
  | "replace", [v, w] =>
      match v.text?, w.text? with
      | some t, some u =>
          if t.isEmpty then .ok (.text s)
          else
            .ok (.text (Text.join u
              ((partsBetween t.toList s.length s.toList).map String.ofList)))
      | _, _ => .error .wrongType
  | name, [v] =>
      match v.text? with
      | some t => ofTexts name s.toList t.toList
      | none => .error .wrongType
  | _, _ => .error .wrongType

end Texts

section Sequences

/-- The position of a value in a list, from some position on. -/
def indexFrom (v : Value) (start : Int) (items : List Value) : Except Failure Value :=
  let first := (if start < 0 then max 0 (items.length + start) else start).toNat
  match (items.drop first).findIdx? fun w => w.isSame v with
  | some n => .ok (.int (first + n : Nat))
  | none => .error .wrongValue

/-- The item at a position; negative positions count from the end. -/
def itemAt (items : List Value) (i : Int) : Except Failure Value :=
  if i < -(items.length : Int) then .error .missingIndex
  else
    match items[(if i < 0 then items.length + i else i).toNat]? with
    | some v => .ok v
    | none => .error .missingIndex

/-- A member of a list or tuple. -/
def ofItems (self : Value) (items : List Value) (name : String) (args : List Value) :
    Except Failure Value :=
  let isList := self.isInstance (.builtin .list)
  match name, args with
  | "index", [v] => indexFrom v 0 items
  | "index", [v, .int start] => indexFrom v start items
  | "index", [v, .bool b] => indexFrom v (Value.intOfBool b) items
  | "index", [v, .int start, .int stop] => indexFrom v start (items.take stop.toNat)
  | "count", [v] => .ok (.int (items.filter fun w => w.isSame v).length)
  | "__contains__", [v] => .ok (.bool (v.isIn items))
  | "__getitem__", [.int i] => itemAt items i
  | "__getitem__", [.bool b] => itemAt items (Value.intOfBool b)
  | "__mul__", [v] =>
      match integer? v with
      | some n =>
          let repeated := (List.replicate n.toNat items).flatten
          .ok (if isList then .list repeated else .tuple repeated)
      | none => .error .wrongType
  | "__len__", [] => .ok (.int items.length)
  | "__add__", [v] =>
      match v with
      | .list ys => if isList then .ok (.list (items ++ ys)) else .error .wrongType
      | .tuple ys => if isList then .error .wrongType else .ok (.tuple (items ++ ys))
      | _ => .error .wrongType
  | "append", [_] => if isList then .ok .null else .error .wrongType
  | "extend", [v] => do
      let _ ← Construction.items v
      if isList then .ok .null else .error .wrongType
  | "insert", [.int _, _] => if isList then .ok .null else .error .wrongType
  | "insert", [.bool _, _] => if isList then .ok .null else .error .wrongType
  | "remove", [v] => if v.isIn items then .ok .null else .error .wrongValue
  | "__setitem__", [.int i, _] => do
      let _ ← itemAt items i
      if isList then .ok .null else .error .wrongType
  | "__init__", [] => .ok .null
  | "__init__", [v] => do
      let _ ← Construction.items v
      return .null
  | _, _ => .error .wrongType

def ofEntries (entries : Entries) (name : String) (args : List Value) :
    Except Failure Value :=
  let key := args.headD .null
  if !key.isKey && name != "update" && name != "__init__" then .error .wrongType
  else
    match name, args with
    | "get", [k] => .ok ((Entries.get? entries k).getD .null)
    | "get", [k, other] => .ok ((Entries.get? entries k).getD other)
    | "setdefault", [k] => .ok ((Entries.get? entries k).getD .null)
    | "setdefault", [k, other] => .ok ((Entries.get? entries k).getD other)
    | "pop", [k] =>
        match Entries.get? entries k with
        | some v => .ok v
        | none => .error .missingKey
    | "pop", [k, other] => .ok ((Entries.get? entries k).getD other)
    | "__getitem__", [k] =>
        match Entries.get? entries k with
        | some v => .ok v
        | none => .error .missingKey
    | "__contains__", [k] => .ok (.bool (Entries.get? entries k).isSome)
    | "__setitem__", [_, _] => .ok .null
    | "update", args => do
        let _ ← Construction.optionalEntries args
        return .null
    | "__init__", args => do
        let _ ← Construction.optionalEntries args
        return .null
    | _, _ => .error .wrongType

end Sequences

/-- Whether the values of a type are set up with nothing but their making. -/
def isMadeAtOnce (v : Value) : Bool :=
  match v with
  | .null | .bool _ | .int _ | .float _ | .text _ | .tag _ | .bytes _ | .tuple _ => true
  | .date _ | .timestamp _ => true
  | _ => false

/-- Sets a member of a value, which gives nothing. -/
def setMember (self : Value) (args : List Value) : Except Failure Value :=
  match args with
  | [name, _] =>
      match name.text?, self with
      | none, _ => .error .wrongType
      | some _, .entity .. => .ok .null
      | some _, .module r _ => if r.form = .typeForm then .error .wrongType else .ok .null
      | some _, .function _ => .ok .null
      | some n, .object t _ =>
          if t.isSubtypeOf (.builtin .model) then
            if n.startsWith "_" || t.fields.contains n then .ok .null else .error .wrongValue
          else if t.isSubtypeOf (.builtin .notLoaded) then .error .missingAttribute
          else .ok .null
      | some _, _ => .error .missingAttribute
  | _ => .error .wrongType

/-- A member of a value by its kind. -/
def ofContent (self : Value) (name : String) (args : List Value) : Except Failure Value :=
  match self with
  | .list items => ofItems self items name args
  | .tuple items => ofItems self items name args
  | .map _ entries => ofEntries entries name args
  | .module r _ =>
      match r.form, name, args with
      | .file, "__init__", [n] => if n.text?.isSome then .ok .null else .error .wrongType
      | .file, "__init__", [n, _] => if n.text?.isSome then .ok .null else .error .wrongType
      | _, _, _ => .error .wrongType
  | v =>
      match v.text? with
      | some s => ofText name s args
      | none => .error .wrongType

/-- A member of a value with some arguments. -/
def ofValue (self : Value) (name : String) (args : List Value) : Except Failure Value :=
  match name, args with
  | "__setattr__", args => setMember self args
  | "__delattr__", [n] =>
      match n.text?, self with
      | some m, .entity _ _ fields =>
          if (Fields.get? fields m).isSome then .ok .null else .error .missingAttribute
      | some _, _ => .error .missingAttribute
      | none, _ => .error .wrongType
  | "__subclasshook__", _ => .ok undecided
  | "from_bytes", [_, order] => byteOrder order
  | "__getattribute__", [n] =>
      match n.text? with
      | some m =>
          match (self.ownMember? m).or (self.givenMember? m) with
          | some v => .ok v
          | none => .error .missingAttribute
      | none => .error .wrongType
  | "__init__", args =>
      if isMadeAtOnce self then .ok .null else ofContent self name args
  | name, [w] =>
      ((comparison? name self w).or (arithmetic? name self w)).getD (ofContent self name args)
  | "__pow__", [v, w] => power self v w
  | "__rpow__", [v, w] => power v self w
  | name, args => ofContent self name args

/-- A comparison that every value has, which knows only whether two values are the same, or
the text of a value, which has no other form. -/
def ofObject (self : Value) (name : String) (args : List Value) : Except Failure Value :=
  match name, args with
  | "__eq__", [w] => .ok (if self.isSame w then .bool true else undecided)
  | "__ne__", [w] => ofValue self "__ne__" [w]
  | "__format__", [w] =>
      if w.text? = some "" then .ok (.text self.display) else .error .wrongType
  | _, [_] => .ok undecided
  | _, _ => .error .wrongType

/-- A member of a type with some arguments, the first of which is the value to work on. -/
def ofType (t : TypeRef) (name : String) (args : List Value) : Except Failure Value :=
  match name, args with
  | "__call__", args => Construction.call t args
  | "mro", [] => .ok (.list (t.lineage.map .type))
  | "fromkeys", keys :: rest =>
      if t.isSubtypeOf (.builtin .map) && rest.length ≤ 1 then do
        let ks ← Construction.items keys
        if ks.all Value.isKey then
          return .map t (Entries.ofList (ks.map fun k => (k, rest.headD .null)))
        else .error .wrongType
      else .error .wrongType
  | "maketrans", [v, w] =>
      match v.text?, w.text? with
      | some s, some u => ofTexts name s.toList u.toList
      | _, _ => .error .wrongType
  | "__subclasshook__", _ => .ok undecided
  | "__prepare__", _ => .ok (.record [])
  | "from_bytes", [_, order] => byteOrder order
  | "__init__", self :: rest =>
      match t with
      | .builtin .list | .builtin .map | .builtin .orderedMap | .builtin .defaultMap
      | .builtin .set =>
          if self.isInstance t then ofValue self name rest else .error .wrongType
      | .declared _ .plain .. | .builtin _ =>
          if isMadeAtOnce self then .ok .null
          else if rest.isEmpty then .ok .null
          else .error .wrongType
      | .declared _ .record .. =>
          if rest.length ≤ t.fields.length then
            if isMadeAtOnce self then .error .missingAttribute else .ok .null
          else .error .wrongType
      | .declared _ .readOnlyMap .. =>
          if rest.length = 1 then .error .missingAttribute else .error .wrongType
      | _ => .error .wrongType
  | name, self :: rest =>
      let definer := t.definer name
      if definer = .builtin .object && ("__format__" :: comparisons).contains name then
        ofObject self name rest
      else if self.isInstance definer then ofValue self name rest
      else .error .wrongType
  | _, [] => .error .wrongType

end Member

/-- What a member gives that comes with the type of a value. -/
def Value.callMember (owner : Value) (name : String) (args : List Value) :
    Except Failure Value :=
  match owner with
  | .type t => Member.ofType t name args
  | .module r _ =>
      if r.form = .typeForm then
        Member.ofType (.declared r.name .plain [] none false (.builtin .object)) name args
      else Member.ofValue owner name args
  | v => Member.ofValue v name args

end AccessPolicy
