import AccessPolicy.Failure

/-!
# Redaction specs

A spec lists what to hide of an object.  An entry hides a field, applies a spec of its
own to the value of a field, or leaves the value of a field to the callback of a type.

Callbacks give specs as plain values: a text, or a pair of a field and either a type or
a nested spec.  `Entry.ofValue` reads them.  What is no entry stays in place as a
malformed one and fails when, and only when, it is reached.  The field of a pair may be the
key of a map, which need not be a text.
-/

namespace AccessPolicy
namespace Redaction

/-- What to do with a field. -/
inductive Entry where
  | hide (field : String)
  | nested (key : Value) (spec : List Entry)
  | delegate (key : Value) (type : TypeRef)
  | malformed (failure : Failure)
deriving Repr

/-- Entries in the order in which they are applied. -/
abbrev Spec := List Entry

namespace Entry

/-- Every character of a text as an entry. -/
def ofCharacters (s : String) : Spec :=
  s.toList.map fun c => .hide (String.singleton c)

/-- Whether an object is gone through field by field. -/
def hasParts (t : TypeRef) : Bool :=
  t.isSubtypeOf (.builtin .model)

mutual

/-- The entry for a field and its target. -/
def ofTarget (key : Value) : Value → Entry
  | .type t => .delegate key t
  | .list xs => .nested key (ofList xs)
  | .tuple xs => .nested key (ofList xs)
  | .set xs => .nested key (ofList xs)
  | .text s => .nested key (ofCharacters s)
  | .tag t => .nested key (ofCharacters t.text)
  | .map _ entries => .nested key (ofKeys entries)
  | .object t fields =>
      .nested key (if hasParts t then ofFields fields else [.malformed .wrongType])
  | .bytes bs => .nested key (bs.map fun _ => .malformed .wrongType)
  | .module r members =>
      match r.form with
      | .typeForm => .delegate key (.declared r.name .plain [] none false (.builtin .object))
      | .table => .nested key (members.map fun m => .hide m.1)
      | _ => .nested key [.malformed .wrongType]
  | _ => .nested key [.malformed .wrongType]

/-- The entry that a value stands for. -/
def ofValue : Value → Entry
  | .text s => .hide s
  | .tag t => .hide t.text
  | .list [key, target] => ofTarget key target
  | .tuple [key, target] => ofTarget key target
  | .set [key, target] => ofTarget key target
  | .map _ [(key, _), (target, _)] => ofTarget key target
  | .object t fields =>
      if hasParts t then
        match fields with
        | [(n, v), (n', w)] => .nested (.tuple [.text n, v]) [.hide n', ofValue w]
        | _ => .malformed .wrongCount
      else .malformed .wrongType
  | .list _ => .malformed .wrongCount
  | .tuple _ => .malformed .wrongCount
  | .set _ => .malformed .wrongCount
  | .map _ _ => .malformed .wrongCount
  | .bytes _ => .malformed .wrongCount
  | _ => .malformed .wrongType

/-- The entries that the items of a sequence stand for. -/
def ofList : List Value → List Entry
  | [] => []
  | v :: rest => ofValue v :: ofList rest

/-- The entries that the keys of a map stand for. -/
def ofKeys : List (Value × Value) → List Entry
  | [] => []
  | (k, _) :: rest => ofValue k :: ofKeys rest

/-- The entries that the fields of an object stand for, each a pair of name and value. -/
def ofFields : List (String × Value) → List Entry
  | [] => []
  | (n, v) :: rest => ofTarget (.text n) v :: ofFields rest

end

end Entry

end Redaction
end AccessPolicy
