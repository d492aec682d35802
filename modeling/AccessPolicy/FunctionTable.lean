import AccessPolicy.Failure
import AccessPolicy.Value.Order

/-!
# Tables of functions

A table maps names to functions.  A function is registered under a given name or under
its own; registering a name again replaces the function and keeps its position.

**Names.**  A name is a text as a rule, but may be any value that can be a key.  Names can be
listed in order only if they are comparable, and the text of a table is made of texts.
-/

namespace AccessPolicy

/-- A named table of functions in the order of first registration. -/
structure FunctionTable where
  name : Value := .text "checks"
  functions : Entries := []
deriving Repr

namespace FunctionTable

/-- The name that a value has of its own. -/
def ownName : Value → String
  | .function f => f.name
  | .type t => t.name
  | .module r _ => if r.form = .typeForm ∨ r.form = .file then r.name else ""
  | .method _ name => name
  | _ => ""

/-- The name under which a value is registered: the given one if it counts as true. -/
def effectiveName (given name : Value) : Value :=
  if name.isTrue then name else .text (ownName given)

/-- Registers a value, which must be a function with a name. -/
def register (t : FunctionTable) (given name : Value) : Except Failure FunctionTable :=
  if !given.isCallable then .error (.notCallable given)
  else if !(effectiveName given name).isTrue then .error .namelessFunction
  else if !(effectiveName given name).isKey then .error .wrongType
  else .ok { t with functions := Entries.set t.functions (effectiveName given name) given }

/-- Registers a value at once; without a value, waits for one to decorate. -/
def registerDirect (t : FunctionTable) (given name : Value) :
    Except Failure (Option FunctionTable) :=
  match given with
  | .null => .ok none
  | v => (t.register v name).map some

/-- The function of a name, which must be a possible key. -/
def get? (t : FunctionTable) (name : Value) : Except Failure (Option Value) :=
  if name.isKey then .ok (Entries.get? t.functions name) else .error .wrongType

/-- Whether a name, which must be a possible key, is registered. -/
def contains (t : FunctionTable) (name : Value) : Except Failure Bool := do
  return (← t.get? name).isSome

def size (t : FunctionTable) : Nat :=
  t.functions.length

/-- The registered names in the order of first registration. -/
def names (t : FunctionTable) : List Value :=
  t.functions.map (·.1)

def sortedNames (t : FunctionTable) : Except Failure (List Value) :=
  match Value.sorted? t.names with
  | some names => .ok names
  | none => .error .wrongType

def inspect (t : FunctionTable) : Except Failure String := do
  let names ← (← t.sortedNames).mapM fun n =>
    match n.text? with
    | some s => .ok s
    | none => .error .wrongType
  return "<CheckRegistry " ++ t.name.display ++ ": " ++ Value.bracketed "[" "]" names ++ ">"

end FunctionTable
end AccessPolicy
