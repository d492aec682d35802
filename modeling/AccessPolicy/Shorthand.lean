import AccessPolicy.Check
import AccessPolicy.Hook

/-!
# Shorthand

Policies are written in shorthand: `true`, `"own_resource"`, `("role", "editor")` or
a map of one entry stand for a check, a list for a group or for several groups, and
a text, a pair or a map for a hook.

**Ambiguity.**  A tuple of two items whose first is a text is always a check with an
argument, never a group of two checks.

**Failure.**  A value of no such form is refused with the value itself, unless it nests too
deeply to be written; a form whose name is missing or empty is refused as an invalid model.
-/

namespace AccessPolicy
namespace Shorthand

/-- Whether a value is a pair of a name and an argument. -/
def isArgPair : Value → Bool
  | .tuple [a, _] => a.text?.isSome
  | _ => false

def items? : Value → Option (List Value)
  | .list xs => some xs
  | .tuple xs => some xs
  | _ => none

/-- The refusal of a value, which tells the value if this can be written. -/
def refusal (told : Value → Failure) (raw : Value) : Failure :=
  if raw.isShallow then told raw else .tooDeep

section Checks

/-- A check with an argument, if the name is usable. -/
def withArg (name arg : Value) : Except Failure Check :=
  (Check.readWithArg [(.text "name", name), (.text "arg", arg)]).toExcept Model.argCheck.name

/-- A check without argument, if the name is usable. -/
def named (name : Value) : Except Failure Check :=
  (Check.readNamed [(.text "name", name)]).toExcept Model.namedCheck.name

/-- The check that a value stands for. -/
def check (raw : Value) : Except Failure Check :=
  match Check.ofValue? raw with
  | some c => .ok c
  | none =>
      match raw with
      | .bool b => .ok (.literal b)
      | .text s => named (.text s)
      | .tag t => named (.tag t)
      | .tuple [name, arg] =>
          if name.text?.isSome then withArg name arg
          else .error (refusal .invalidCheck raw)
      | .map _ [(name, arg)] => withArg name arg
      | _ => .error (refusal .invalidCheck raw)

/-- The group of checks that a value stands for. -/
def group (raw : Value) : Except Failure Group :=
  if isArgPair raw then (check raw).map ([·])
  else
    match raw with
    | .list xs => xs.mapM check
    | .tuple xs => xs.mapM check
    | .map _ (e :: e' :: rest) => (e :: e' :: rest).mapM (fun x => withArg x.1 x.2)
    | _ => (check raw).map ([·])

/-- The groups of checks that a value stands for. -/
def conditions (raw : Value) : Except Failure (List Group) :=
  if isArgPair raw then (group raw).map ([·])
  else
    match raw with
    | .null => .ok []
    | .list xs => xs.mapM group
    | .tuple xs => xs.mapM group
    | _ => (group raw).map ([·])

end Checks

section Hooks

/-- A hook found in the check module, if the name is usable. -/
def namedHook (name : Value) : Except Failure Hook :=
  (Hook.readNamed [(.text "name", name)]).toExcept Model.namedHook.name

/-- A hook of a module, if the name is usable. -/
def moduleHook (module name : Value) : Except Failure Hook :=
  (Hook.readInModule [(.text "module", module), (.text "name", name)]).toExcept
    Model.moduleHook.name

/-- A hook of a module with fixed arguments, which must be a map. -/
def moduleArgsHook (module name args : Value) : Except Failure Hook :=
  match args with
  | .map _ entries =>
      (Hook.readInModuleWith
        [(.text "module", module), (.text "name", name),
          (.text "args", Value.record entries)]).toExcept Model.moduleArgsHook.name
  | _ =>
      if name.isWritable then do
        let label := module.labelText ++ "." ++ name.display
        .error (.fault (← Failure.makeFault
          (Fault.make (.invalidHookArgs (.text "") (.text label) args))))
      else .error .unwritable

/-- The keys of a map that stands for a hook. -/
def hookKeys : List String := ["function", "module", "args"]

/-- The hook that a map stands for. -/
def hookOfMap (entries : Entries) : Except Failure Hook :=
  let known := entries.all fun e =>
    match e.1.text? with
    | some s => hookKeys.contains s
    | none => false
  match known, Entries.getText? entries "function" with
  | true, some name =>
      let module := (Entries.getText? entries "module").getD .null
      match (Entries.getText? entries "args").getD .null, module with
      | .null, .null => namedHook name
      | .null, m => moduleHook m name
      | args, m => moduleArgsHook m name args
  | _, _ => .error (refusal .invalidHook (Value.record entries))

/-- The hook that a value stands for. -/
def hook (raw : Value) : Except Failure Hook :=
  match Hook.ofValue? raw with
  | some h => .ok h
  | none =>
      match raw with
      | .text s => namedHook (.text s)
      | .tag t => namedHook (.tag t)
      | .map _ entries => hookOfMap entries
      | .list [m, n] => moduleHook m n
      | .tuple [m, n] => moduleHook m n
      | .list [m, n, a] => moduleArgsHook m n a
      | .tuple [m, n, a] => moduleArgsHook m n a
      | _ => .error (refusal .invalidHook raw)

/-- The hooks that a value stands for. -/
def hooks (raw : Value) : Except Failure (List Hook) :=
  match raw with
  | .null => .ok []
  | .list xs => xs.mapM hook
  | .tuple xs =>
      match xs.mapM Hook.ofValue? with
      | some hs => .ok hs
      | none => (hook raw).map ([·])
  | _ => (hook raw).map ([·])

end Hooks

section Metadata

/-- The pair that an item of metadata stands for. -/
def metadataPair : Value → Except Failure (Value × Value)
  | .map _ [e] => .ok e
  | .list [k, v] => .ok (k, v)
  | .tuple [k, v] => .ok (k, v)
  | entry => .error (refusal .invalidMetadata entry)

/-- The pairs that a value stands for; the keys of a map become texts. -/
def metadata (raw : Value) : Except Failure Entries :=
  match raw with
  | .null => .ok []
  | .map _ entries =>
      if entries.all fun e => e.1.isDisplayable then
        .ok (entries.map fun e => (.text e.1.display, e.2))
      else .error .unwritable
  | _ =>
      match raw.parts? with
      | some items => items.mapM metadataPair
      | none => .error .wrongType

end Metadata

end Shorthand
end AccessPolicy
