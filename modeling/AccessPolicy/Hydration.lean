import AccessPolicy.Environment
import AccessPolicy.Hook

/-!
# Hydration

The hooks of a rule run in order before its checks.  Each gets the subject and the
object that the one before it returned, and a third argument if its fixed arguments
and the options of the request are not both empty.  Options win over fixed arguments.

A hook must return a pair; its own failures pass through unchanged.  The failure of a hook
that returns anything else tells the short text of the hook, if that can be written.
-/

namespace AccessPolicy

/-- What a hook is called with: subject, object, and a third argument with its fixed
arguments and the options of the request if there are any, those of the request winning. -/
def Hook.callArguments (options : Entries) (subject object : Value) (h : Hook) : List Value :=
  match Entries.merge (Value.textEntries h.fixedArgs) options with
  | [] => [subject, object]
  | args => [subject, object, Value.record args]

/-- A hook and what it calls. -/
structure BoundHook where
  hook : Hook
  function : Value
deriving Repr

namespace BoundHook

/-- The failure of a hook that returned something other than a pair. -/
def invalidResult (h : BoundHook) (result : Value) : Failure :=
  if h.hook.isWritable then
    Failure.ofCause (.invalidHookResult (.text h.hook.display) (.text result.typeName))
  else .unwritable

/-- The pair that a hook returned. -/
def pairOf (h : BoundHook) : Value → Except Failure (Value × Value)
  | .tuple [s, o] => .ok (s, o)
  | v => .error (h.invalidResult v)

/-- Runs a hook on subject and object. -/
def run (env : Environment) (options : Entries) (h : BoundHook) (subject object : Value) :
    Run (Value × Value) := do
  let v ← env.callValue h.function (h.hook.callArguments options subject object)
  .ofExcept (h.pairOf v)

end BoundHook

namespace Hydration

section Binding

variable (env : Environment) (module : Value) (rule policy : String)

/-- The failure of a hook without a function, which tells the module where none was found,
if that can be written. -/
def unknownHook (h : Hook) : Failure :=
  let label := (h.moduleIn module).moduleLabel
  if label.isWritable then
    Failure.ofCause (.unknownHook (.text policy) (.text h.name) (.text rule) label)
  else .unwritable

/-- Finds the function of one hook. -/
def bindHook (h : Hook) : Except Failure BoundHook := do
  match ← env.resolve (h.moduleIn module) h.name with
  | some f => .ok ⟨h, f⟩
  | none => .error (unknownHook module rule policy h)

/-- Finds the functions of some hooks. -/
def bind (hooks : List Hook) : Except Failure (List BoundHook) :=
  hooks.mapM (bindHook env module rule policy)

end Binding

/-- The entries of options, which must be a map if they are anything. -/
def optionEntries (options : Value) : Except Failure Entries :=
  if !options.isTrue then .ok []
  else
    match options.entries? with
    | some entries => .ok entries
    | none => .error .wrongType

/-- Runs hooks in order, each on what the one before returned. -/
def runAll (env : Environment) (options : Entries) :
    List BoundHook → Value → Value → Run (Value × Value)
  | [], subject, object => .result (subject, object)
  | h :: rest, subject, object => do
      let p ← h.run env options subject object
      runAll env options rest p.1 p.2

/-- Prepares subject and object; options without a hook that gets them are not looked at. -/
def hydrate (env : Environment) (options : Value) (hooks : List BoundHook)
    (subject object : Value) : Run (Value × Value) :=
  if hooks.isEmpty then .result (subject, object)
  else do
    let entries ← Run.ofExcept (optionEntries options)
    runAll env entries hooks subject object

end Hydration
end AccessPolicy
