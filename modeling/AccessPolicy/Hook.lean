import AccessPolicy.Validation

/-!
# Hooks

A hook is a function that prepares subject and object before the checks of a rule.
It is named alone, to be found in the check module of the policy, or together with
a module of its own, and in the latter case may carry fixed arguments.
-/

namespace AccessPolicy

/-- A reference to a hook. -/
inductive Hook where
  | named (name : String)
  | inModule (module : Value) (name : String)
  | inModuleWith (module : Value) (name : String) (args : Fields)
deriving Repr

namespace Hook

def model : Hook → Model
  | .named _ => .namedHook
  | .inModule _ _ => .moduleHook
  | .inModuleWith _ _ _ => .moduleArgsHook

def toValue : Hook → Value
  | .named n => .object (.schema .namedHook) [("name", .text n)]
  | .inModule m n => .object (.schema .moduleHook) [("module", m), ("name", .text n)]
  | .inModuleWith m n a =>
      .object (.schema .moduleArgsHook)
        [("module", m), ("name", .text n), ("args", Value.ofFields a)]

/-- The text keys of a map, if it has no others. -/
def textKeys? : Entries → Option Fields
  | [] => some []
  | (.text k, v) :: rest => (textKeys? rest).map ((k, v) :: ·)
  | _ => none

/-- The hook that a value is. -/
def ofValue? : Value → Option Hook
  | .object (.schema .namedHook) [(_, .text n)] => some (.named n)
  | .object (.schema .moduleHook) [(_, m), (_, .text n)] => some (.inModule m n)
  | .object (.schema .moduleArgsHook) [(_, m), (_, .text n), (_, .map _ a)] =>
      (textKeys? a).map (.inModuleWith m n)
  | _ => none

/-- The function that a hook calls. -/
def name : Hook → String
  | .named n => n
  | .inModule _ n => n
  | .inModuleWith _ n _ => n

/-- The module that a hook names; the check module of the policy if it names none. -/
def moduleIn (checkModule : Value) : Hook → Value
  | .named _ => checkModule
  | .inModule .null _ => checkModule
  | .inModuleWith .null _ _ => checkModule
  | .inModule m _ => m
  | .inModuleWith m _ _ => m

/-- The arguments that the rule fixes for a hook. -/
def fixedArgs : Hook → Fields
  | .inModuleWith _ _ a => a
  | _ => []

/-- The short text of a hook. -/
def display (h : Hook) : String :=
  h.toValue.display

/-- Whether the short text of a hook can be written. -/
def isWritable : Hook → Bool
  | .named _ => true
  | .inModule m _ => m.moduleLabel.isWritable
  | .inModuleWith m _ a => m.moduleLabel.isWritable && (Value.ofFields a).isWritable

/-- A hook without module from the fields of its model. -/
def readNamed (input : Entries) : Verdict Hook :=
  Hook.named <$> Verdict.required input "name" Verdict.name
    <* Verdict.noOthers input ["name"]

/-- A hook in a module from the fields of its model. -/
def readInModule (input : Entries) : Verdict Hook :=
  Hook.inModule <$> Verdict.required input "module" Verdict.anything
    <*> Verdict.required input "name" Verdict.name
    <* Verdict.noOthers input ["module", "name"]

/-- A hook with fixed arguments from the fields of its model. -/
def readInModuleWith (input : Entries) : Verdict Hook :=
  Hook.inModuleWith <$> Verdict.required input "module" Verdict.anything
    <*> Verdict.required input "name" Verdict.name
    <*> Verdict.optional input "args" [] (Verdict.mapOf Verdict.anything)
    <* Verdict.noOthers input ["module", "name", "args"]

theorem textKeys?_textEntries (fields : Fields) :
    textKeys? (Value.textEntries fields) = some fields := by
  induction fields with
  | nil => rfl
  | cons f rest ih =>
      have h : Value.textEntries (f :: rest) = (.text f.1, f.2) :: Value.textEntries rest := rfl
      simp [h, textKeys?, ih]

@[simp] theorem ofValue?_toValue (h : Hook) : ofValue? h.toValue = some h := by
  cases h with
  | named n => rfl
  | inModule m n => rfl
  | inModuleWith m n a =>
      simp [toValue, ofValue?, Value.ofFields, Value.record, textKeys?_textEntries]

end Hook
end AccessPolicy
