import AccessPolicy.Rule

/-!
# Filters on rules

Rules are looked for by object, action, a check in allow or deny, or metadata.  Filters
are combined: a rule must match each of them, and they are tried in the order in which
they are given.

**Checks.**  A bare name finds the checks of that name, with or without an argument;
anything else that stands for a check finds that check alone.  What a filter stands for
is determined for each rule that reaches it, so that a filter that stands for no check
fails only then.

**Metadata.**  A tuple finds exactly that pair, any other value finds it as a key.
-/

namespace AccessPolicy
namespace RuleFilter

/-- The options that a filter can name. -/
def options : List String := ["object", "action", "allow", "deny", "metadata"]

/-- Whether a check is one that is looked for. -/
def checkMatches (wanted c : Check) : Bool :=
  match wanted with
  | .named n => c.name? == some n
  | _ => c.agrees wanted

/-- Whether some group holds a check that a value looks for. -/
def matchesCheck (groups : List Group) (filter : Value) : Except Failure Bool := do
  let wanted ← Shorthand.check filter
  return groups.any fun g => g.any (checkMatches wanted)

/-- Whether metadata has a pair or a key that a value looks for. -/
def matchesMetadata (pairs : Entries) (filter : Value) : Bool :=
  match filter with
  | .tuple _ => pairs.any fun p => (Value.tuple [p.1, p.2]).agrees filter
  | _ => pairs.any fun p => p.1.agrees filter

/-- Whether a rule matches one filter. -/
def matchesOne (r : Rule) (option : String) (value : Value) : Except Failure Bool :=
  match option with
  | "object" => .ok ((Value.text r.object).agrees value)
  | "action" => .ok ((Value.text r.action).agrees value)
  | "allow" => matchesCheck r.allow value
  | "deny" => matchesCheck r.deny value
  | "metadata" => .ok (matchesMetadata (Value.textEntries r.metadata) value)
  | _ => .ok true

/-- Whether a rule matches all filters; nothing after a filter that fails is tried. -/
def matchesAll (r : Rule) : Fields → Except Failure Bool
  | [] => .ok true
  | (option, value) :: rest => do
      if ← matchesOne r option value then matchesAll r rest
      else .ok false

/-- The rules that match, in order. -/
def select (filters : Fields) : List Rule → Except Failure (List Rule)
  | [] => .ok []
  | r :: rest => do
      let keep ← matchesAll r filters
      let more ← select filters rest
      return if keep then r :: more else more

/-- The filters that are set to something. -/
def active (filters : Fields) : Fields :=
  filters.filter fun f =>
    match f.2 with
    | .null => false
    | _ => true

/-- Filters rules; an option of another name is refused before anything else. -/
def filterRules (rules : List Rule) (filters : Fields) : Except Failure (List Rule) :=
  match filters.find? (fun f => !options.contains f.1) with
  | some f => .error (Failure.ofCause (.invalidFilter (.text f.1)))
  | none => select (active filters) rules

end RuleFilter
end AccessPolicy
