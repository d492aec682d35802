import AccessPolicy.Json.Printer
import AccessPolicy.Policy
import AccessPolicy.Terminal.Table

/-!
# Reports of commands

What the commands write: one answer in JSON or one on the screen for every result.  An answer
that cannot be written in the form that is asked for is a failure of its own: JSON cannot name
every key, texts of several checks or pairs may look like tags when they are joined, and an
integer may be too long for either.

**Conditions.**  On the screen, the checks of a group are joined by `AND` and groups by
`OR`; a group of several checks stands in brackets and an empty one is a pair of brackets.
A rule without allow groups is allowed `never`.
-/

namespace AccessPolicy
namespace CommandLine

/-- An answer in both forms: data for JSON, and a marked-up text or a table for the screen. -/
structure Answer where
  data : Except Failure Value
  shown : Except Failure String

namespace Answer

def output (json : Bool) (a : Answer) : Except Failure String :=
  if json then do return (← Json.write (← a.data)) ++ "\n" else a.shown

end Answer

namespace Report

/-- A map from names to values. -/
def record (fields : Fields) : Value :=
  Value.ofFields fields

def texts (ss : List String) : Value :=
  .list (ss.map Value.text)

/-- What is shown, if tags match. -/
def visible (shown : Option String) : Except Failure String :=
  match shown with
  | some s => .ok s
  | none => .error .malformedMarkup

/-- A marked-up text as it is shown. -/
def print (signs : Pictogram.Signs) (markup : String) : Except Failure String :=
  visible (Screen.print? signs markup)

/-- The text of a value, if it can be written. -/
def textOf (v : Value) : Except Failure String :=
  if v.isDisplayable then .ok v.display else .error .unwritable

section Failures

/-- The wording of a failure; a missing key in the host program is worded as the key. -/
def wording : Failure → String
  | .raised ⟨"KeyError", message, _⟩ => Text.quoted message
  | f => f.message

/-- A failure as data: a coded fault with all its fields, any other with its wording. -/
def failureData : Failure → Value
  | .fault f => record f.toFields
  | f => record [("message", .text (wording f))]

/-- The answer that a policy is not valid. -/
def invalid (signs : Pictogram.Signs) (f : Failure) : Answer where
  data := .ok (record [("valid", .bool false), ("error", failureData f)])
  shown := print signs ("[red]Policy validation failed:[/red] " ++ Markup.escape (wording f))

/-- The answer that a command failed. -/
def failed (signs : Pictogram.Signs) (kind : String) (f : Failure) : Answer where
  data := .ok (record [("error", .text kind), ("message", .text (wording f))])
  shown := print signs ("[red]Error: " ++ Markup.escape (wording f) ++ "[/red]")

end Failures

section Policies

/-- The answer that a policy is valid. -/
def valid (signs : Pictogram.Signs) (p : Policy) : Answer where
  data :=
    .ok (record
      [("valid", .bool true), ("policy", .text p.name), ("rules", texts p.ruleNames)])
  shown :=
    print signs
      ("[green]✓[/green] Policy [cyan]" ++ Markup.escape p.name ++ "[/cyan] is valid (" ++
        toString p.ruleNames.length ++ " rules)")

def groupText (g : Group) : Except Failure String := do
  let texts ← g.mapM fun c => textOf c.toValue
  let checks := Text.join " AND " (texts.map Markup.escape)
  let shown := if checks.isEmpty then "()" else checks
  return if 1 < g.length then "(" ++ shown ++ ")" else shown

def groupsText (groups : List Group) : Except Failure String := do
  return Text.join " OR " (← groups.mapM groupText)

def allowText (groups : List Group) : Except Failure String := do
  let shown ← groupsText groups
  return if shown.isEmpty then "[red]never[/red]" else shown

/-- The text of a pair of metadata. -/
def pairText (key : String) (value : Value) : Except Failure String := do
  return key ++ "=" ++ (← textOf value)

def ruleRow (r : Rule) : Except Failure (List String) := do
  let allow ← allowText r.allow
  let deny ← groupsText r.deny
  let hooks ← r.preHooks.mapM fun h => textOf h.toValue
  let metadata ← r.metadata.mapM fun m => pairText m.1 m.2
  return [Markup.escape r.name, allow, deny, Text.join ", " (hooks.map Markup.escape),
    Text.join ", " (metadata.map Markup.escape)]

/-- The headers of the columns of rules. -/
def ruleHeaders : List String :=
  ["Rule", "Allow", "Deny", "Pre-hooks", "Metadata"]

/-- The table of some rules of a policy. -/
def ruleTable (p : Policy) (rules : List Rule) : Except Failure Table := do
  return {
    title := "Rules of " ++ Markup.escape p.name ++ " (" ++ toString rules.length ++ ")"
    headers := ruleHeaders
    rows := ← rules.mapM ruleRow }

/-- The groups of a rule as data. -/
def groupsData (groups : List Group) : Except Failure Value := do
  let lists ← groups.mapM fun g => g.mapM fun c => textOf c.toValue
  return .list (lists.map texts)

/-- A rule as data, with checks and hooks in their short forms. -/
def ruleData (r : Rule) : Except Failure Value := do
  let allow ← groupsData r.allow
  let deny ← groupsData r.deny
  let hooks ← r.preHooks.mapM fun h => textOf h.toValue
  return record
    [("name", .text r.name), ("object", .text r.object), ("action", .text r.action),
      ("description", Value.ofOptionalText r.description), ("allow", allow), ("deny", deny),
      ("pre_hooks", texts hooks),
      ("metadata", .list (r.metadata.map fun m => .list [.text m.1, m.2]))]

/-- The answer that lists some rules of a policy. -/
def rules (signs : Pictogram.Signs) (p : Policy) (rules : List Rule) : Answer where
  data := do
    let data ← rules.mapM ruleData
    return record
      [("policy", .text p.name), ("rules", .list data), ("count", .int rules.length)]
  shown := do
    if rules.isEmpty then print signs "[dim]No matching rules.[/dim]"
    else visible ((← ruleTable p rules).print? signs)

end Policies

section Decisions

def decisionText : Decision → String
  | .allowed => "[green]✓ allowed[/green] "
  | .denied => "[red]✗ denied[/red] "
  | .ruleNotFound => "[yellow]? rule not found[/yellow] "

def decided (signs : Pictogram.Signs) (rule : String) (d : Decision) : Answer where
  data :=
    .ok (record
      [("rule", .text rule), ("decision", .text d.text), ("allowed", .bool (d == .allowed))])
  shown := print signs (decisionText d ++ Markup.escape rule)

end Decisions

end Report
end CommandLine
end AccessPolicy
