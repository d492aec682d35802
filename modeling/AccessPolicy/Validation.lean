import AccessPolicy.Failure

/-!
# Validation of data

A model is read from a map.  Its fields are read in the order of declaration, then
the keys that belong to no field are refused in the order of the map.

**Verdicts.**  Reading gives a `Verdict`: the value, the list of all problems, or a
failure that ends validation at once.  Verdicts of several fields combine so that
problems add up and the first such failure wins over all problems.
-/

namespace AccessPolicy

/-- The outcome of reading a part of the data of a model. -/
inductive Verdict (α : Type) where
  | accepted (a : α)
  | rejected (problems : List Problem)
  | aborted (f : Failure)

namespace Verdict

variable {α β : Type}

/-- The verdict on a value computed from an accepted one. -/
def map (f : α → β) : Verdict α → Verdict β
  | .accepted a => .accepted (f a)
  | .rejected ps => .rejected ps
  | .aborted e => .aborted e

/-- Combines two verdicts: problems add up, an abort wins. -/
def seq (f : Verdict (α → β)) (x : Unit → Verdict α) : Verdict β :=
  match f with
  | .aborted e => .aborted e
  | .accepted g => (x ()).map g
  | .rejected ps =>
      match x () with
      | .accepted _ => .rejected ps
      | .rejected qs => .rejected (ps ++ qs)
      | .aborted e => .aborted e

instance : Applicative Verdict where
  pure := .accepted
  map := map
  seq := seq

/-- A single problem at the place of reading. -/
def problem (kind : ProblemKind) : Verdict α :=
  .rejected [⟨kind, []⟩]

/-- Moves the problems of a part below a step. -/
def under (step : Step) : Verdict α → Verdict α
  | .rejected ps => .rejected (ps.map fun p => { p with path := step :: p.path })
  | v => v

/-- The verdicts on all items of a list. -/
def all (read : α → Verdict β) : List α → Verdict (List β)
  | [] => .accepted []
  | a :: rest => (List.cons <$> read a) <*> all read rest

/-- The verdict on a conversion: a refusal becomes a problem, another failure aborts. -/
def ofConversion : Except Failure α → Verdict α
  | .ok a => .accepted a
  | .error (.invalid i) => .rejected i.problems
  | .error f =>
      if f.isRefusal then problem (.refused f.message)
      else .aborted f

/-- The outcome of a model's validation under the model's name. -/
def toExcept (title : String) : Verdict α → Except Failure α
  | .accepted a => .ok a
  | .rejected ps => .error (.invalid ⟨title, ps⟩)
  | .aborted e => .error e

/-- Reads a text, or the text that bytes encode. -/
def text (v : Value) : Verdict String :=
  match v with
  | .bytes bs =>
      match Value.decoded? bs with
      | some s => .accepted s
      | none => problem .textUnreadable
  | v =>
      match v.text? with
      | some s => .accepted s
      | none => problem .textExpected

/-- Reads a text that is not empty. -/
def name (v : Value) : Verdict String :=
  match text v with
  | .accepted s => if s.isEmpty then problem .textTooShort else .accepted s
  | verdict => verdict

def optionalText : Value → Verdict (Option String)
  | .null => .accepted none
  | v => (text v).map some

def anything (v : Value) : Verdict Value :=
  .accepted v

def trueWords : List String := ["1", "on", "t", "true", "y", "yes"]

def falseWords : List String := ["0", "off", "f", "false", "n", "no"]

/-- Whether an integer fits into a machine word. -/
def isWord (i : Int) : Bool :=
  -9223372036854775808 ≤ i && i < 9223372036854775808

/-- Reads a truth value from an integer that fits into a machine word. -/
def boolOfInt (i : Int) : Verdict Bool :=
  if i = 0 then .accepted false
  else if i = 1 then .accepted true
  else problem .boolUnreadable

/-- Reads a truth value from a word in any case. -/
def boolOfText (s : String) : Verdict Bool :=
  let word := s.map Char.toLower
  if trueWords.contains word then .accepted true
  else if falseWords.contains word then .accepted false
  else problem .boolUnreadable

/-- Reads a truth value: itself, the numbers 0 and 1, or a word in any case. -/
def bool : Value → Verdict Bool
  | .bool b => .accepted b
  | .int i => if isWord i then boolOfInt i else problem .boolExpected
  | .float x =>
      match x.toInt? with
      | some i =>
          if isWord i && i != -9223372036854775808 then boolOfInt i else problem .boolExpected
      | none => problem .boolExpected
  | .bytes bs =>
      match Value.decoded? bs with
      | some s => boolOfText s
      | none => problem .boolUnreadable
  | v =>
      match v.text? with
      | some s => boolOfText s
      | none => problem .boolExpected

/-- Reads a decision from its text. -/
def decision (v : Value) : Verdict Decision :=
  match v.text?.bind Decision.ofText? with
  | some d => .accepted d
  | none => problem .notAMember

/-- The step to a value that is looked up by a key of any type. -/
def stepOfKey : Value → Step
  | .int i => if isWord i then .index i else .name (toString i)
  | .bool b => .index (Value.intOfBool b)
  | v => .name (v.text?.getD v.inspect)

/-- Reads one entry of a map with text keys; problems of the key come first. -/
def entry (read : Value → Verdict β) (e : Value × Value) : Verdict (String × β) :=
  under (stepOfKey e.1)
    (Prod.mk <$> under (.name "[key]") (text e.1) <*> read e.2)

/-- Puts something under a name; a name that is there keeps its place. -/
def putNamed (name : String) (b : β) : List (String × β) → List (String × β)
  | [] => [(name, b)]
  | (n, c) :: rest => if n = name then (n, b) :: rest else (n, c) :: putNamed name b rest

/-- What is left of named things if the last one of a name counts. -/
def lastNamed (items : List (String × β)) : List (String × β) :=
  items.foldl (fun done item => putNamed item.1 item.2 done) []

/-- Reads a map with text keys.  Different keys may be read as one text, and then the last one
counts. -/
def mapOf (read : Value → Verdict β) : Value → Verdict (List (String × β))
  | .map _ entries => lastNamed <$> all (entry read) entries
  | _ => problem .mapExpected

section Fields

variable (input : Entries)

/-- Reads a field that must be present. -/
def required (field : String) (read : Value → Verdict α) : Verdict α :=
  under (.name field) <|
    match Entries.getText? input field with
    | some v => read v
    | none => problem .missing

/-- Reads a field that has a default. -/
def optional (field : String) (default : α) (read : Value → Verdict α) : Verdict α :=
  match Entries.getText? input field with
  | some v => under (.name field) (read v)
  | none => .accepted default

/-- Refuses the keys that belong to none of the given fields. -/
def noOthers (fields : List String) : Verdict Unit :=
  let refusals := input.flatMap fun e =>
    match e.1.text? with
    | some s => if fields.contains s then [] else [(⟨.extraForbidden, [.name s]⟩ : Problem)]
    | none => [⟨.invalidKey, [stepOfKey e.1]⟩]
  if refusals.isEmpty then .accepted () else .rejected refusals

end Fields

end Verdict
end AccessPolicy
