import AccessPolicy.Failure

/-!
# Runs

Deciding a request calls functions of the host program and writes log records.  A
`Run` is the outcome of an operation together with these events in order, so that
laziness, order and provenance of failures can be stated of it.

`Run` is a monad: the events of a first operation come before those of what
follows, and nothing follows a failure.
-/

namespace AccessPolicy

/-- How much a log record matters. -/
inductive LogLevel where
  | debug
  | warning
deriving DecidableEq, Repr

/-- A log record about a rule of a policy. -/
structure LogRecord where
  level : LogLevel
  message : String
  rule : String
  policy : String
  decision : Option Decision
deriving DecidableEq, Repr

/--
Something that an operation does besides giving its result: it calls a function,
consults the redaction callback of the labelled type, or writes a log record.
-/
inductive Event where
  | call (function : Function) (args : List Value)
  | consult (label : String) (subject options : Value)
  | log (record : LogRecord)
deriving Repr

/-- An outcome and the events on the way to it. -/
structure Run (α : Type) where
  events : List Event
  outcome : Except Failure α

namespace Run

variable {α β : Type}

def result (a : α) : Run α :=
  ⟨[], .ok a⟩

def fail (f : Failure) : Run α :=
  ⟨[], .error f⟩

/-- One operation after another; nothing follows a failure. -/
def andThen (x : Run α) (f : α → Run β) : Run β :=
  match x.outcome with
  | .ok a => ⟨x.events ++ (f a).events, (f a).outcome⟩
  | .error e => ⟨x.events, .error e⟩

instance : Monad Run where
  pure := result
  bind := andThen

def ofExcept (x : Except Failure α) : Run α :=
  ⟨[], x⟩

/-- An operation whose failure is handed to what follows, exceptions and all else alike. -/
def attempt (x : Run α) : Run (Except Failure α) :=
  ⟨x.events, .ok x.outcome⟩

/-- A log record and nothing else. -/
def log (record : LogRecord) : Run Unit :=
  ⟨[.log record], .ok ()⟩

/-- The calls of functions among the events, with their arguments. -/
def calls (x : Run α) : List (Function × List Value) :=
  x.events.filterMap fun
    | .call f args => some (f, args)
    | _ => none

/-- The log records among the events. -/
def logs (x : Run α) : List LogRecord :=
  x.events.filterMap fun
    | .log record => some record
    | _ => none

/-- Runs an operation for each item in order and collects the results. -/
def forEach (f : α → Run β) : List α → Run (List β)
  | [] => result []
  | a :: rest => do
      let b ← f a
      let bs ← forEach f rest
      return b :: bs

end Run
end AccessPolicy
