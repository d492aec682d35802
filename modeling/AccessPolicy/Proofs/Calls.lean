import AccessPolicy.Proofs.Hydration
import AccessPolicy.Rule

/-!
# Calls of a rule

Which functions a request calls depends on what every earlier call returned.  Here the
calls are listed from the rule alone, without bound checks and the lazy evaluator.

**Calls.**  A `Call` is a hook or a check together with the function found for it and its
arguments.  A call ends the request if its function fails, or if it is a hook that returns
something other than a pair (`Call.failure?`).

**Lists.**  `Hydration.calls` are those of the hooks, each on the pair of the one before.
`Group.calls` are the checks of a group up to and including the first that does not pass,
`Condition.calls` the groups up to and including the first that is decisive, and
`Rule.calls` puts hooks, deny and allow together.

**Runs.**  `Makes` says that a run makes some calls.  It is kept by putting runs one after
another (`Makes.bind`).
-/

namespace AccessPolicy

/-- The items of a list up to and including the first that satisfies a condition. -/
def upTo {α : Type} (p : α → Bool) : List α → List α
  | [] => []
  | a :: rest => if p a then [a] else a :: upTo p rest

theorem mem_of_mem_upTo
    {α : Type}
    {p : α → Bool}
    {a : α}
    {xs : List α}
    (h : a ∈ upTo p xs) :
    a ∈ xs := by
  induction xs with
  | nil =>
      exact h
  | cons x xs ih =>
      rw [upTo] at h
      split at h
      · simp_all
      · rcases List.mem_cons.mp h with rfl | h
        · exact List.mem_cons_self
        · exact List.mem_cons_of_mem _ (ih h)

/-- The function that a name of a module stands for; null if there is none. -/
def Environment.target (env : Environment) (module : Value) (name : String) : Value :=
  match env.resolve module name with
  | .ok (some f) => f
  | _ => .null

/-- What a request makes a call for. -/
inductive Caller where
  | hook (h : Hook)
  | check (c : Check)
deriving Repr

/-- A call of a function. -/
structure Call where
  caller : Caller
  function : Value
  args : List Value
deriving Repr

namespace Call

variable (env : Environment)

/-- What the function gives. -/
def reply (c : Call) : Except Failure Value :=
  (env.callValue c.function c.args).outcome

/-- The events of a call. -/
def events (c : Call) : List Event :=
  (env.callValue c.function c.args).events

/-- The failure that a call ends a request with: that of its function, or that of a hook
which returned no pair.  The latter is told by the short text of the hook, if that can be
written. -/
def failure? (c : Call) : Option Failure :=
  match c.reply env with
  | .error e => some e
  | .ok v =>
      match c.caller, v with
      | .check _, _ => none
      | .hook _, .tuple [_, _] => none
      | .hook h, v =>
          some (if h.isWritable then
            Failure.ofCause (.invalidHookResult (.text h.display) (.text v.typeName))
          else .unwritable)

/-- The pair that a call gives. -/
def pair? (c : Call) : Option (Value × Value) :=
  match c.reply env with
  | .ok (.tuple [s, o]) => some (s, o)
  | _ => none

/-- The hook that a call is made for. -/
def hook? (c : Call) : Option Hook :=
  match c.caller with
  | .hook h => some h
  | .check _ => none

end Call

section Lists

variable (env : Environment) (module : Value)

/-- The call of a hook on a pair. -/
def Hook.call (options : Entries) (subject object : Value) (h : Hook) : Call :=
  ⟨.hook h, env.target (h.moduleIn module) h.name, h.callArguments options subject object⟩

/-- The calls of hooks: each is called on the pair of the one before, and none after one that
gives no pair. -/
def Hydration.calls (options : Entries) : List Hook → Value × Value → List Call
  | [], _ => []
  | h :: rest, pair =>
      let c := h.call env module options pair.1 pair.2
      c :: match c.pair? env with
        | some next => Hydration.calls options rest next
        | none => []

/-- The pair that hooks lead to. -/
def Hydration.prepared? (options : Entries) : List Hook → Value × Value → Option (Value × Value)
  | [], pair => some pair
  | h :: rest, pair =>
      ((h.call env module options pair.1 pair.2).pair? env).bind
        (Hydration.prepared? options rest)

variable (subject object : Value)

/-- The call of a check, with its own argument behind the pair; constants call nothing. -/
def Check.call? (c : Check) : Option Call :=
  match c with
  | .literal _ => none
  | .named n => some ⟨.check c, env.target module n, [subject, object]⟩
  | .withArg n arg => some ⟨.check c, env.target module n, [subject, object, arg]⟩

/-- Whether a check is true, or the failure of its call. -/
def Check.reply (c : Check) : Except Failure Bool :=
  match c, c.call? env module subject object with
  | .literal b, _ => .ok b
  | _, some call => (call.reply env).map Value.isTrue
  | _, none => .error .wrongType

/-- Whether a check is true. -/
def Check.passes (c : Check) : Bool :=
  match c.reply env module subject object with
  | .ok b => b
  | .error _ => false

/-- Whether the call of a check fails. -/
def Check.fails (c : Check) : Bool :=
  match c.reply env module subject object with
  | .ok _ => false
  | .error _ => true

/-- The checks of a group that are looked at. -/
def Group.reached (g : Group) : Group :=
  upTo (fun c => !c.passes env module subject object) g

/-- The calls of a group. -/
def Group.calls (g : Group) : List Call :=
  (Group.reached env module subject object g).filterMap
    (Check.call? env module subject object)

/-- Whether nothing is looked at after a group: it passes, or a call of it fails. -/
def Group.isDecisive (g : Group) : Bool :=
  (!g.isEmpty && g.all (Check.passes env module subject object)) ||
    (Group.reached env module subject object g).any (Check.fails env module subject object)

/-- The calls of a condition. -/
def Condition.calls (groups : List Group) : List Call :=
  (upTo (Group.isDecisive env module subject object) groups).flatMap
    (Group.calls env module subject object)

/-- The calls of the conditions of a rule: deny first, and allow only if no deny group is
decisive. -/
def Rule.conditionCalls (r : Rule) : List Call :=
  Condition.calls env module subject object r.deny ++
    if r.deny.any (Group.isDecisive env module subject object) then []
    else Condition.calls env module subject object r.allow

/-- The calls of a request: hooks first, then the conditions on the pair they lead to. -/
def Rule.calls (options : Entries) (r : Rule) : List Call :=
  Hydration.calls env module options r.preHooks (subject, object) ++
    match Hydration.prepared? env module options r.preHooks (subject, object) with
    | some pair => Rule.conditionCalls env module pair.1 pair.2 r
    | none => []

end Lists

/-- A run makes some calls: their events are its events, all of them return if it gives a
result, and if it fails the last one is the only one to fail, with the same failure. -/
structure Makes {α : Type} (env : Environment) (calls : List Call) (x : Run α) : Prop where
  events_eq : x.events = calls.flatMap (Call.events env)
  of_ok : ∀ a, x.outcome = .ok a → ∀ c ∈ calls, c.failure? env = none
  of_error :
    ∀ e, x.outcome = .error e →
      ∃ before last, calls = before ++ [last] ∧ (∀ c ∈ before, c.failure? env = none) ∧
        last.failure? env = some e

namespace Makes

variable {α β : Type} {env : Environment}

theorem result
    (a : α) :
    Makes env [] (Run.result a) where
  events_eq := rfl
  of_ok := by
    simp
  of_error := by
    simp

/-- What follows a result makes its calls behind those of the first run. -/
theorem bind_of_ok
    {x : Run α}
    {f : α → Run β}
    {calls more : List Call}
    {a : α}
    (hx : Makes env calls x)
    (ha : x.outcome = .ok a)
    (hf : Makes env more (f a)) :
    Makes env (calls ++ more) (x >>= f) where
  events_eq := by
    rw [Run.events_bind_of_ok ha, hx.events_eq, hf.events_eq, List.flatMap_append]
  of_ok := by
    intro b hb c hc
    rw [Run.outcome_bind_of_ok ha] at hb
    rcases List.mem_append.mp hc with hc | hc
    · exact hx.of_ok a ha c hc
    · exact hf.of_ok b hb c hc
  of_error := by
    intro e he
    rw [Run.outcome_bind_of_ok ha] at he
    obtain ⟨before, last, rfl, hbefore, hlast⟩ := hf.of_error e he
    refine ⟨calls ++ before, last, by simp, ?_, hlast⟩
    intro c hc
    rcases List.mem_append.mp hc with hc | hc
    · exact hx.of_ok a ha c hc
    · exact hbefore c hc

theorem bind_of_error
    {x : Run α}
    {f : α → Run β}
    {calls : List Call}
    {e : Failure}
    (hx : Makes env calls x)
    (he : x.outcome = .error e) :
    Makes env calls (x >>= f) where
  events_eq := by
    rw [Run.events_bind_of_error he, hx.events_eq]
  of_ok := by
    intro b hb
    rw [Run.outcome_bind_of_error he] at hb
    cases hb
  of_error := by
    intro e' he'
    rw [Run.outcome_bind_of_error he] at he'
    cases he'
    exact hx.of_error e he

/-- The calls of a run followed by one that makes calls of its own for every result. -/
theorem bind
    {x : Run α}
    {f : α → Run β}
    {calls : List Call}
    {more : List Call}
    (hx : Makes env calls x)
    (hok : ∀ a, x.outcome = .ok a → Makes env more (f a))
    (herror : ∀ e, x.outcome = .error e → more = []) :
    Makes env (calls ++ more) (x >>= f) := by
  cases h : x.outcome with
  | ok a =>
      exact hx.bind_of_ok h (hok a h)
  | error e =>
      rw [herror e h, List.append_nil]
      exact hx.bind_of_error h

/-- A call that fails is the last one, and the run fails as it does. -/
theorem outcome_of_failure
    {x : Run α}
    {calls before after : List Call}
    {c : Call}
    {e : Failure}
    (hx : Makes env calls x)
    (hsplit : calls = before ++ c :: after)
    (hfails : c.failure? env = some e) :
    after = [] ∧ x.outcome = .error e := by
  cases houtcome : x.outcome with
  | ok a =>
      have hnone := hx.of_ok a houtcome c (by simp [hsplit])
      rw [hfails] at hnone
      cases hnone
  | error e' =>
      obtain ⟨before', last, hlast, hbefore, hfails'⟩ := hx.of_error e' houtcome
      rw [hsplit] at hlast
      -- A call that stands before the last one has not failed.
      rcases List.eq_nil_or_concat after with rfl | ⟨init, z, rfl⟩
      · obtain ⟨_, hc⟩ := List.append_inj' hlast rfl
        cases hc
        rw [hfails] at hfails'
        cases hfails'
        exact ⟨rfl, rfl⟩
      · have hassoc : (before ++ c :: init) ++ [z] = before' ++ [last] := by
          simpa using hlast
        obtain ⟨hinit, _⟩ := List.append_inj' hassoc rfl
        have hnone := hbefore c (by simp [← hinit])
        rw [hfails] at hnone
        cases hnone

/-- A call whose reply is turned into a result. -/
theorem single
    {c : Call}
    {k : Value → Except Failure α}
    (hok : ∀ v a, c.reply env = .ok v → k v = .ok a → c.failure? env = none)
    (herror : ∀ v e, c.reply env = .ok v → k v = .error e → c.failure? env = some e) :
    Makes env [c] (env.callValue c.function c.args >>= fun v => Run.ofExcept (k v)) := by
  cases hreply : (env.callValue c.function c.args).outcome with
  | error e =>
      refine ⟨?_, ?_, ?_⟩
      · rw [Run.events_bind_of_error hreply]
        simp [Call.events]
      · intro a ha
        rw [Run.outcome_bind_of_error hreply] at ha
        cases ha
      · intro e' he'
        rw [Run.outcome_bind_of_error hreply] at he'
        cases he'
        exact ⟨[], c, rfl, by simp, by simp [Call.failure?, Call.reply, hreply]⟩
  | ok v =>
      refine ⟨?_, ?_, ?_⟩
      · rw [Run.events_bind_of_ok hreply]
        simp [Call.events]
      · intro a ha
        rw [Run.outcome_bind_of_ok hreply] at ha
        simpa using hok v a hreply ha
      · intro e he
        rw [Run.outcome_bind_of_ok hreply] at he
        exact ⟨[], c, rfl, by simp, herror v e hreply he⟩

end Makes

theorem Environment.target_of_resolve
    {env : Environment}
    {module f : Value}
    {name : String}
    (h : env.resolve module name = .ok (some f)) :
    env.target module name = f := by
  unfold target
  rw [h]

/-- The call of a hook fails iff what it returned is no pair. -/
theorem Call.failure?_eq_of_pairOf
    {env : Environment}
    {c : Call}
    {v : Value}
    (bh : BoundHook)
    (hcaller : c.caller = .hook bh.hook)
    (hreply : c.reply env = .ok v) :
    c.failure? env =
      match bh.pairOf v with
      | .ok _ => none
      | .error e => some e := by
  unfold failure?
  rw [hreply, hcaller]
  by_cases hpair : ∃ s o, v = .tuple [s, o]
  · obtain ⟨s, o, rfl⟩ := hpair
    rfl
  · have hne : ∀ s o, v ≠ .tuple [s, o] := fun s o h => hpair ⟨s, o, h⟩
    simp [BoundHook.pairOf, BoundHook.invalidResult]

/-- The failure of a hook that returned no pair tells of the hook if its short text can be
written. -/
theorem Call.failure?_of_no_pair
    {env : Environment}
    {c : Call}
    {h : Hook}
    {v : Value}
    (hcaller : c.caller = .hook h)
    (hreply : c.reply env = .ok v)
    (hpair : ∀ s o, v ≠ .tuple [s, o]) :
    c.failure? env =
      some (if h.isWritable then
        Failure.ofCause (.invalidHookResult (.text h.display) (.text v.typeName))
      else .unwritable) := by
  have hbound := Call.failure?_eq_of_pairOf ⟨h, c.function⟩ hcaller hreply
  rw [hbound]
  unfold BoundHook.pairOf
  split
  · rename_i heq
    split at heq
    · exact absurd rfl (hpair _ _)
    · cases heq
  · rename_i heq
    split at heq
    · cases heq
    · cases heq
      rfl

theorem Call.pair?_eq_some_iff
    {env : Environment}
    (c : Call)
    (bh : BoundHook)
    (next : Value × Value) :
    c.pair? env = some next
      ↔
    ∃ v, c.reply env = .ok v ∧ bh.pairOf v = .ok next := by
  unfold pair? BoundHook.pairOf
  constructor
  · intro h
    split at h
    · rename_i s o hreply
      cases h
      exact ⟨_, hreply, rfl⟩
    · cases h
  · rintro ⟨v, hreply, hpair⟩
    split at hpair
    · cases hpair
      rw [hreply]
    · cases hpair

end AccessPolicy
