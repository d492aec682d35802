import AccessPolicy.Policy

/-!
# What runs of a request keep

A request runs hooks and then conditions, and each of them calls a value.  So what calls and results
have, and runs one after another keep, the hooks and the conditions of every request have
(`Run.Kept`).
-/

namespace AccessPolicy

/-- A property of runs that calls and the refusals of a request have, and that runs one after
another keep. -/
structure Run.Kept (env : Environment) (P : (α : Type) → Run α → Prop) : Prop where
  result : ∀ {α : Type} (a : α), P α (.result a)
  bind :
    ∀ {α β : Type} {x : Run α} {f : α → Run β}, P α x → (∀ a, P β (f a)) → P β (x >>= f)
  call : ∀ v args, P Value (env.callValue v args)
  wrongType : ∀ {α : Type}, P α (.fail .wrongType)
  pair : ∀ (h : BoundHook) v, P (Value × Value) (.ofExcept (h.pairOf v))

namespace Run.Kept

variable {env : Environment} {P : (α : Type) → Run α → Prop}
variable (hP : Run.Kept env P) (subject object : Value)
include hP

theorem check
    (c : BoundCheck) :
    P Bool (c.run env subject object) := by
  unfold BoundCheck.run
  split
  · exact hP.result _
  · exact hP.bind (hP.call _ _) fun v => hP.result v.isTrue
  · exact hP.wrongType

theorem allPass
    (g : BoundGroup) :
    P Bool (Condition.allPass env subject object g) := by
  induction g with
  | nil =>
      exact hP.result true
  | cons c rest ih =>
      refine hP.bind (hP.check subject object c) fun b => ?_
      cases b with
      | true =>
          exact ih
      | false =>
          exact hP.result false

theorem evaluate
    (groups : List BoundGroup) :
    P Bool (Condition.evaluate env subject object groups) := by
  induction groups with
  | nil =>
      exact hP.result false
  | cons g rest ih =>
      cases g with
      | nil =>
          exact ih
      | cons c cs =>
          refine hP.bind (hP.allPass subject object (c :: cs)) fun b => ?_
          cases b with
          | true =>
              exact hP.result true
          | false =>
              exact ih

theorem runAll
    (options : Entries)
    (hooks : List BoundHook) :
    P (Value × Value) (Hydration.runAll env options hooks subject object) := by
  induction hooks generalizing subject object with
  | nil =>
      exact hP.result _
  | cons h rest ih =>
      have hrun : P (Value × Value) (h.run env options subject object) :=
        hP.bind (hP.call _ _) fun v => hP.pair h v
      exact hP.bind hrun fun pair => ih pair.1 pair.2

theorem hydrate
    (options : Value)
    (hooks : List BoundHook) :
    P (Value × Value) (Hydration.hydrate env options hooks subject object) := by
  have hentries : P Entries (.ofExcept (Hydration.optionEntries options)) := by
    unfold Hydration.optionEntries
    split
    · exact hP.result []
    · split
      · exact hP.result _
      · exact hP.wrongType
  unfold Hydration.hydrate
  split
  · exact hP.result _
  · exact hP.bind hentries fun entries => hP.runAll subject object entries hooks

theorem judge
    (c : CompiledRule) :
    P Decision (Policy.judge env c subject object) := by
  refine hP.bind (hP.evaluate subject object c.deny) fun denies => ?_
  cases denies with
  | true =>
      exact hP.result Decision.denied
  | false =>
      refine hP.bind (hP.evaluate subject object c.allow) fun allows => ?_
      cases allows with
      | true =>
          exact hP.result Decision.allowed
      | false =>
          exact hP.result Decision.denied

/-- What runs of a request keep, they have until the decision is recorded. -/
theorem request
    (options : Value)
    (c : CompiledRule) :
    P Decision (Hydration.hydrate env options c.preHooks subject object >>= fun pair =>
      Policy.judge env c pair.1 pair.2) :=
  hP.bind (hP.hydrate subject object options c.preHooks) fun pair =>
    hP.judge pair.1 pair.2 c

end Run.Kept
end AccessPolicy
