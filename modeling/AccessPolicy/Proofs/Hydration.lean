import AccessPolicy.Hydration
import AccessPolicy.Proofs.Outcome

/-!
# How hooks prepare subject and object

Hooks form a chain: each gets the pair that the one before it returned.
`Hydration.Prepares` is that chain as a relation between the pair of a request and
the pair that the checks see, without an evaluator.

**Arguments.**  A hook is called with a third argument iff its fixed arguments and the
options of the request are not both empty (`Hook.callArguments`).

**Agreement.**  Bound hooks run along the chain (`outcome_hydrate`).
-/

namespace AccessPolicy

/-- The options that a request may have: none, or a map. -/
def Value.IsOptions (options : Value) : Prop :=
  options = .null ∨ ∃ type entries, options = .map type entries

/-- The entries of the options of a request; none if there are no options. -/
def Value.optionEntries (options : Value) : Entries :=
  options.entries?.getD []

theorem Entries.merge_eq_nil_iff
    (entries more : Entries) :
    Entries.merge entries more = [] ↔ entries = [] ∧ more = [] := by
  have hset : ∀ (es : Entries) (k v : Value), Entries.set es k v ≠ [] := by
    intro es k v
    cases es with
    | nil =>
        simp [Entries.set]
    | cons e rest =>
        unfold Entries.set
        split <;> simp
  induction more generalizing entries with
  | nil =>
      simp [Entries.merge]
  | cons e more ih =>
      have hstep : Entries.merge entries (e :: more) =
          Entries.merge (Entries.set entries e.1 e.2) more := rfl
      rw [hstep]
      exact (ih _).trans (by simp [hset])

/-- A hook has a third argument iff its fixed arguments and the options are not both empty. -/
theorem Hook.callArguments_eq_pair_iff
    (h : Hook)
    (options : Entries)
    (subject object : Value) :
    h.callArguments options subject object = [subject, object]
      ↔
    h.fixedArgs = [] ∧ options = [] := by
  have hmerge := Entries.merge_eq_nil_iff (Value.textEntries h.fixedArgs) options
  have htext : Value.textEntries h.fixedArgs = [] ↔ h.fixedArgs = [] := by
    simp [Value.textEntries]
  rw [← htext, ← hmerge]
  unfold Hook.callArguments
  split
  · simp_all
  · simp_all

theorem Hydration.optionEntries_of_isOptions
    {options : Value}
    (h : options.IsOptions) :
    Hydration.optionEntries options = .ok options.optionEntries := by
  rcases h with rfl | ⟨type, entries, rfl⟩
  · rfl
  · cases entries with
    | nil =>
        rfl
    | cons e rest =>
        rfl

namespace Hydration

/-- The hooks of a rule, called in order, return pairs that lead from the first pair to the
last one. -/
inductive Prepares
    (env : Environment)
    (module : Value)
    (options : Entries) :
    List Hook → Value × Value → Value × Value → Prop
  | done (pair : Value × Value) :
      Prepares env module options [] pair pair
  | step
      {h : Hook}
      {hooks : List Hook}
      {f subject object s o : Value}
      {last : Value × Value}
      (hfound : env.resolve (h.moduleIn module) h.name = .ok (some f))
      (hcall :
        (env.callValue f (h.callArguments options subject object)).outcome =
          .ok (.tuple [s, o]))
      (hrest : Prepares env module options hooks (s, o) last) :
      Prepares env module options (h :: hooks) (subject, object) last

variable {env : Environment} {module : Value} {rule policy : String}

/-- What binding a hook finds: the function of its name in its module. -/
theorem bindHook_eq_ok
    {h : Hook}
    {bh : BoundHook}
    (hbind : bindHook env module rule policy h = .ok bh) :
    bh.hook = h ∧ env.resolve (h.moduleIn module) h.name = .ok (some bh.function) := by
  unfold bindHook at hbind
  obtain ⟨found, hfound, hrest⟩ := except_bind_eq_ok_iff.mp hbind
  cases found with
  | none =>
      cases hrest
  | some f =>
      cases hrest
      exact ⟨rfl, hfound⟩

/-- Bound hooks run along the chain of the hooks they are bound for. -/
theorem outcome_runAll
    {options : Entries}
    {hooks : List Hook}
    {bound : List BoundHook}
    {first last : Value × Value}
    (hbind : List.Forall₂ (fun h bh => bindHook env module rule policy h = .ok bh) hooks bound)
    (hchain : Prepares env module options hooks first last) :
    (runAll env options bound first.1 first.2).outcome = .ok last := by
  induction hchain generalizing bound with
  | done pair =>
      cases hbind
      rfl
  | @step h hooks f subject object s o last hfound hcall _ ih =>
      cases hbind with
      | @cons _ bh _ bound hb hbs =>
          obtain ⟨rfl, hresolve⟩ := bindHook_eq_ok hb
          rw [hresolve] at hfound
          cases hfound
          have hrun : (bh.run env options subject object).outcome = .ok (s, o) := by
            rw [BoundHook.run, Run.outcome_bind_of_ok hcall]
            rfl
          rw [runAll, Run.outcome_bind_of_ok hrun]
          exact ih hbs

/-- With options that a request may have, bound hooks run on the entries of the options. -/
theorem hydrate_eq_runAll
    {options : Value}
    (hoptions : options.IsOptions)
    (bound : List BoundHook)
    (subject object : Value) :
    hydrate env options bound subject object =
      runAll env options.optionEntries bound subject object := by
  unfold hydrate
  cases bound with
  | nil =>
      rfl
  | cons bh rest =>
      rw [optionEntries_of_isOptions hoptions]
      rfl

/-- The bound hooks of a rule prepare subject and object as the chain of its hooks says. -/
theorem outcome_hydrate
    {options : Value}
    {hooks : List Hook}
    {bound : List BoundHook}
    {first last : Value × Value}
    (hoptions : options.IsOptions)
    (hbind : bind env module rule policy hooks = .ok bound)
    (hchain : Prepares env module options.optionEntries hooks first last) :
    (hydrate env options bound first.1 first.2).outcome = .ok last := by
  rw [hydrate_eq_runAll hoptions]
  exact outcome_runAll (mapM_eq_ok_iff_forall₂.mp hbind) hchain

end Hydration
end AccessPolicy
