import AccessPolicy.Proofs.Calls
import AccessPolicy.Proofs.Decision

/-!
# The calls of a request

The run of a request makes the calls that are listed for its rule and no others.

**Parts.**  The calls of bound hooks, groups and conditions are those of the hooks, groups
and conditions they were bound from, one after another in the order of the run.

**Requests.**  Deciding makes the calls of the hooks and then those of the conditions, on
the pair that the hooks lead to (`makes_decide`).
-/

namespace AccessPolicy

namespace Hydration

variable {env : Environment} {module : Value} {rule policy : String}

/-- A bound hook makes the call of its hook and gives the pair of this call. -/
theorem makes_run
    {h : Hook}
    {bh : BoundHook}
    (hbind : bindHook env module rule policy h = .ok bh)
    (options : Entries)
    (pair : Value × Value) :
    Makes env [h.call env module options pair.1 pair.2] (bh.run env options pair.1 pair.2) ∧
      ∀ next, (bh.run env options pair.1 pair.2).outcome = .ok next ↔
        (h.call env module options pair.1 pair.2).pair? env = some next := by
  obtain ⟨rfl, hresolve⟩ := bindHook_eq_ok hbind
  have hcall :
      bh.hook.call env module options pair.1 pair.2 =
        ⟨.hook bh.hook, bh.function, bh.hook.callArguments options pair.1 pair.2⟩ := by
    rw [Hook.call, Environment.target_of_resolve hresolve]
  rw [hcall, BoundHook.run]
  constructor
  · refine Makes.single ?_ ?_
    · intro v a hreply hpair
      rw [Call.failure?_eq_of_pairOf bh rfl hreply, hpair]
    · intro v e hreply hpair
      rw [Call.failure?_eq_of_pairOf bh rfl hreply, hpair]
  · intro next
    rw [Run.outcome_bind_eq_ok_iff, Call.pair?_eq_some_iff _ bh]
    rfl

/-- Bound hooks make the calls of their hooks and give the pair these lead to. -/
theorem makes_runAll
    (options : Entries)
    {hooks : List Hook}
    {bound : List BoundHook}
    (hbind : List.Forall₂ (fun h bh => bindHook env module rule policy h = .ok bh) hooks bound)
    (pair : Value × Value) :
    Makes env (calls env module options hooks pair)
        (runAll env options bound pair.1 pair.2) ∧
      ∀ last, (runAll env options bound pair.1 pair.2).outcome = .ok last ↔
        prepared? env module options hooks pair = some last := by
  induction hbind generalizing pair with
  | nil =>
      exact ⟨Makes.result _, by simp [runAll, prepared?]⟩
  | @cons h bh hooks bound hb _ ih =>
      obtain ⟨hmakes, hpair⟩ := makes_run hb options pair
      rw [runAll, calls, prepared?]
      cases hrun : (bh.run env options pair.1 pair.2).outcome with
      | error e =>
          rw [Run.eq_none_of_outcome_eq_error hpair hrun]
          constructor
          · exact hmakes.bind_of_error hrun
          · intro last
            simp [Run.outcome_bind_of_error hrun]
      | ok next =>
          have hsome := (hpair next).mp hrun
          rw [hsome]
          obtain ⟨hrest, hlast⟩ := ih next
          constructor
          · exact hmakes.bind_of_ok hrun hrest
          · intro last
            rw [Run.outcome_bind_of_ok hrun]
            exact hlast last

/-- The pair that bound hooks lead to is prepared by the chain of their hooks. -/
theorem prepares_of_prepared?
    {options : Entries}
    {hooks : List Hook}
    {bound : List BoundHook}
    (hbind : List.Forall₂ (fun h bh => bindHook env module rule policy h = .ok bh) hooks bound)
    {pair last : Value × Value}
    (hlast : prepared? env module options hooks pair = some last) :
    Prepares env module options hooks pair last := by
  induction hbind generalizing pair with
  | nil =>
      cases hlast
      exact Prepares.done _
  | @cons h bh hooks bound hb _ ih =>
      obtain ⟨rfl, hresolve⟩ := bindHook_eq_ok hb
      rw [prepared?, Option.bind_eq_some_iff] at hlast
      obtain ⟨⟨s, o⟩, hpair, hrest⟩ := hlast
      rw [Call.pair?_eq_some_iff _ bh] at hpair
      obtain ⟨v, hreply, hv⟩ := hpair
      rw [Call.reply, Hook.call, Environment.target_of_resolve hresolve] at hreply
      unfold BoundHook.pairOf at hv
      split at hv
      · cases hv
        exact Prepares.step hresolve hreply (ih hrest)
      · cases hv

theorem caller_of_mem_calls
    {options : Entries}
    {hooks : List Hook}
    {pair : Value × Value}
    {c : Call}
    (hc : c ∈ calls env module options hooks pair) :
    ∃ h, c.caller = .hook h := by
  induction hooks generalizing pair with
  | nil =>
      simp [calls] at hc
  | cons h hooks ih =>
      rw [calls] at hc
      rcases List.mem_cons.mp hc with rfl | hc
      · exact ⟨h, rfl⟩
      · cases hpair : (h.call env module options pair.1 pair.2).pair? env with
        | none =>
            simp [hpair] at hc
        | some next =>
            rw [hpair] at hc
            exact ih hc

/-- Hooks are called in the order of the rule, each at most once. -/
theorem hooks_of_calls
    (env : Environment)
    (module : Value)
    (options : Entries)
    (hooks : List Hook)
    (pair : Value × Value) :
    (calls env module options hooks pair).filterMap Call.hook? <+: hooks := by
  induction hooks generalizing pair with
  | nil =>
      simp [calls]
  | cons h hooks ih =>
      rw [calls]
      cases (h.call env module options pair.1 pair.2).pair? env with
      | none =>
          simp [Hook.call, Call.hook?]
      | some next =>
          simpa [Hook.call, Call.hook?, List.cons_prefix_cons] using ih next

end Hydration

theorem Check.of_call?_eq_some
    {env : Environment}
    {module subject object : Value}
    {c : Check}
    {call : Call}
    (h : c.call? env module subject object = some call) :
    call.caller = .check c ∧ ∀ n, c.name? = some n → call.function = env.target module n := by
  cases c with
  | literal b =>
      cases h
  | named n =>
      cases h
      simp [name?]
  | withArg n arg =>
      cases h
      simp [name?]

namespace Group

variable {env : Environment} {module subject object : Value}

theorem reached_cons
    (c : Check)
    (g : Group) :
    reached env module subject object (c :: g) =
      c :: if c.passes env module subject object then reached env module subject object g
        else [] := by
  unfold reached
  rw [upTo]
  cases c.passes env module subject object with
  | true =>
      simp
  | false =>
      simp

theorem calls_cons
    (c : Check)
    (g : Group) :
    calls env module subject object (c :: g) =
      (c.call? env module subject object).toList ++
        if c.passes env module subject object then calls env module subject object g
        else [] := by
  unfold calls
  rw [reached_cons]
  cases c.passes env module subject object with
  | true =>
      cases h : c.call? env module subject object <;> simp [h]
  | false =>
      cases h : c.call? env module subject object <;> simp [h]

end Group

namespace Condition

variable {env : Environment} {module : Value} {rule policy : String} (subject object : Value)

/-- A bound check makes the call of its check and gives the reply. -/
theorem makes_run
    {c : Check}
    {bc : BoundCheck}
    (hbind : bindCheck env module rule policy c = .ok bc) :
    Makes env (c.call? env module subject object).toList (bc.run env subject object) ∧
      (bc.run env subject object).outcome = c.reply env module subject object := by
  obtain ⟨check, function⟩ := bc
  obtain ⟨rfl, hfun⟩ := bindCheck_eq_ok hbind
  have hcall :
      ∀ f args,
        Makes env [⟨.check check, f, args⟩]
            (env.callValue f args >>= fun v => Run.ofExcept (.ok v.isTrue)) ∧
          (env.callValue f args >>= fun v => Run.ofExcept (.ok v.isTrue)).outcome =
            (Call.reply env ⟨.check check, f, args⟩).map Value.isTrue := by
    intro f args
    constructor
    · refine Makes.single (c := ⟨.check check, f, args⟩) ?_ ?_
      · intro v a hreply _
        simp [Call.failure?, hreply]
      · intro v e _ he
        cases he
    · rw [Run.outcome_bind]
      rfl
  cases check with
  | literal value =>
      exact ⟨Makes.result value, rfl⟩
  | named n =>
      obtain ⟨f, hf, rfl⟩ := hfun
      have htarget := Environment.target_of_resolve hf
      simp only [Check.reply, Check.call?, htarget]
      exact hcall f [subject, object]
  | withArg n arg =>
      obtain ⟨f, hf, rfl⟩ := hfun
      have htarget := Environment.target_of_resolve hf
      simp only [Check.reply, Check.call?, htarget]
      exact hcall f [subject, object, arg]

/-- A bound group makes the calls of its group; whether it passes, and whether a call of it
fails, is said by the group. -/
theorem makes_allPass
    {g : Group}
    {bg : BoundGroup}
    (hbind : List.Forall₂ (fun c bc => bindCheck env module rule policy c = .ok bc) g bg) :
    Makes env (Group.calls env module subject object g) (allPass env subject object bg) ∧
      (∀ b, (allPass env subject object bg).outcome = .ok b →
        g.all (Check.passes env module subject object) = b ∧
          (Group.reached env module subject object g).any
            (Check.fails env module subject object) = false) ∧
      ∀ e, (allPass env subject object bg).outcome = .error e →
        (Group.reached env module subject object g).any
          (Check.fails env module subject object) = true := by
  induction hbind with
  | nil =>
      refine ⟨Makes.result true, ?_, ?_⟩
      · intro b hb
        cases hb
        exact ⟨rfl, rfl⟩
      · intro e he
        cases he
  | @cons c bc g bg hc _ ih =>
      obtain ⟨hmakes, hreply⟩ := makes_run subject object hc
      rw [allPass]
      rw [Group.calls_cons, Group.reached_cons]
      cases hrun : (bc.run env subject object).outcome with
      | error e =>
          have hpasses : c.passes env module subject object = false := by
            simp [Check.passes, ← hreply, hrun]
          have hfails : c.fails env module subject object = true := by
            simp [Check.fails, ← hreply, hrun]
          refine ⟨?_, ?_, ?_⟩
          · simpa [hpasses] using hmakes.bind_of_error hrun
          · intro b hb
            rw [Run.outcome_bind_of_error hrun] at hb
            cases hb
          · simp [hfails]
      | ok b =>
          have hpasses : c.passes env module subject object = b := by
            simp [Check.passes, ← hreply, hrun]
          have hfails : c.fails env module subject object = false := by
            simp [Check.fails, ← hreply, hrun]
          rw [hpasses, Run.outcome_bind_of_ok hrun]
          -- The checks behind this one are called only if it is true.
          cases b with
          | false =>
              refine ⟨hmakes.bind_of_ok hrun (Makes.result false), ?_, ?_⟩
              · intro b hb
                cases hb
                simp [hpasses, hfails]
              · intro e he
                cases he
          | true =>
              obtain ⟨hrest, hok, herror⟩ := ih
              refine ⟨hmakes.bind_of_ok hrun hrest, ?_, ?_⟩
              · simpa [hpasses, hfails] using hok
              · simpa [hfails] using herror

theorem calls_cons
    (g : Group)
    (groups : List Group) :
    calls env module subject object (g :: groups) =
      Group.calls env module subject object g ++
        if Group.isDecisive env module subject object g then []
        else calls env module subject object groups := by
  unfold calls
  rw [upTo]
  cases Group.isDecisive env module subject object g with
  | true =>
      simp
  | false =>
      simp

theorem exists_check_of_mem_calls
    {groups : List Group}
    {c : Call}
    (hc : c ∈ calls env module subject object groups) :
    ∃ g ∈ groups, ∃ k ∈ g, k.call? env module subject object = some c := by
  unfold calls Group.calls Group.reached at hc
  obtain ⟨g, hg, hc⟩ := List.mem_flatMap.mp hc
  obtain ⟨k, hk, hcall⟩ := List.mem_filterMap.mp hc
  exact ⟨g, mem_of_mem_upTo hg, k, mem_of_mem_upTo hk, hcall⟩

/-- The checks of groups that are bound have functions. -/
theorem resolve_of_bind
    {groups : List Group}
    {bound : List BoundGroup}
    (hbind : bind env module rule policy groups = .ok bound)
    {g : Group}
    (hg : g ∈ groups)
    {k : Check}
    (hk : k ∈ g)
    {n : String}
    (hn : k.name? = some n) :
    env.resolve module n = .ok (some (env.target module n)) := by
  obtain ⟨bg, _, hchecks⟩ := exists_of_mapM_eq_ok hbind hg
  obtain ⟨bc, _, hcheck⟩ := exists_of_mapM_eq_ok hchecks hk
  obtain ⟨rfl, hfound⟩ := bindCheck_eq_ok hcheck
  rw [hn] at hfound
  obtain ⟨f, hf, _⟩ := hfound
  rw [Environment.target_of_resolve hf, hf]

/-- Bound groups make the calls of the condition; unless a call of them fails, they give
whether some group is decisive. -/
theorem makes_evaluate
    {groups : List Group}
    {bound : List BoundGroup}
    (hbind :
      List.Forall₂
        (List.Forall₂ fun c bc => bindCheck env module rule policy c = .ok bc) groups bound) :
    Makes env (calls env module subject object groups) (evaluate env subject object bound) ∧
      (∀ b, (evaluate env subject object bound).outcome = .ok b →
        groups.any (Group.isDecisive env module subject object) = b) ∧
      ∀ e, (evaluate env subject object bound).outcome = .error e →
        groups.any (Group.isDecisive env module subject object) = true := by
  induction hbind with
  | nil =>
      refine ⟨Makes.result false, ?_, ?_⟩
      · intro b hb
        cases hb
        rfl
      · intro e he
        cases he
  | @cons g bg groups bound hg _ ih =>
      obtain ⟨hmakes, hok, herror⟩ := makes_allPass subject object hg
      rw [calls_cons, List.any_cons]
      cases hg with
      | nil =>
          -- An empty group is passed over without a call.
          exact ih
      | @cons c bc cs bcs hc hcs =>
          rw [evaluate]
          cases hrun : (allPass env subject object (bc :: bcs)).outcome with
          | error e =>
              have hdecisive :
                  Group.isDecisive env module subject object (c :: cs) = true := by
                simp [Group.isDecisive, herror e hrun]
              rw [hdecisive]
              refine ⟨?_, ?_, ?_⟩
              · simpa using hmakes.bind_of_error hrun
              · intro b hb
                rw [Run.outcome_bind_of_error hrun] at hb
                cases hb
              · simp
          | ok b =>
              obtain ⟨hall, hreached⟩ := hok b hrun
              have hdecisive : Group.isDecisive env module subject object (c :: cs) = b := by
                unfold Group.isDecisive
                rw [hall, hreached]
                simp
              rw [hdecisive, Run.outcome_bind_of_ok hrun]
              cases b with
              | true =>
                  refine ⟨hmakes.bind_of_ok hrun (Makes.result true), ?_, ?_⟩
                  · intro b hb
                    cases hb
                    rfl
                  · intro e he
                    cases he
              | false =>
                  exact ⟨hmakes.bind_of_ok hrun ih.1, ih.2⟩

end Condition

theorem Rule.exists_check_of_mem_conditionCalls
    {env : Environment}
    {module subject object : Value}
    {r : Rule}
    {c : Call}
    (hc : c ∈ r.conditionCalls env module subject object) :
    ∃ groups, (groups = r.deny ∨ groups = r.allow) ∧
      ∃ g ∈ groups, ∃ k ∈ g, k.call? env module subject object = some c := by
  unfold conditionCalls at hc
  rcases List.mem_append.mp hc with hc | hc
  · exact ⟨r.deny, Or.inl rfl, Condition.exists_check_of_mem_calls subject object hc⟩
  · split at hc
    · cases hc
    · exact ⟨r.allow, Or.inr rfl, Condition.exists_check_of_mem_calls subject object hc⟩

namespace Policy

section Calls

variable {env : Environment} {rules : List Rule} {config : PolicyConfig}
variable {schemas : List (String × Value)} {p : Policy}

/-- The conditions of a rule make their calls on a pair. -/
theorem makes_judge
    {module : Value}
    {policy : String}
    {r : Rule}
    {c : CompiledRule}
    (hbound : c.IsBoundFor env module policy r)
    (subject object : Value) :
    Makes env (r.conditionCalls env module subject object) (judge env c subject object) := by
  have hgroups :
      ∀ {groups : List Group} {bound : List BoundGroup},
        Condition.bind env module r.name policy groups = .ok bound →
        List.Forall₂
          (List.Forall₂ fun c bc => Condition.bindCheck env module r.name policy c = .ok bc)
          groups bound := by
    intro groups bound h
    exact (mapM_eq_ok_iff_forall₂.mp h).imp fun g bg hg => mapM_eq_ok_iff_forall₂.mp hg
  obtain ⟨hdeny, hok, herror⟩ :=
    Condition.makes_evaluate subject object (hgroups hbound.deny_eq)
  obtain ⟨hallow, _⟩ :=
    Condition.makes_evaluate subject object (hgroups hbound.allow_eq)
  unfold Rule.conditionCalls judge
  refine hdeny.bind ?_ ?_
  · intro denies hdenies
    rw [hok denies hdenies]
    cases denies with
    | true =>
        exact Makes.result _
    | false =>
        have hlast : Makes env
            (Condition.calls env module subject object r.allow ++ [])
            (Condition.evaluate env subject object c.allow >>= fun allows =>
              if allows then Run.result Decision.allowed else Run.result Decision.denied) := by
          refine hallow.bind ?_ fun _ _ => rfl
          intro allows _
          cases allows with
          | true =>
              exact Makes.result _
          | false =>
              exact Makes.result _
        rw [List.append_nil] at hlast
        exact hlast
  · intro e he
    rw [herror e he]
    rfl

/-- The hooks and conditions of a rule make the calls of the rule. -/
theorem makes_request
    {module : Value}
    {policy : String}
    {r : Rule}
    {c : CompiledRule}
    (hbound : c.IsBoundFor env module policy r)
    {options : Value}
    (hoptions : options.IsOptions)
    (subject object : Value) :
    Makes env (r.calls env module subject object options.optionEntries)
      (Hydration.hydrate env options c.preHooks subject object >>= fun pair =>
        judge env c pair.1 pair.2) := by
  rw [Hydration.hydrate_eq_runAll hoptions]
  obtain ⟨hhooks, hpair⟩ :=
    Hydration.makes_runAll options.optionEntries (mapM_eq_ok_iff_forall₂.mp hbound.preHooks_eq)
      (subject, object)
  unfold Rule.calls
  refine hhooks.bind ?_ ?_
  · intro pair hrun
    rw [(hpair pair).mp hrun]
    exact makes_judge hbound pair.1 pair.2
  · intro e he
    rw [Run.eq_none_of_outcome_eq_error hpair he]

/-- Deciding makes the calls of the rule and leaves a record of the decision. -/
theorem makes_decide
    {name : String}
    {module : Value}
    {policy : String}
    {r : Rule}
    {c : CompiledRule}
    (hget : p.table.get? name = some c)
    (hbound : c.IsBoundFor env module policy r)
    {options : Value}
    (hoptions : options.IsOptions)
    (subject object : Value) :
    ∃ request : Run Decision,
      Makes env (r.calls env module subject object options.optionEntries) request ∧
      (p.decide env name subject object options).outcome = request.outcome ∧
      (p.decide env name subject object options).events =
        request.events ++
          match request.outcome with
          | .ok d => [.log (p.decisionRecord name d)]
          | .error _ => [] := by
  refine ⟨_, makes_request hbound hoptions subject object, ?_⟩
  rw [decide_of_get?_eq_some hget]
  generalize (Hydration.hydrate env options c.preHooks subject object >>= fun pair =>
    judge env c pair.1 pair.2) = request
  cases hrequest : request.outcome with
  | ok d =>
      rw [Run.outcome_bind_of_ok hrequest, Run.events_bind_of_ok hrequest]
      exact ⟨rfl, rfl⟩
  | error e =>
      rw [Run.outcome_bind_of_error hrequest, Run.events_bind_of_error hrequest]
      simp

/-- A check that a request calls is one of its rule, called on the pair that the hooks
prepare. -/
theorem check_of_mem_calls
    {module : Value}
    {policy : String}
    {r : Rule}
    {c : CompiledRule}
    (hbound : c.IsBoundFor env module policy r)
    {options : Entries}
    {subject object : Value}
    {call : Call}
    (hcall : call ∈ r.calls env module subject object options)
    {k : Check}
    (hk : call.caller = .check k) :
    (∃ s o,
      Hydration.Prepares env module options r.preHooks (subject, object) (s, o) ∧
        k.call? env module s o = some call) ∧
      ∀ n, k.name? = some n → env.resolve module n = .ok (some call.function) := by
  unfold Rule.calls at hcall
  rcases List.mem_append.mp hcall with hhook | hcall
  · obtain ⟨h, hh⟩ := Hydration.caller_of_mem_calls hhook
    rw [hh] at hk
    cases hk
  · split at hcall
    · rename_i pair hpair
      have hprepares :=
        Hydration.prepares_of_prepared? (mapM_eq_ok_iff_forall₂.mp hbound.preHooks_eq) hpair
      obtain ⟨groups, hgroups, g, hg, check, hmem, hcheck⟩ :=
        Rule.exists_check_of_mem_conditionCalls hcall
      obtain ⟨hcaller, hfunction⟩ := Check.of_call?_eq_some hcheck
      rw [hcaller] at hk
      cases hk
      refine ⟨⟨pair.1, pair.2, hprepares, hcheck⟩, ?_⟩
      intro n hn
      rw [hfunction n hn]
      rcases hgroups with rfl | rfl
      · exact Condition.resolve_of_bind hbound.deny_eq hg hmem hn
      · exact Condition.resolve_of_bind hbound.allow_eq hg hmem hn
    · cases hcall

/-- Hooks are called in the order of their rule, each at most once. -/
theorem hooks_of_calls
    (module : Value)
    (subject object : Value)
    (options : Entries)
    (r : Rule) :
    (r.calls env module subject object options).filterMap Call.hook? <+: r.preHooks := by
  have hchecks :
      ∀ (s o : Value), (r.conditionCalls env module s o).filterMap Call.hook? = [] := by
    intro s o
    rw [List.filterMap_eq_nil_iff]
    intro call hcall
    obtain ⟨_, _, g, _, k, _, hk⟩ := Rule.exists_check_of_mem_conditionCalls hcall
    simp [Call.hook?, (Check.of_call?_eq_some hk).1]
  have hhooks := Hydration.hooks_of_calls env module options r.preHooks (subject, object)
  unfold Rule.calls
  rw [List.filterMap_append]
  split
  · rw [hchecks, List.append_nil]
    exact hhooks
  · simpa using hhooks

/-- **Calls and failures of a request.**  A request for a missing rule calls nothing.  Any
other makes the calls of its rule, in order, and leaves a record of its decision if it comes
to one.  A call that fails is the last one and the request fails as it does; the request fails
in no other case.  What a call gives is told by the function and its arguments alone
(`Environment.apply`), so that the calls are those of functions that keep no state of their own. -/
theorem decide_calls
    (hbuilt : Policy.ofRules env rules config schemas = .ok p)
    (name : String)
    (subject object options : Value)
    (hoptions : options.IsOptions) :
    ((∀ r ∈ rules, r.name ≠ name) →
      p.decide env name subject object options = .result .ruleNotFound) ∧
    ∀ r ∈ rules, r.name = name →
      ∀ calls, calls = r.calls env config.checkModule subject object options.optionEntries →
        ((p.decide env name subject object options).events =
          calls.flatMap (Call.events env) ++
            match (p.decide env name subject object options).outcome with
            | .ok d => [.log (p.decisionRecord name d)]
            | .error _ => []) ∧
        (∀ before c after e,
          calls = before ++ c :: after →
          c.failure? env = some e →
          after = [] ∧ (p.decide env name subject object options).outcome = .error e) ∧
        (∀ e, (p.decide env name subject object options).outcome = .error e →
          ∃ before c, calls = before ++ [c] ∧ c.failure? env = some e) ∧
        (∀ c ∈ calls, ∀ h v,
          c.caller = .hook h →
          c.reply env = .ok v →
          (∀ s o, v ≠ .tuple [s, o]) →
          (p.decide env name subject object options).outcome =
            .error (if h.isWritable then
              Failure.ofCause (.invalidHookResult (.text h.display) (.text v.typeName))
            else .unwritable)) ∧
        calls.filterMap Call.hook? <+: r.preHooks ∧
        ∀ c ∈ calls, ∀ k, c.caller = .check k →
          (∃ s o,
            Hydration.Prepares env config.checkModule options.optionEntries r.preHooks
              (subject, object) (s, o) ∧
            k.call? env config.checkModule s o = some c) ∧
          ∀ n, k.name? = some n → env.resolve config.checkModule n = .ok (some c.function) := by
  constructor
  · intro hnone
    unfold decide
    rw [(get?_eq_none_iff hbuilt name).mpr hnone]
  · rintro r hr rfl calls rfl
    obtain ⟨c, hget, hbound⟩ := exists_get?_of_mem hbuilt hr
    obtain ⟨request, hmakes, houtcome, hevents⟩ := makes_decide hget hbound hoptions subject object
    rw [hevents, houtcome]
    refine ⟨?_, ?_, ?_, ?_, ?_, ?_⟩
    · rw [hmakes.events_eq]
    · intro before c after e hsplit hfails
      exact hmakes.outcome_of_failure hsplit hfails
    · intro e he
      obtain ⟨before, last, hlast, _, hfails⟩ := hmakes.of_error e he
      exact ⟨before, last, hlast, hfails⟩
    · intro call hcall h v hcaller hreply hpair
      obtain ⟨before, after, hsplit⟩ := List.append_of_mem hcall
      have hfails := Call.failure?_of_no_pair hcaller hreply hpair
      exact (hmakes.outcome_of_failure hsplit hfails).2
    · exact hooks_of_calls _ _ _ _ r
    · intro call hcall k hk
      exact check_of_mem_calls hbound hcall hk

/-- In the newsroom an update by a writer loads the draft, looks for a lock, and compares the
role with that of an editor before that of a writer. -/
theorem newsroom_calls :
    ∃ p, Policy.ofRules newsroom [updateRule] { checkModule := newsroomChecks } [] = .ok p ∧
      (p.decide newsroom "article_update" (.text "writer") .null .null).calls =
        [(⟨"load", 0⟩, [.text "writer", .null]),
          (⟨"locked", 2⟩, [.text "writer", .text "draft"]),
          (⟨"role", 1⟩, [.text "writer", .text "draft", .text "editor"]),
          (⟨"role", 1⟩, [.text "writer", .text "draft", .text "writer"])] := by
  have hbuilt :
      ∃ p, Policy.ofRules newsroom [updateRule] { checkModule := newsroomChecks } [] = .ok p :=
    ⟨_, rfl⟩
  obtain ⟨p, hp⟩ := hbuilt
  refine ⟨p, hp, ?_⟩
  have hevents :=
    ((decide_calls hp "article_update" (.text "writer") .null .null (Or.inl rfl)).2
      updateRule (by simp) rfl _ rfl).1
  unfold Run.calls
  rw [hevents]
  cases (p.decide newsroom "article_update" (.text "writer") .null .null).outcome with
  | ok d =>
      rfl
  | error e =>
      rfl

end Calls

end Policy
end AccessPolicy
