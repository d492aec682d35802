import AccessPolicy.Proofs.CallTrace
import AccessPolicy.Proofs.RequestRuns

/-!
# Requests that are made from a decision

A request is decided once, and the other ways to make it are read off the decision.  So
they call what the decision calls and fail as it fails.

**Records.**  Hooks and checks leave no log records.  A decision leaves one, unless the rule
is missing, and then the requests made from it leave a warning (`logs_decide`).

**Made from a decision.**  `Follows` says of a request that it adds at most that warning to
the decision, and the other three forms of a request follow the decision in this sense.
-/

namespace AccessPolicy

namespace Run

variable {α β : Type}

/-- A run that leaves no log records. -/
def IsQuiet (x : Run α) : Prop :=
  x.logs = []

theorem IsQuiet.bind
    {x : Run α}
    {f : α → Run β}
    (hx : x.IsQuiet)
    (hf : ∀ a, (f a).IsQuiet) :
    (x >>= f).IsQuiet := by
  unfold IsQuiet logs at *
  cases houtcome : x.outcome with
  | ok a =>
      rw [events_bind_of_ok houtcome, List.filterMap_append, hx, hf a]
      rfl
  | error e =>
      rw [events_bind_of_error houtcome, hx]

end Run

namespace Environment

variable (env : Environment)

theorem isQuiet_consult
    (t : TypeRef)
    (object subject options : Value) :
    (env.consult t object subject options).IsQuiet := by
  unfold consult
  split
  · rfl
  · rfl

theorem isQuiet_callMethod
    (owner : Value)
    (name : String)
    (args : List Value) :
    (env.callMethod owner name args).IsQuiet := by
  unfold callMethod
  split
  · rfl
  · exact env.isQuiet_consult _ _ _ _
  · exact env.isQuiet_consult _ _ _ _
  · rfl

/-- Calling a value leaves no log records of its own. -/
theorem isQuiet_callValue
    (v : Value)
    (args : List Value) :
    (env.callValue v args).IsQuiet := by
  unfold callValue
  split
  · rfl
  · rfl
  · split
    · rfl
    · rfl
  · exact env.isQuiet_callMethod _ _ _
  · rfl

end Environment

/-- Hooks and checks leave no log records. -/
theorem Run.kept_isQuiet
    (env : Environment) :
    Run.Kept env @Run.IsQuiet where
  result _ := rfl
  bind := Run.IsQuiet.bind
  call := env.isQuiet_callValue
  wrongType := rfl
  pair _ _ := rfl

/-- A call that fails a request did not return, or is that of a hook which returned no pair. -/
theorem Call.failure?_eq_some
    {env : Environment}
    {c : Call}
    {e : Failure}
    (h : c.failure? env = some e) :
    c.reply env = .error e ∨
      ∃ h v, c.caller = .hook h ∧ c.reply env = .ok v ∧ (∀ s o, v ≠ .tuple [s, o]) ∧
        e = if h.isWritable then
            Failure.ofCause (.invalidHookResult (.text h.display) (.text v.typeName))
          else .unwritable := by
  cases hreply : c.reply env with
  | error e' =>
      simp only [failure?, hreply, Option.some.injEq] at h
      rw [h]
      exact Or.inl rfl
  | ok v =>
      right
      cases hcaller : c.caller with
      | check k =>
          simp [failure?, hreply, hcaller] at h
      | hook k =>
          by_cases hpair : ∃ s o, v = .tuple [s, o]
          · obtain ⟨s, o, rfl⟩ := hpair
            simp [failure?, hreply, hcaller] at h
          · have hne : ∀ s o, v ≠ .tuple [s, o] := fun s o heq => hpair ⟨s, o, heq⟩
            rw [Call.failure?_of_no_pair hcaller hreply hne] at h
            exact ⟨k, v, rfl, rfl, hne, (Option.some.inj h).symm⟩

/-- A fault has the cause that it was made for. -/
@[simp] theorem Fault.cause_of
    (cause : Cause)
    (given : Overrides) :
    (Fault.of cause given).cause = cause := by
  unfold Fault.of
  cases hmake : Fault.make cause given with
  | error flaw =>
      rfl
  | ok f =>
      simp only [Fault.make] at hmake
      split at hmake
      · obtain ⟨_, _, hrest⟩ := except_bind_eq_ok_iff.mp hmake
        obtain ⟨_, _, hfault⟩ := except_bind_eq_ok_iff.mp hrest
        cases hfault
        rfl
      · split at hmake
        all_goals
          obtain ⟨_, _, hrest⟩ := except_bind_eq_ok_iff.mp hmake
          obtain ⟨_, _, hfault⟩ := except_bind_eq_ok_iff.mp hrest
          cases hfault
          rfl

/-- A fault has the message that was given for it. -/
theorem Fault.message_of
    {cause : Cause}
    {given : Overrides}
    (h : given.message.isTrue = true) :
    (Fault.of cause given).message = given.message := by
  unfold Fault.of
  cases hmake : Fault.make cause given with
  | error flaw =>
      rfl
  | ok f =>
      simp only [Fault.make, h, or_true, if_true] at hmake
      obtain ⟨_, hmessage, hrest⟩ := except_bind_eq_ok_iff.mp hmake
      obtain ⟨_, _, hfault⟩ := except_bind_eq_ok_iff.mp hrest
      cases hmessage
      cases hfault
      rfl

namespace Policy

section Requests

variable (env : Environment) (p : Policy) (name : String) (subject object options : Value)

/-- A decision leaves one record, unless the rule is missing; a failure leaves none. -/
theorem logs_decide :
    (p.decide env name subject object options).logs =
      match (p.decide env name subject object options).outcome with
      | .ok .ruleNotFound => []
      | .ok d => [p.decisionRecord name d]
      | .error _ => [] := by
  cases hget : p.table.get? name with
  | none =>
      unfold decide
      rw [hget]
      rfl
  | some c =>
      rw [decide_of_get?_eq_some hget]
      have hquiet :
          (Hydration.hydrate env options c.preHooks subject object >>= fun pair =>
            judge env c pair.1 pair.2).IsQuiet :=
        (Run.kept_isQuiet env).request subject object options c
      have hfound :
          (Hydration.hydrate env options c.preHooks subject object >>= fun pair =>
            judge env c pair.1 pair.2).outcome ≠ .ok .ruleNotFound := by
        intro h
        obtain ⟨pair, _, hjudge⟩ := Run.outcome_bind_eq_ok_iff.mp h
        exact outcome_judge_ne_ruleNotFound c pair.1 pair.2 hjudge
      generalize (Hydration.hydrate env options c.preHooks subject object >>= fun pair =>
        judge env c pair.1 pair.2) = request at hquiet hfound
      unfold Run.IsQuiet Run.logs at hquiet
      unfold Run.logs
      cases hrequest : request.outcome with
      | error e =>
          rw [Run.events_bind_of_error hrequest, Run.outcome_bind_of_error hrequest]
          exact hquiet
      | ok d =>
          rw [Run.events_bind_of_ok hrequest, Run.outcome_bind_of_ok hrequest,
            List.filterMap_append, hquiet]
          cases d with
          | ruleNotFound =>
              exact absurd hrequest hfound
          | allowed =>
              rfl
          | denied =>
              rfl

/-- The warnings that a request made from a decision adds to its records. -/
def warnings : Except Failure Decision → List LogRecord
  | .ok .ruleNotFound => [p.missingRecord name]
  | _ => []

/-- A request is made from the decision: its events are those of the decision with the
warnings behind them, and its outcome is read off the decision. -/
structure Follows {α : Type} (read : Decision → Except Failure α) (x : Run α) : Prop where
  events_eq :
    x.events =
      (p.decide env name subject object options).events ++
        (p.warnings name (p.decide env name subject object options).outcome).map Event.log
  outcome_eq : x.outcome = (p.decide env name subject object options).outcome >>= read

namespace Follows

variable {env p name subject object options}
variable {α β : Type} {read : Decision → Except Failure α} {x : Run α}

/-- A request that decides, warns if the rule is missing, and then leaves no events. -/
theorem of_decide
    (result : Decision → Run α)
    (hsilent : ∀ d, (result d).events = []) :
    Follows env p name subject object options (fun d => (result d).outcome)
      (p.decide env name subject object options >>= fun d =>
        p.warnIfMissing name d >>= fun _ => result d) := by
  cases hdecide : (p.decide env name subject object options).outcome with
  | error e =>
      refine ⟨?_, ?_⟩
      · rw [Run.events_bind_of_error hdecide, hdecide]
        simp [warnings]
      · rw [Run.outcome_bind_of_error hdecide, hdecide]
        rfl
  | ok d =>
      have hwarn : (p.warnIfMissing name d).outcome = .ok () := by
        cases d <;> rfl
      refine ⟨?_, ?_⟩
      · rw [Run.events_bind_of_ok hdecide, Run.events_bind_of_ok hwarn, hsilent, hdecide]
        cases d <;> rfl
      · rw [Run.outcome_bind_of_ok hdecide, Run.outcome_bind_of_ok hwarn, hdecide]
        rfl

/-- What is made silently from such a request is made from the decision, too. -/
theorem bind
    (hx : Follows env p name subject object options read x)
    (result : α → Run β)
    (hsilent : ∀ a, (result a).events = []) :
    Follows env p name subject object options (fun d => read d >>= fun a => (result a).outcome)
      (x >>= result) where
  events_eq := by
    rw [← hx.events_eq, Run.events_bind_of_silent x hsilent]
  outcome_eq := by
    rw [Run.outcome_bind, hx.outcome_eq]
    cases (p.decide env name subject object options).outcome <;> rfl

theorem calls_eq
    (hx : Follows env p name subject object options read x) :
    x.calls = (p.decide env name subject object options).calls := by
  unfold Run.calls
  rw [hx.events_eq, List.filterMap_append, List.filterMap_map]
  simp

theorem logs_eq
    (hx : Follows env p name subject object options read x) :
    x.logs =
      (p.decide env name subject object options).logs ++
        p.warnings name (p.decide env name subject object options).outcome := by
  unfold Run.logs
  rw [hx.events_eq, List.filterMap_append, List.filterMap_map]
  simp

/-- If the decision fails, so does the request made from it, without a record. -/
theorem of_error
    (hx : Follows env p name subject object options read x)
    {e : Failure}
    (he : (p.decide env name subject object options).outcome = .error e) :
    x.outcome = .error e ∧ x.logs = [] := by
  constructor
  · rw [hx.outcome_eq, he]
    rfl
  · rw [hx.logs_eq, logs_decide, he]
    rfl

/-- If there is a decision, the request made from it gives what it reads off, and warns behind
the records of the decision iff the rule is missing. -/
theorem of_ok
    (hx : Follows env p name subject object options read x)
    {d : Decision}
    (hd : (p.decide env name subject object options).outcome = .ok d) :
    x.outcome = read d ∧
      x.logs =
        (p.decide env name subject object options).logs ++
          if d = .ruleNotFound then [p.missingRecord name] else [] := by
  constructor
  · rw [hx.outcome_eq, hd]
    rfl
  · rw [hx.logs_eq, hd]
    cases d <;> rfl

end Follows

theorem isAuthorized_follows :
    Follows env p name subject object options (fun d => .ok (d == .allowed))
      (p.isAuthorized env name subject object options) :=
  Follows.of_decide (fun d => .result (d == .allowed)) fun _ => rfl

/-- The result of a request that came to a decision. -/
def resultOf (d : Decision) : AuthorizationResult where
  allowed := d == .allowed
  reason := if d = .allowed then .null else p.config.errorReason
  rule := name
  decision := d

theorem authorize_follows :
    Follows env p name subject object options (fun d => .ok (p.resultOf name d))
      (p.authorize env name subject object options) := by
  have hresult :
      p.authorize env name subject object options =
        p.decide env name subject object options >>= fun d =>
          p.warnIfMissing name d >>= fun _ => Run.result (p.resultOf name d) := by
    unfold authorize
    congr
    funext d
    cases d <;> rfl
  rw [hresult]
  exact Follows.of_decide (fun d => .result (p.resultOf name d)) fun _ => rfl

/-- The fault of a request that is not allowed. -/
def refusalFault : Fault :=
  Fault.of (.unauthorized (.text name) p.config.errorReason)
    { message := .text p.config.errorMessage }

theorem enforce_follows :
    Follows env p name subject object options
      (fun d => if d = .allowed then .ok () else .error (.fault (p.refusalFault name)))
      (p.enforce env name subject object options) := by
  have hread :
      (fun d => if d = .allowed then .ok () else .error (.fault (p.refusalFault name))) =
        fun d => (.ok (p.resultOf name d) : Except Failure AuthorizationResult) >>= fun r =>
          (if r.allowed then Run.result ()
            else .fail (.fault (Fault.of (.unauthorized (.text name) r.reason)
              { message := .text p.config.errorMessage }))).outcome := by
    funext d
    cases d <;> rfl
  rw [hread]
  refine (authorize_follows env p name subject object options).bind _ fun r => ?_
  split
  · rfl
  · rfl

/-- A failed request ends with a call of its rule: the call failed, or it was that of a hook
which returned no pair. -/
theorem lastCall_of_decide_eq_error
    {rules : List Rule}
    {module : Value}
    {policy : String}
    (htable : RuleTable.ofRules env rules module policy = .ok p.table)
    (hoptions : options.IsOptions)
    {e : Failure}
    (he : (p.decide env name subject object options).outcome = .error e) :
    ∃ r ∈ rules, r.name = name ∧
      ∃ before c,
        r.calls env module subject object options.optionEntries = before ++ [c] ∧
          c.failure? env = some e := by
  cases hget : p.table.get? name with
  | none =>
      rw [outcome_decide_of_get?_eq_none hget] at he
      cases he
  | some c =>
      have hmem : c ∈ p.table.compiled :=
        List.mem_of_find?_eq_some hget
      have hname : c.rule.name = name := by
        simpa [CompiledRule.name] using List.find?_some hget
      obtain ⟨hr, hbound⟩ :=
        CompiledRule.isBoundFor_of_mem (RuleTable.ofRules_eq_ok htable).2 hmem
      obtain ⟨request, hmakes, houtcome, _⟩ :=
        makes_decide hget hbound hoptions subject object
      obtain ⟨before, last, hlast, _, hfails⟩ := hmakes.of_error e (houtcome ▸ he)
      exact ⟨c.rule, hr, hname, before, last, hlast, hfails⟩

/-- **One decision, four requests.**  The four requests make the same calls.  They fail
together, with the failure of the last call, and leave no records then.  If there is a decision,
each of them gives what it says of the decision, and those made from it add one warning to
its records iff the rule is missing.  A hook that returned no pair is told by its short text,
if that can be written.  The four are compared for functions whose outcome is told by their
arguments alone (`Environment.apply`): one that counts its calls may answer each request
differently. -/
theorem requests_agree :
    let decided := p.decide env name subject object options
    let authorized := p.isAuthorized env name subject object options
    let result := p.authorize env name subject object options
    let enforced := p.enforce env name subject object options
    (authorized.calls = decided.calls ∧ result.calls = decided.calls ∧
      enforced.calls = decided.calls) ∧
    (∀ e, decided.outcome = .error e →
      (authorized.outcome = .error e ∧ result.outcome = .error e ∧
        enforced.outcome = .error e) ∧
      (∀ logs ∈ [decided.logs, authorized.logs, result.logs, enforced.logs], logs = []) ∧
      ∀ rules module policy,
        RuleTable.ofRules env rules module policy = .ok p.table →
        options.IsOptions →
        ∃ r ∈ rules, r.name = name ∧
          ∃ before c,
            r.calls env module subject object options.optionEntries = before ++ [c] ∧
            (c.reply env = .error e ∨
              ∃ h v, c.caller = .hook h ∧ c.reply env = .ok v ∧ (∀ s o, v ≠ .tuple [s, o]) ∧
                e = if h.isWritable then
                    Failure.ofCause (.invalidHookResult (.text h.display) (.text v.typeName))
                  else .unwritable)) ∧
    ∀ d, decided.outcome = .ok d →
      authorized.outcome = .ok (d == .allowed) ∧
      result.outcome =
        .ok ⟨d == .allowed, if d = .allowed then .null else p.config.errorReason, name, d⟩ ∧
      (d = .allowed → enforced.outcome = .ok ()) ∧
      (d ≠ .allowed →
        ∃ f : Fault, f.cause = .unauthorized (.text name) p.config.errorReason ∧
          enforced.outcome = .error (.fault f)) ∧
      decided.logs = (if d = .ruleNotFound then [] else [p.decisionRecord name d]) ∧
      ∀ logs ∈ [authorized.logs, result.logs, enforced.logs],
        logs = decided.logs ++ if d = .ruleNotFound then [p.missingRecord name] else [] := by
  intro decided authorized result enforced
  have hauthorized := isAuthorized_follows env p name subject object options
  have hresult := authorize_follows env p name subject object options
  have henforced := enforce_follows env p name subject object options
  have hlogs := logs_decide env p name subject object options
  refine ⟨⟨hauthorized.calls_eq, hresult.calls_eq, henforced.calls_eq⟩, ?_, ?_⟩
  · intro e he
    obtain ⟨hfails, hsilent⟩ := hauthorized.of_error he
    obtain ⟨hfails', hsilent'⟩ := hresult.of_error he
    obtain ⟨hfails'', hsilent''⟩ := henforced.of_error he
    refine ⟨⟨hfails, hfails', hfails''⟩, ?_, ?_⟩
    · simp only [List.forall_mem_cons]
      exact ⟨by rw [hlogs, he], hsilent, hsilent', hsilent'', by simp⟩
    · intro rules module policy htable hoptions
      obtain ⟨r, hr, hname, before, c, hcalls, hfails⟩ :=
        lastCall_of_decide_eq_error env p name subject object options htable hoptions he
      exact ⟨r, hr, hname, before, c, hcalls, Call.failure?_eq_some hfails⟩
  · intro d hd
    obtain ⟨hgives, hwarns⟩ := hauthorized.of_ok hd
    obtain ⟨hgives', hwarns'⟩ := hresult.of_ok hd
    obtain ⟨hgives'', hwarns''⟩ := henforced.of_ok hd
    refine ⟨hgives, hgives', ?_, ?_, ?_, ?_⟩
    · rintro rfl
      exact hgives''
    · intro hne
      refine ⟨p.refusalFault name, Fault.cause_of _ _, ?_⟩
      rw [hgives'']
      exact if_neg hne
    · rw [hlogs, hd]
      cases d <;> rfl
    · simp only [List.forall_mem_cons]
      exact ⟨hwarns, hwarns', hwarns'', by simp⟩

/-- In the newsroom, enforcing a rule whose deny check needs an argument that it is not given
fails with that check, and a request for a missing rule is refused with one warning. -/
theorem newsroom_agrees :
    ∃ p,
      Policy.ofRules newsroom [{ updateRule with deny := [[.named "role"]] }]
        { checkModule := newsroomChecks } [] = .ok p ∧
      (∃ c : Call,
        c.caller = .check (.named "role") ∧
        c.reply newsroom = .error (.raised ⟨"ValueError", "", none⟩) ∧
        (p.enforce newsroom "article_update" (.text "writer") .null .null).outcome =
          .error (.raised ⟨"ValueError", "", none⟩)) ∧
      (p.isAuthorized newsroom "article_delete" (.text "writer") .null .null).outcome =
        .ok false ∧
      (p.isAuthorized newsroom "article_delete" (.text "writer") .null .null).logs =
        [p.missingRecord "article_delete"] := by
  have hbuilt :
      ∃ p, Policy.ofRules newsroom [{ updateRule with deny := [[.named "role"]] }]
        { checkModule := newsroomChecks } [] = .ok p :=
    ⟨_, rfl⟩
  obtain ⟨p, hp⟩ := hbuilt
  refine ⟨p, hp, ?_, ?_⟩
  · have hfails :
        (p.decide newsroom "article_update" (.text "writer") .null .null).outcome =
          .error (.raised ⟨"ValueError", "", none⟩) := by
      cases hp
      rfl
    obtain ⟨⟨_, _, henforced⟩, _, hlast⟩ :=
      (requests_agree newsroom p "article_update" (.text "writer") .null .null).2.1 _ hfails
    obtain ⟨r, hr, _, before, c, hcalls, hreply⟩ :=
      hlast _ _ _ (table_of_ofRules hp).1 (Or.inl rfl)
    rw [List.mem_singleton.mp hr] at hcalls
    have hcaller : c.caller = .check (.named "role") := by
      have hlastCall := congrArg List.getLast? hcalls
      rw [List.getLast?_concat] at hlastCall
      cases hlastCall
      rfl
    rcases hreply with hreply | ⟨h, _, hhook, _⟩
    · exact ⟨c, hcaller, hreply, henforced⟩
    · rw [hcaller] at hhook
      cases hhook
  · have hmissing :
        (p.decide newsroom "article_delete" (.text "writer") .null .null).outcome =
          .ok .ruleNotFound := by
      cases hp
      rfl
    obtain ⟨hauthorized, _, _, _, hlogs, hwarned⟩ :=
      (requests_agree newsroom p "article_delete" (.text "writer") .null .null).2.2 _ hmissing
    refine ⟨hauthorized, ?_⟩
    rw [hwarned _ List.mem_cons_self, hlogs]
    rfl

end Requests

end Policy

end AccessPolicy
