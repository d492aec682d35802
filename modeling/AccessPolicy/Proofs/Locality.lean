import AccessPolicy.Proofs.Decision

/-!
# Rules do not disturb each other

A request for a rule runs the hooks and checks of that rule, whatever other rules the policy
has and in whatever order.

**Binding.**  What is found for the checks and hooks of a rule depends on the rule and the
check module.  The name of the policy is told by the failures of binding only, so two policies
that were built hold the same compiled rule (`CompiledRule.isBoundFor_unique`).

**Look-up.**  All rules of a policy that was built have different names, however they came by
them, so that the name of a rule finds this rule in each policy that has it.

**Requests.**  The runs in two policies are the same but for the name of the policy in the
record of the decision (`Policy.decide_local`).
-/

namespace AccessPolicy

section Binding

variable {env : Environment} {module : Value} {rule rule' policy policy' : String}

/-- What is found for a check does not depend on who asks for it. -/
theorem Condition.bindCheck_unique
    {c : Check}
    {bc bc' : BoundCheck}
    (h : bindCheck env module rule policy c = .ok bc)
    (h' : bindCheck env module rule' policy' c = .ok bc') :
    bc = bc' := by
  obtain ⟨hcheck, hfound⟩ := bindCheck_eq_ok h
  obtain ⟨hcheck', hfound'⟩ := bindCheck_eq_ok h'
  have hfunction : bc.function = bc'.function := by
    cases hname : c.name? with
    | none =>
        simp only [hname] at hfound hfound'
        rw [hfound, hfound']
    | some n =>
        simp only [hname] at hfound hfound'
        obtain ⟨f, hf, hbound⟩ := hfound
        obtain ⟨f', hf', hbound'⟩ := hfound'
        rw [hf] at hf'
        cases hf'
        rw [hbound, hbound']
  cases bc
  cases bc'
  cases hcheck
  cases hcheck'
  cases hfunction
  rfl

theorem Condition.bind_unique
    {groups : List Group}
    {bound bound' : List BoundGroup}
    (h : bind env module rule policy groups = .ok bound)
    (h' : bind env module rule' policy' groups = .ok bound') :
    bound = bound' :=
  mapM_eq_ok_unique (fun _ _ _ => mapM_eq_ok_unique fun _ _ _ => bindCheck_unique) h h'

/-- What is found for hooks does not depend on who asks for them. -/
theorem Hydration.bind_unique
    {hooks : List Hook}
    {bound bound' : List BoundHook}
    (h : bind env module rule policy hooks = .ok bound)
    (h' : bind env module rule' policy' hooks = .ok bound') :
    bound = bound' := by
  refine mapM_eq_ok_unique ?_ h h'
  intro hook bh bh' hb hb'
  obtain ⟨_, function⟩ := bh
  obtain ⟨_, function'⟩ := bh'
  obtain ⟨rfl, hfound⟩ := bindHook_eq_ok hb
  obtain ⟨rfl, hfound'⟩ := bindHook_eq_ok hb'
  rw [hfound] at hfound'
  cases hfound'
  rfl

/-- A rule is compiled to the same in all policies with the same check module. -/
theorem CompiledRule.isBoundFor_unique
    {r : Rule}
    {c c' : CompiledRule}
    (h : c.IsBoundFor env module policy r)
    (h' : c'.IsBoundFor env module policy' r) :
    c = c' := by
  obtain ⟨_, allow, deny, preHooks⟩ := c
  obtain ⟨_, allow', deny', preHooks'⟩ := c'
  obtain ⟨rfl, hallow, hdeny, hhooks⟩ := h
  obtain ⟨rfl, hallow', hdeny', hhooks'⟩ := h'
  obtain rfl : allow = allow' := Condition.bind_unique hallow hallow'
  obtain rfl : deny = deny' := Condition.bind_unique hdeny hdeny'
  obtain rfl : preHooks = preHooks' := Hydration.bind_unique hhooks hhooks'
  rfl

end Binding

namespace Policy

/-- The records that a request for a rule that is found leaves. -/
def records (p : Policy) (rule : String) : Except Failure Decision → List LogRecord
  | .ok d => [p.decisionRecord rule d]
  | .error _ => []

section Locality

variable {env : Environment}
variable {rules : List Rule} {config : PolicyConfig} {schemas : List (String × Value)} {p : Policy}
variable (hbuilt : Policy.ofRules env rules config schemas = .ok p)
variable {rules' : List Rule} {config' : PolicyConfig} {schemas' : List (String × Value)}
variable {p' : Policy}
variable (hbuilt' : Policy.ofRules env rules' config' schemas' = .ok p')
variable (hmodule : config'.checkModule = config.checkModule)
include hbuilt hbuilt' hmodule

/-- Two policies have a rule that is in both of them compiled alike, and find it by its name. -/
theorem exists_get?_of_mem_both
    {r : Rule}
    (hr : r ∈ rules)
    (hr' : r ∈ rules') :
    ∃ c, p.table.get? r.name = some c ∧ p'.table.get? r.name = some c := by
  obtain ⟨c, hget, hbound⟩ := exists_get?_of_mem hbuilt hr
  obtain ⟨c', hget', hbound'⟩ := exists_get?_of_mem hbuilt' hr'
  rw [hmodule] at hbound'
  obtain rfl := CompiledRule.isBoundFor_unique hbound hbound'
  exact ⟨c, hget, hget'⟩

/-- **Locality of rules.**  Two policies with the same check module decide a request for a rule
that both have alike: with the same outcome, the same calls, and the same events but for the
name of the policy in the record of the decision. -/
theorem decide_local
    {r : Rule}
    (hr : r ∈ rules)
    (hr' : r ∈ rules')
    (subject object options : Value) :
    (p'.decide env r.name subject object options).outcome =
        (p.decide env r.name subject object options).outcome ∧
      (p'.decide env r.name subject object options).calls =
        (p.decide env r.name subject object options).calls ∧
      (∃ events,
        (p.decide env r.name subject object options).events =
            events ++
              (p.records r.name
                (p.decide env r.name subject object options).outcome).map .log ∧
          (p'.decide env r.name subject object options).events =
            events ++
              (p'.records r.name
                (p'.decide env r.name subject object options).outcome).map .log) ∧
      (config'.name = config.name →
        p'.decide env r.name subject object options =
          p.decide env r.name subject object options) := by
  obtain ⟨c, hget, hget'⟩ := exists_get?_of_mem_both hbuilt hbuilt' hmodule hr hr'
  rw [decide_of_get?_eq_some hget, decide_of_get?_eq_some hget']
  generalize (Hydration.hydrate env options c.preHooks subject object >>= fun pair =>
    judge env c pair.1 pair.2) = request
  have hname : config'.name = config.name → p'.decisionRecord = p.decisionRecord := by
    intro hname
    unfold decisionRecord Policy.name
    rw [(table_of_ofRules hbuilt).2, (table_of_ofRules hbuilt').2, hname]
  refine ⟨?_, ?_, ?_, ?_⟩
  · rw [Run.outcome_bind, Run.outcome_bind]
    rfl
  · unfold Run.calls
    cases hrequest : request.outcome with
    | ok d =>
        rw [Run.events_bind_of_ok hrequest, Run.events_bind_of_ok hrequest,
          List.filterMap_append, List.filterMap_append]
        rfl
    | error e =>
        rw [Run.events_bind_of_error hrequest, Run.events_bind_of_error hrequest]
  · refine ⟨request.events, ?_⟩
    cases hrequest : request.outcome with
    | ok d =>
        rw [Run.events_bind_of_ok hrequest, Run.events_bind_of_ok hrequest,
          Run.outcome_bind_of_ok hrequest, Run.outcome_bind_of_ok hrequest]
        exact ⟨rfl, rfl⟩
    | error e =>
        rw [Run.events_bind_of_error hrequest, Run.events_bind_of_error hrequest,
          Run.outcome_bind_of_error hrequest, Run.outcome_bind_of_error hrequest]
        simp [records]
  · intro hsame
    rw [hname hsame]

end Locality

section Newsroom

/-- Nobody deletes articles. -/
def deleteRule : Rule where
  object := "article"
  action := "delete"
  name := "article_delete"
  allow := []
  deny := [[.literal true]]
  preHooks := []
  metadata := []
  description := none

/-- Articles are updated alike in a newsroom that also has a rule for deleting them. -/
theorem newsroom_local :
    ∃ p p',
      Policy.ofRules newsroom [updateRule] { checkModule := newsroomChecks } [] = .ok p ∧
      Policy.ofRules newsroom [deleteRule, updateRule]
        { name := "archive", checkModule := newsroomChecks } [] = .ok p' ∧
      (p'.decide newsroom "article_update" (.text "writer") .null .null).outcome =
        (p.decide newsroom "article_update" (.text "writer") .null .null).outcome ∧
      (p'.decide newsroom "article_update" (.text "writer") .null .null).calls =
        (p.decide newsroom "article_update" (.text "writer") .null .null).calls := by
  have hbuilt :
      ∃ p, Policy.ofRules newsroom [updateRule] { checkModule := newsroomChecks } [] = .ok p :=
    ⟨_, rfl⟩
  have hbuilt' :
      ∃ p, Policy.ofRules newsroom [deleteRule, updateRule]
        { name := "archive", checkModule := newsroomChecks } [] = .ok p :=
    ⟨_, rfl⟩
  obtain ⟨p, hp⟩ := hbuilt
  obtain ⟨p', hp'⟩ := hbuilt'
  have hlocal :=
    decide_local hp hp' rfl (r := updateRule) (by simp) (by simp) (.text "writer") .null .null
  exact ⟨p, p', hp, hp', hlocal.1, hlocal.2.1⟩

end Newsroom

end Policy
end AccessPolicy
