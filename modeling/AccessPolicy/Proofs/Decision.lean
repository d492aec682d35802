import AccessPolicy.Proofs.Hydration
import AccessPolicy.Proofs.RuleTable

/-!
# The law of decisions

A policy denies unless it is told to allow, and what denies wins over what allows.
The law is stated of the rules that a policy was built from and of what their checks
answer, without the compiled rule and the evaluators between them.

1. A rule name that no rule has gives `Decision.ruleNotFound`, and only such a name does.
2. If the hooks of the rule prepare a pair and every check answers on it, the request is
   allowed iff every deny group is empty or has a false check and some allow group with
   checks has only true ones, and is denied otherwise.
3. Another policy whose rule of that name has the same hooks and the same groups in another
   order, with the checks of a group in another order, decides the request alike.
-/

namespace AccessPolicy
namespace Policy

section Outcome

variable {env : Environment} {p : Policy} {name : String}

theorem outcome_decide_of_get?_eq_none
    (hget : p.table.get? name = none)
    (subject object options : Value) :
    (p.decide env name subject object options).outcome = .ok .ruleNotFound := by
  unfold decide
  rw [hget]
  rfl

/-- A request for a rule that is found runs its hooks and conditions and records the
decision. -/
theorem decide_of_get?_eq_some
    {c : CompiledRule}
    (hget : p.table.get? name = some c)
    (subject object options : Value) :
    p.decide env name subject object options =
      (Hydration.hydrate env options c.preHooks subject object >>= fun pair =>
        judge env c pair.1 pair.2) >>= fun d =>
          Run.log (p.decisionRecord name d) >>= fun _ => pure d := by
  unfold decide
  rw [hget, Run.bind_assoc]

/-- A decision comes from the pair that the hooks prepare and the judgement on that pair. -/
theorem outcome_decide_eq_ok_iff
    {c : CompiledRule}
    (hget : p.table.get? name = some c)
    (subject object options : Value)
    (d : Decision) :
    (p.decide env name subject object options).outcome = .ok d
      ↔
    ∃ pair, (Hydration.hydrate env options c.preHooks subject object).outcome = .ok pair ∧
      (judge env c pair.1 pair.2).outcome = .ok d := by
  rw [decide_of_get?_eq_some hget]
  simp only [Run.outcome_bind_eq_ok_iff]
  constructor
  · rintro ⟨d', ⟨pair, hpair, hd'⟩, _, _, heq⟩
    cases heq
    exact ⟨pair, hpair, hd'⟩
  · rintro ⟨pair, hpair, hd⟩
    exact ⟨d, ⟨pair, hpair, hd⟩, (), rfl, rfl⟩

theorem outcome_judge_ne_ruleNotFound
    (c : CompiledRule)
    (subject object : Value) :
    (judge env c subject object).outcome ≠ .ok .ruleNotFound := by
  intro h
  unfold judge at h
  obtain ⟨b, _, h⟩ := Run.outcome_bind_eq_ok_iff.mp h
  cases b with
  | true =>
      cases h
  | false =>
      obtain ⟨b, _, h⟩ := Run.outcome_bind_eq_ok_iff.mp h
      cases b with
      | true =>
          cases h
      | false =>
          cases h

/-- What the conditions of a rule say of a prepared pair: deny wins, and nothing is allowed
unless some allow group passes. -/
theorem outcome_judge
    {module : Value}
    {policy : String}
    {r : Rule}
    {c : CompiledRule}
    (hbound : c.IsBoundFor env module policy r)
    {subject object : Value}
    (hdeny : Condition.AllAnswer env module subject object r.deny)
    (hallow : Condition.AllAnswer env module subject object r.allow) :
    ((judge env c subject object).outcome = .ok .allowed ∧
        Condition.IsBlocked env module subject object r.deny ∧
        Condition.Passes env module subject object r.allow) ∨
      ((judge env c subject object).outcome = .ok .denied ∧
        ¬ (Condition.IsBlocked env module subject object r.deny ∧
          Condition.Passes env module subject object r.allow)) := by
  obtain ⟨denies, hrunDeny, hpassDeny, hblockDeny⟩ :=
    Condition.outcome_evaluate subject object hbound.deny_eq hdeny
  obtain ⟨allows, hrunAllow, hpassAllow, hblockAllow⟩ :=
    Condition.outcome_evaluate subject object hbound.allow_eq hallow
  unfold judge
  rw [Run.outcome_bind_of_ok hrunDeny]
  cases denies with
  | true =>
      right
      refine ⟨rfl, ?_⟩
      rintro ⟨hblocked, _⟩
      exact Condition.not_passes_of_isBlocked hblocked (hpassDeny rfl)
  | false =>
      have hfalse : ¬ (false = true) := by
        simp
      rw [if_neg hfalse, Run.outcome_bind_of_ok hrunAllow]
      cases allows with
      | true =>
          left
          exact ⟨rfl, hblockDeny rfl, hpassAllow rfl⟩
      | false =>
          right
          refine ⟨rfl, ?_⟩
          rintro ⟨_, hpasses⟩
          exact Condition.not_passes_of_isBlocked (hblockAllow rfl) hpasses

end Outcome

section Law

variable {env : Environment} {rules : List Rule} {config : PolicyConfig}
variable {schemas : List (String × Value)} {p : Policy}

/-- A request for a rule of the policy is decided by the conditions of the rule. -/
theorem outcome_decide_of_mem
    (hbuilt : Policy.ofRules env rules config schemas = .ok p)
    {r : Rule}
    (hr : r ∈ rules)
    {options : Value}
    (hoptions : options.IsOptions)
    {subject object s o : Value}
    (hprepared :
      Hydration.Prepares env config.checkModule options.optionEntries r.preHooks
        (subject, object) (s, o))
    (hdeny : Condition.AllAnswer env config.checkModule s o r.deny)
    (hallow : Condition.AllAnswer env config.checkModule s o r.allow) :
    ((p.decide env r.name subject object options).outcome = .ok .allowed ∧
        Condition.IsBlocked env config.checkModule s o r.deny ∧
        Condition.Passes env config.checkModule s o r.allow) ∨
      ((p.decide env r.name subject object options).outcome = .ok .denied ∧
        ¬ (Condition.IsBlocked env config.checkModule s o r.deny ∧
          Condition.Passes env config.checkModule s o r.allow)) := by
  obtain ⟨c, hget, hbound⟩ := exists_get?_of_mem hbuilt hr
  have hpair := Hydration.outcome_hydrate hoptions hbound.preHooks_eq hprepared
  rcases outcome_judge hbound hdeny hallow with ⟨hjudge, hformula⟩ | ⟨hjudge, hformula⟩
  · left
    exact ⟨(outcome_decide_eq_ok_iff hget subject object options _).mpr
      ⟨(s, o), hpair, hjudge⟩, hformula⟩
  · right
    exact ⟨(outcome_decide_eq_ok_iff hget subject object options _).mpr
      ⟨(s, o), hpair, hjudge⟩, hformula⟩

/-- **Deny overrides, default deny.**  A policy finds exactly the rules it was built from; it
allows a request iff no deny group holds and some allow group does, denies it otherwise, and
does not look at the order of groups and checks. -/
theorem decide_denyOverrides
    (hbuilt : Policy.ofRules env rules config schemas = .ok p)
    (name : String)
    (subject object options : Value)
    (hoptions : options.IsOptions) :
    ((p.decide env name subject object options).outcome = .ok .ruleNotFound
        ↔
      ∀ r ∈ rules, r.name ≠ name) ∧
    ∀ r ∈ rules, r.name = name →
      ∀ s o,
        Hydration.Prepares env config.checkModule options.optionEntries r.preHooks
          (subject, object) (s, o) →
        Condition.AllAnswer env config.checkModule s o r.deny →
        Condition.AllAnswer env config.checkModule s o r.allow →
        ((p.decide env name subject object options).outcome = .ok .allowed
            ↔
          Condition.IsBlocked env config.checkModule s o r.deny ∧
            Condition.Passes env config.checkModule s o r.allow) ∧
        ((p.decide env name subject object options).outcome = .ok .denied
            ↔
          ¬ (Condition.IsBlocked env config.checkModule s o r.deny ∧
            Condition.Passes env config.checkModule s o r.allow)) ∧
        ∀ (rules' : List Rule) (p' : Policy) (r' : Rule),
          Policy.ofRules env rules' config schemas = .ok p' →
          r' ∈ rules' →
          r'.name = name →
          r'.preHooks = r.preHooks →
          Condition.Regrouped r.deny r'.deny →
          Condition.Regrouped r.allow r'.allow →
          (p'.decide env name subject object options).outcome =
            (p.decide env name subject object options).outcome := by
  constructor
  · constructor
    · intro hmissing r hr hname
      obtain ⟨c, hget, _⟩ := exists_get?_of_mem hbuilt hr
      rw [hname] at hget
      obtain ⟨pair, _, hjudge⟩ :=
        (outcome_decide_eq_ok_iff hget subject object options _).mp hmissing
      exact outcome_judge_ne_ruleNotFound c pair.1 pair.2 hjudge
    · intro hnone
      exact outcome_decide_of_get?_eq_none ((get?_eq_none_iff hbuilt name).mpr hnone)
        subject object options
  · rintro r hr rfl s o hprepared hdeny hallow
    have hdecided := outcome_decide_of_mem hbuilt hr hoptions hprepared hdeny hallow
    refine ⟨?_, ?_, ?_⟩
    · rcases hdecided with ⟨hrun, hformula⟩ | ⟨hrun, hformula⟩
      · simp [hrun, hformula]
      · simp [hrun, hformula]
    · rcases hdecided with ⟨hrun, hformula⟩ | ⟨hrun, hformula⟩
      · simp [hrun, hformula]
      · simp [hrun, hformula]
    · intro rules' p' r' hbuilt' hr' hname hhooks hdeny' hallow'
      rw [← hhooks] at hprepared
      have hother := outcome_decide_of_mem hbuilt' hr' hoptions hprepared
        (Condition.allAnswer_of_regrouped hdeny' hdeny)
        (Condition.allAnswer_of_regrouped hallow' hallow)
      rw [hname, ← Condition.isBlocked_congr hdeny', ← Condition.passes_congr hallow'] at hother
      rcases hdecided with ⟨hrun, hformula⟩ | ⟨hrun, hformula⟩
      · rcases hother with ⟨hrun', _⟩ | ⟨_, hformula'⟩
        · rw [hrun, hrun']
        · exact absurd hformula hformula'
      · rcases hother with ⟨_, hformula'⟩ | ⟨hrun', _⟩
        · exact absurd hformula' hformula
        · rw [hrun, hrun']

end Law

section Newsroom

/-- A host program whose functions load the draft of an article, compare a role and look for
a lock. -/
def newsroom : Environment where
  apply f args :=
    match f.index, args with
    | 0, s :: _ => .ok (.tuple [s, .text "draft"])
    | 1, [s, _, role] => .ok (.bool (s.text? == role.text?))
    | 2, [_, o] => .ok (.bool (o.text? == some "locked"))
    | _, _ => .error (.raised ⟨"ValueError", "", none⟩)
  importable := []
  classMembers _ := []
  callback _ := none

/-- The functions of the newsroom by name. -/
def newsroomChecks : Value :=
  .module ⟨"newsroom", .table, "checks"⟩
    [("load", .function ⟨"load", 0⟩), ("role", .function ⟨"role", 1⟩),
      ("locked", .function ⟨"locked", 2⟩)]

/-- Editors and writers update articles that are not locked. -/
def updateRule : Rule where
  object := "article"
  action := "update"
  name := "article_update"
  allow :=
    [[], [.withArg "role" (.text "editor")],
      [.withArg "role" (.text "writer"), .literal true]]
  deny := [[.named "locked"]]
  preHooks := [.named "load"]
  metadata := []
  description := none

/-- In the newsroom a writer may update an article, and nobody may delete one. -/
theorem newsroom_decides :
    ∃ p, Policy.ofRules newsroom [updateRule] { checkModule := newsroomChecks } [] = .ok p ∧
      (p.decide newsroom "article_update" (.text "writer") .null .null).outcome =
        .ok .allowed ∧
      (p.decide newsroom "article_delete" (.text "writer") .null .null).outcome =
        .ok .ruleNotFound := by
  have hbuilt :
      ∃ p, Policy.ofRules newsroom [updateRule] { checkModule := newsroomChecks } [] = .ok p :=
    ⟨_, rfl⟩
  obtain ⟨p, hp⟩ := hbuilt
  have hlock : Check.Answers newsroom newsroomChecks (.text "writer") (.text "draft")
      (.named "locked") false :=
    ⟨_, _, rfl, rfl, rfl⟩
  have heditor : Check.Answers newsroom newsroomChecks (.text "writer") (.text "draft")
      (.withArg "role" (.text "editor")) false :=
    ⟨_, _, rfl, rfl, rfl⟩
  have hwriter : Check.Answers newsroom newsroomChecks (.text "writer") (.text "draft")
      (.withArg "role" (.text "writer")) true :=
    ⟨_, _, rfl, rfl, rfl⟩
  have htrue : Check.Answers newsroom newsroomChecks (.text "writer") (.text "draft")
      (.literal true) true :=
    rfl
  refine ⟨p, hp, ?_, ?_⟩
  · have hlaw := (decide_denyOverrides hp "article_update" (.text "writer") .null .null
      (Or.inl rfl)).2 updateRule (by simp) rfl (.text "writer") (.text "draft")
      (.step rfl rfl (.done _))
      (by simp [Condition.AllAnswer, updateRule, hlock])
      (by simp [Condition.AllAnswer, updateRule, heditor, hwriter, htrue])
    refine hlaw.1.mpr ⟨?_, ?_⟩
    · simpa [Condition.IsBlocked, updateRule] using hlock
    · simpa [Condition.Passes, updateRule] using Or.inr ⟨hwriter, htrue⟩
  · refine (decide_denyOverrides hp "article_delete" (.text "writer") .null .null
      (Or.inl rfl)).1.mpr ?_
    simp [updateRule]

end Newsroom

end Policy
end AccessPolicy
