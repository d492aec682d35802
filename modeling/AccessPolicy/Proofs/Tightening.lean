import AccessPolicy.Proofs.Locality

/-!
# Tightening a rule never opens it

A rule is made tighter by more deny groups, by another check at the end of an allow group, or by
leaving out allow groups at the end.  A tighter rule allows no request that the rule itself does
not allow, also if functions fail.

**Reached checks.**  Whether a request is allowed is said of the checks that are reached, since
nothing is known of others.  A group comes out false if its checks are true up to one that is
false (`Condition.ComesOutFalse`), and groups admit a request if all groups before one that
holds come out false (`Condition.Admits`).  These are exactly the results of the evaluator
(`outcome_evaluate_eq_true_iff`, `outcome_evaluate_eq_false_iff`).

**Tightening.**  What is reached in a tighter rule need not be reached in the rule itself.  But
if the tighter rule allows a request, then all deny groups of the rule were passed over, and so
were all its allow groups before the one that holds, or one of them holds already.
-/

namespace AccessPolicy

section Reached

variable (env : Environment) (module subject object : Value)

namespace Condition

/-- All checks of a group are true. -/
def Holds (g : Group) : Prop :=
  ∀ c ∈ g, c.Answers env module subject object true

/-- The checks of a group are true up to one that is false. -/
def ComesOutFalse : Group → Prop
  | [] => False
  | c :: rest =>
      c.Answers env module subject object false ∨
        (c.Answers env module subject object true ∧ ComesOutFalse rest)

/-- A group without checks, or one that comes out false. -/
def IsPassedOver (g : Group) : Prop :=
  g = [] ∨ ComesOutFalse env module subject object g

/-- A group with checks holds, and all groups before it are passed over. -/
def Admits : List Group → Prop
  | [] => False
  | g :: rest =>
      (g ≠ [] ∧ Holds env module subject object g) ∨
        (IsPassedOver env module subject object g ∧ Admits rest)

end Condition

end Reached

namespace Condition

section Evaluation

variable {env : Environment} {module : Value} {rule policy : String} (subject object : Value)

theorem outcome_allPass_eq_true_iff
    {g : Group}
    {bg : BoundGroup}
    (hbind : List.Forall₂ (fun c bc => bindCheck env module rule policy c = .ok bc) g bg) :
    (allPass env subject object bg).outcome = .ok true
      ↔
    Holds env module subject object g := by
  unfold Holds
  induction hbind with
  | nil =>
      simp [allPass]
  | @cons c bc g bg hc _ ih =>
      rw [allPass, Run.outcome_bind_eq_ok_iff, List.forall_mem_cons, ← ih,
        ← outcome_run_iff_answers subject object hc]
      simp

theorem outcome_allPass_eq_false_iff
    {g : Group}
    {bg : BoundGroup}
    (hbind : List.Forall₂ (fun c bc => bindCheck env module rule policy c = .ok bc) g bg) :
    (allPass env subject object bg).outcome = .ok false
      ↔
    ComesOutFalse env module subject object g := by
  induction hbind with
  | nil =>
      simp [allPass, ComesOutFalse]
  | @cons c bc g bg hc _ ih =>
      rw [allPass, Run.outcome_bind_eq_ok_iff, ComesOutFalse, ← ih,
        ← outcome_run_iff_answers subject object hc, ← outcome_run_iff_answers subject object hc]
      simp

/-- Groups come out true iff they admit the pair. -/
theorem outcome_evaluate_eq_true_iff
    {groups : List Group}
    {bound : List BoundGroup}
    (hbind : bind env module rule policy groups = .ok bound) :
    (evaluate env subject object bound).outcome = .ok true
      ↔
    Admits env module subject object groups := by
  have hall := mapM_eq_ok_iff_forall₂.mp hbind
  clear hbind
  induction hall with
  | nil =>
      simp [evaluate, Admits]
  | @cons g bg groups bound hg _ ih =>
      have hchecks := mapM_eq_ok_iff_forall₂.mp hg
      have htrue := outcome_allPass_eq_true_iff subject object hchecks
      have hfalse := outcome_allPass_eq_false_iff subject object hchecks
      rw [Admits, IsPassedOver, ih.symm]
      cases hchecks with
      | nil =>
          simp [evaluate]
      | cons _ _ =>
          rw [evaluate, Run.outcome_bind_eq_ok_iff, ← htrue, ← hfalse]
          simp [or_comm]

/-- Groups come out false iff each is passed over. -/
theorem outcome_evaluate_eq_false_iff
    {groups : List Group}
    {bound : List BoundGroup}
    (hbind : bind env module rule policy groups = .ok bound) :
    (evaluate env subject object bound).outcome = .ok false
      ↔
    ∀ g ∈ groups, IsPassedOver env module subject object g := by
  have hall := mapM_eq_ok_iff_forall₂.mp hbind
  clear hbind
  induction hall with
  | nil =>
      simp [evaluate]
  | @cons g bg groups bound hg _ ih =>
      have hchecks := mapM_eq_ok_iff_forall₂.mp hg
      have hfalse := outcome_allPass_eq_false_iff subject object hchecks
      rw [List.forall_mem_cons, IsPassedOver, ih.symm]
      cases hchecks with
      | nil =>
          simp [evaluate]
      | cons _ _ =>
          rw [evaluate, Run.outcome_bind_eq_ok_iff, ← hfalse]
          simp

end Evaluation

section Groups

variable {env : Environment} {module subject object : Value}

/-- A group with one more check at its end comes out false if the group itself does, or if the
group holds and the check is false. -/
theorem comesOutFalse_append_iff
    (g : Group)
    (c : Check) :
    ComesOutFalse env module subject object (g ++ [c])
      ↔
    ComesOutFalse env module subject object g ∨
      (Holds env module subject object g ∧ c.Answers env module subject object false) := by
  induction g with
  | nil =>
      simp [ComesOutFalse, Holds]
  | cons d g ih =>
      rw [List.cons_append, ComesOutFalse, ComesOutFalse, ih]
      unfold Holds
      rw [List.forall_mem_cons]
      tauto

/-- Groups that admit a pair do so with more groups behind them. -/
theorem admits_append
    {groups : List Group}
    (h : Admits env module subject object groups)
    (more : List Group) :
    Admits env module subject object (groups ++ more) := by
  induction groups with
  | nil =>
      exact h.elim
  | cons g groups ih =>
      rcases h with hholds | ⟨hpassed, hrest⟩
      · exact Or.inl hholds
      · exact Or.inr ⟨hpassed, ih hrest⟩

/-- Groups that admit a pair do so without the last check of a group. -/
theorem admits_of_append_check
    {before after : List Group}
    {g : Group}
    {c : Check}
    (hg : g ≠ [])
    (h : Admits env module subject object (before ++ (g ++ [c]) :: after)) :
    Admits env module subject object (before ++ g :: after) := by
  induction before with
  | nil =>
      rcases h with ⟨_, hholds⟩ | ⟨hpassed, hrest⟩
      · exact Or.inl ⟨hg, fun d hd => hholds d (List.mem_append_left _ hd)⟩
      · rcases hpassed with hempty | hfalse
        · simp at hempty
        · rcases (comesOutFalse_append_iff g c).mp hfalse with hfalse | ⟨hholds, _⟩
          · exact Or.inr ⟨Or.inr hfalse, hrest⟩
          · -- The check that was added came out false, and without it the group holds.
            exact Or.inl ⟨hg, hholds⟩
  | cons g' before ih =>
      rcases h with hholds | ⟨hpassed, hrest⟩
      · exact Or.inl hholds
      · exact Or.inr ⟨hpassed, ih hrest⟩

end Groups

end Condition

/-- A rule that is the same but for more deny groups, one more check at the end of an allow group
with checks, or fewer allow groups at the end. -/
inductive Rule.Tightens (r : Rule) : Rule → Prop
  | moreDeny
      {deny : List Group}
      (hdeny : r.deny.Sublist deny) :
      r.Tightens { r with deny := deny }
  | moreChecks
      {before after : List Group}
      {g : Group}
      {c : Check}
      (hallow : r.allow = before ++ g :: after)
      (hg : g ≠ []) :
      r.Tightens { r with allow := before ++ (g ++ [c]) :: after }
  | fewerGroups
      {kept : List Group}
      (hallow : kept <+: r.allow) :
      r.Tightens { r with allow := kept }

namespace Rule.Tightens

variable {r r' : Rule} (h : r.Tightens r')
include h

theorem preHooks_eq : r'.preHooks = r.preHooks := by
  cases h <;> rfl

variable {env : Environment} {module subject object : Value}

theorem deny_subset : r.deny ⊆ r'.deny := by
  cases h with
  | moreDeny hdeny =>
      exact hdeny.subset
  | moreChecks hallow hg =>
      exact List.Subset.refl _
  | fewerGroups hallow =>
      exact List.Subset.refl _

/-- What the allow groups of a tighter rule admit, those of the rule itself admit. -/
theorem admits
    (hadmits : Condition.Admits env module subject object r'.allow) :
    Condition.Admits env module subject object r.allow := by
  cases h with
  | moreDeny hdeny =>
      exact hadmits
  | moreChecks hallow hg =>
      rw [hallow]
      exact Condition.admits_of_append_check hg hadmits
  | fewerGroups hallow =>
      obtain ⟨more, hmore⟩ := hallow
      rw [← hmore]
      exact Condition.admits_append hadmits more

end Rule.Tightens

namespace Policy

variable {env : Environment}

/-- A pair is allowed iff all deny groups are passed over and the allow groups admit it. -/
theorem outcome_judge_eq_allowed_iff
    {module : Value}
    {policy : String}
    {r : Rule}
    {c : CompiledRule}
    (hbound : c.IsBoundFor env module policy r)
    (subject object : Value) :
    (judge env c subject object).outcome = .ok .allowed
      ↔
    (∀ g ∈ r.deny, Condition.IsPassedOver env module subject object g) ∧
      Condition.Admits env module subject object r.allow := by
  rw [← Condition.outcome_evaluate_eq_false_iff subject object hbound.deny_eq,
    ← Condition.outcome_evaluate_eq_true_iff subject object hbound.allow_eq]
  unfold judge
  rw [Run.outcome_bind_eq_ok_iff]
  simp [Run.outcome_bind_eq_ok_iff]

/-- **Tightening never opens.**  If two policies with the same check module have a rule and a
tighter one, then what the tighter rule allows is allowed by the rule itself.  Both requests meet
the same functions, whose outcome is told by their arguments alone (`Environment.apply`). -/
theorem allowed_of_tightens
    {rules : List Rule}
    {config : PolicyConfig}
    {schemas : List (String × Value)}
    {p : Policy}
    (hbuilt : Policy.ofRules env rules config schemas = .ok p)
    {rules' : List Rule}
    {config' : PolicyConfig}
    {schemas' : List (String × Value)}
    {p' : Policy}
    (hbuilt' : Policy.ofRules env rules' config' schemas' = .ok p')
    (hmodule : config'.checkModule = config.checkModule)
    {r r' : Rule}
    (hr : r ∈ rules)
    (hr' : r' ∈ rules')
    (htight : r.Tightens r')
    {subject object options : Value}
    (hallowed : (p'.decide env r'.name subject object options).outcome = .ok .allowed) :
    (p.decide env r.name subject object options).outcome = .ok .allowed := by
  obtain ⟨c, hget, hbound⟩ := exists_get?_of_mem hbuilt hr
  obtain ⟨c', hget', hbound'⟩ := exists_get?_of_mem hbuilt' hr'
  rw [hmodule] at hbound'
  have hhooks : c'.preHooks = c.preHooks := by
    have hbind := hbound'.preHooks_eq
    rw [htight.preHooks_eq] at hbind
    exact Hydration.bind_unique hbind hbound.preHooks_eq
  obtain ⟨pair, hpair, hjudge⟩ :=
    (outcome_decide_eq_ok_iff hget' subject object options _).mp hallowed
  obtain ⟨hdeny, hadmits⟩ := (outcome_judge_eq_allowed_iff hbound' pair.1 pair.2).mp hjudge
  refine (outcome_decide_eq_ok_iff hget subject object options _).mpr ⟨pair, ?_, ?_⟩
  · rw [← hhooks]
    exact hpair
  · exact (outcome_judge_eq_allowed_iff hbound pair.1 pair.2).mpr
      ⟨fun g hg => hdeny g (htight.deny_subset hg), htight.admits hadmits⟩

section Newsroom

/-- Guests do not update articles either. -/
def strictRule : Rule :=
  { updateRule with deny := [[.withArg "role" (.text "guest")], [.named "locked"]] }

/-- What the stricter rule allows a writer, the rule of the newsroom allows. -/
theorem newsroom_tightens :
    ∃ p p',
      Policy.ofRules newsroom [updateRule] { checkModule := newsroomChecks } [] = .ok p ∧
      Policy.ofRules newsroom [strictRule] { checkModule := newsroomChecks } [] = .ok p' ∧
      updateRule.Tightens strictRule ∧
      (p'.decide newsroom "article_update" (.text "writer") .null .null).outcome =
        .ok .allowed ∧
      (p.decide newsroom "article_update" (.text "writer") .null .null).outcome =
        .ok .allowed := by
  have hbuilt :
      ∃ p, Policy.ofRules newsroom [updateRule] { checkModule := newsroomChecks } [] = .ok p :=
    ⟨_, rfl⟩
  have hbuilt' :
      ∃ p', Policy.ofRules newsroom [strictRule] { checkModule := newsroomChecks } [] = .ok p' ∧
        (p'.decide newsroom "article_update" (.text "writer") .null .null).outcome =
          .ok .allowed :=
    ⟨_, rfl, rfl⟩
  obtain ⟨p, hp⟩ := hbuilt
  obtain ⟨p', hp', hallowed⟩ := hbuilt'
  have htight : updateRule.Tightens strictRule :=
    .moreDeny (.cons _ (.refl _))
  exact ⟨p, p', hp, hp', htight, hallowed,
    allowed_of_tightens hp hp' rfl (by simp) (by simp) htight hallowed⟩

end Newsroom

end Policy
end AccessPolicy
