import AccessPolicy.Condition
import AccessPolicy.Proofs.Outcome

/-!
# What conditions mean

The evaluator of conditions is lazy and ordered.  Here its result is compared with
what the groups say when they are read as a formula: a condition passes if some
group with checks has only checks that are true.

**Answers.**  `Check.Answers` is the truth value of a single check, found without an
evaluator: a constant is its own answer, and any other check answers as the function
of its name counts.

**Formula.**  `Condition.Passes` and `Condition.IsBlocked` are the two sides of the
formula.  They speak of membership only, so the order of groups and of the checks in
a group plays no part in them (`passes_congr`, `isBlocked_congr`).

**Agreement.**  If every check has an answer, bound groups evaluate to whether the
condition passes (`outcome_evaluate`).
-/

namespace AccessPolicy

section Answers

variable (env : Environment) (module subject object : Value)

/-- A check is true or false on subject and object: its function returns a value that
counts so. -/
def Check.Answers : Check → Bool → Prop
  | .literal a, b => a = b
  | .named n, b =>
      ∃ f v, env.resolve module n = .ok (some f) ∧
        (env.callValue f [subject, object]).outcome = .ok v ∧ v.isTrue = b
  | .withArg n arg, b =>
      ∃ f v, env.resolve module n = .ok (some f) ∧
        (env.callValue f [subject, object, arg]).outcome = .ok v ∧ v.isTrue = b

namespace Condition

/-- Some group with checks has only checks that are true. -/
def Passes (groups : List Group) : Prop :=
  ∃ g ∈ groups, g ≠ [] ∧ ∀ c ∈ g, c.Answers env module subject object true

/-- Every group is empty or has a check that is false. -/
def IsBlocked (groups : List Group) : Prop :=
  ∀ g ∈ groups, g = [] ∨ ∃ c ∈ g, c.Answers env module subject object false

/-- Every check of some groups has an answer. -/
def AllAnswer (groups : List Group) : Prop :=
  ∀ g ∈ groups, ∀ c ∈ g, ∃ b, c.Answers env module subject object b

end Condition

end Answers

namespace Check

variable {env : Environment} {module subject object : Value}

theorem answers_unique
    {c : Check}
    {a b : Bool}
    (ha : c.Answers env module subject object a)
    (hb : c.Answers env module subject object b) :
    a = b := by
  cases c with
  | literal value =>
      exact ha.symm.trans hb
  | named n =>
      obtain ⟨f, v, hf, hv, rfl⟩ := ha
      obtain ⟨f', v', hf', hv', rfl⟩ := hb
      rw [hf] at hf'
      cases hf'
      rw [hv] at hv'
      cases hv'
      rfl
  | withArg n arg =>
      obtain ⟨f, v, hf, hv, rfl⟩ := ha
      obtain ⟨f', v', hf', hv', rfl⟩ := hb
      rw [hf] at hf'
      cases hf'
      rw [hv] at hv'
      cases hv'
      rfl

end Check

namespace Condition

section Evaluation

variable {env : Environment} {module : Value} {rule policy : String} (subject object : Value)

/-- What binding a check finds: nothing for a constant, else the function of its name. -/
theorem bindCheck_eq_ok
    {c : Check}
    {bc : BoundCheck}
    (h : bindCheck env module rule policy c = .ok bc) :
    bc.check = c ∧
      match c.name? with
      | none => bc.function = none
      | some n => ∃ f, env.resolve module n = .ok (some f) ∧ bc.function = some f := by
  unfold bindCheck at h
  cases hn : c.name? with
  | none =>
      simp only [hn] at h
      cases h
      exact ⟨rfl, rfl⟩
  | some n =>
      simp only [hn] at h
      obtain ⟨found, hfound, hrest⟩ := except_bind_eq_ok_iff.mp h
      cases found with
      | none =>
          cases hrest
      | some f =>
          cases hrest
          exact ⟨rfl, f, hfound, rfl⟩

/-- A bound check runs to the answer of the check. -/
theorem outcome_run_iff_answers
    {c : Check}
    {bc : BoundCheck}
    (h : bindCheck env module rule policy c = .ok bc)
    (b : Bool) :
    (bc.run env subject object).outcome = .ok b
      ↔
    c.Answers env module subject object b := by
  obtain ⟨check, function⟩ := bc
  obtain ⟨rfl, hfun⟩ := bindCheck_eq_ok h
  cases check with
  | literal value =>
      simp [BoundCheck.run, Check.Answers]
  | named n =>
      obtain ⟨f, hf, rfl⟩ := hfun
      simp [BoundCheck.run, Check.Answers, Check.arguments, Run.outcome_bind_eq_ok_iff, hf]
  | withArg n arg =>
      obtain ⟨f, hf, rfl⟩ := hfun
      simp [BoundCheck.run, Check.Answers, Check.arguments, Run.outcome_bind_eq_ok_iff, hf]

/-- A group runs to whether all its checks are true. -/
theorem outcome_allPass
    {g : Group}
    {bg : BoundGroup}
    (hbind : List.Forall₂ (fun c bc => bindCheck env module rule policy c = .ok bc) g bg)
    (hanswer : ∀ c ∈ g, ∃ b, c.Answers env module subject object b) :
    ∃ b, (allPass env subject object bg).outcome = .ok b ∧
      (b = true → ∀ c ∈ g, c.Answers env module subject object true) ∧
      (b = false → ∃ c ∈ g, c.Answers env module subject object false) := by
  induction hbind with
  | nil =>
      exact ⟨true, rfl, by simp, by simp⟩
  | @cons c bc g bg hc _ ih =>
      obtain ⟨b, hb⟩ := hanswer c (by simp)
      have hrun := (outcome_run_iff_answers subject object hc b).mpr hb
      cases b with
      | false =>
          refine ⟨false, ?_, by simp, fun _ => ⟨c, by simp, hb⟩⟩
          rw [allPass, Run.outcome_bind_of_ok hrun]
          rfl
      | true =>
          obtain ⟨b', hrest, htrue, hfalse⟩ := ih fun d hd => hanswer d (by simp [hd])
          refine ⟨b', ?_, ?_, ?_⟩
          · rw [allPass, Run.outcome_bind_of_ok hrun]
            exact hrest
          · intro hb' d hd
            rcases List.mem_cons.mp hd with rfl | hd
            · exact hb
            · exact htrue hb' d hd
          · intro hb'
            obtain ⟨d, hd, hans⟩ := hfalse hb'
            exact ⟨d, by simp [hd], hans⟩

/-- Bound groups evaluate to whether the condition passes. -/
theorem outcome_evaluate
    {groups : List Group}
    {bound : List BoundGroup}
    (hbind : bind env module rule policy groups = .ok bound)
    (hanswer : AllAnswer env module subject object groups) :
    ∃ b, (evaluate env subject object bound).outcome = .ok b ∧
      (b = true → Passes env module subject object groups) ∧
      (b = false → IsBlocked env module subject object groups) := by
  have hall := mapM_eq_ok_iff_forall₂.mp hbind
  clear hbind
  induction hall with
  | nil =>
      exact ⟨false, rfl, by simp, by simp [IsBlocked]⟩
  | @cons g bg groups bound hg _ ih =>
      have hchecks := mapM_eq_ok_iff_forall₂.mp hg
      obtain ⟨b', hrest, htrue, hfalse⟩ := ih fun g' hg' => hanswer g' (by simp [hg'])
      have hpass : b' = true → Passes env module subject object (g :: groups) := by
        intro hb'
        obtain ⟨g', hg', hne, hans⟩ := htrue hb'
        exact ⟨g', by simp [hg'], hne, hans⟩
      obtain ⟨b, hgroup, htrue', hfalse'⟩ :=
        outcome_allPass subject object hchecks (hanswer g (by simp))
      cases hchecks with
      | nil =>
          refine ⟨b', hrest, hpass, fun hb' g' hg' => ?_⟩
          rcases List.mem_cons.mp hg' with rfl | hg'
          · exact Or.inl rfl
          · exact hfalse hb' g' hg'
      | @cons c bc cs bcs _ _ =>
          cases b with
          | true =>
              refine ⟨true, ?_, fun _ => ⟨c :: cs, by simp, by simp, htrue' rfl⟩, by simp⟩
              rw [evaluate, Run.outcome_bind_of_ok hgroup]
              rfl
          | false =>
              refine ⟨b', ?_, hpass, fun hb' g' hg' => ?_⟩
              · rw [evaluate, Run.outcome_bind_of_ok hgroup]
                exact hrest
              · rcases List.mem_cons.mp hg' with rfl | hg'
                · exact Or.inr (hfalse' rfl)
                · exact hfalse hb' g' hg'

end Evaluation

section Formula

variable {env : Environment} {module subject object : Value}

theorem not_passes_of_isBlocked
    {groups : List Group}
    (h : IsBlocked env module subject object groups) :
    ¬ Passes env module subject object groups := by
  rintro ⟨g, hg, hne, hall⟩
  rcases h g hg with rfl | ⟨c, hc, hfalse⟩
  · exact hne rfl
  · exact Bool.noConfusion (Check.answers_unique (hall c hc) hfalse)

/-- Groups that differ only in the order of the groups and of the checks in a group. -/
def Regrouped (groups groups' : List Group) : Prop :=
  ∃ reordered, groups.Perm reordered ∧ List.Forall₂ List.Perm reordered groups'

theorem exists_perm_of_mem_regrouped
    {groups groups' : List Group}
    (h : Regrouped groups groups') :
    (∀ g ∈ groups, ∃ g' ∈ groups', g.Perm g') ∧ (∀ g' ∈ groups', ∃ g ∈ groups, g.Perm g') := by
  obtain ⟨reordered, hperm, hall⟩ := h
  have hboth :
      (∀ g ∈ reordered, ∃ g' ∈ groups', g.Perm g') ∧
        (∀ g' ∈ groups', ∃ g ∈ reordered, g.Perm g') := by
    clear hperm
    induction hall with
    | nil =>
        simp
    | cons hg _ ih =>
        simp only [List.mem_cons, forall_eq_or_imp, exists_eq_or_imp]
        exact ⟨⟨Or.inl hg, fun g h => Or.inr (ih.1 g h)⟩,
          ⟨Or.inl hg, fun g h => Or.inr (ih.2 g h)⟩⟩
  constructor
  · intro g hg
    exact hboth.1 g (hperm.mem_iff.mp hg)
  · intro g' hg'
    obtain ⟨g, hg, hp⟩ := hboth.2 g' hg'
    exact ⟨g, hperm.mem_iff.mpr hg, hp⟩

/-- The order of groups and checks plays no part in whether a condition passes. -/
theorem passes_congr
    {groups groups' : List Group}
    (h : Regrouped groups groups') :
    Passes env module subject object groups ↔ Passes env module subject object groups' := by
  obtain ⟨hto, hfrom⟩ := exists_perm_of_mem_regrouped h
  constructor
  · rintro ⟨g, hg, hne, hall⟩
    obtain ⟨g', hg', hp⟩ := hto g hg
    refine ⟨g', hg', ?_, fun c hc => hall c (hp.mem_iff.mpr hc)⟩
    rintro rfl
    exact hne hp.eq_nil
  · rintro ⟨g', hg', hne, hall⟩
    obtain ⟨g, hg, hp⟩ := hfrom g' hg'
    refine ⟨g, hg, ?_, fun c hc => hall c (hp.mem_iff.mp hc)⟩
    rintro rfl
    exact hne hp.symm.eq_nil

theorem isBlocked_congr
    {groups groups' : List Group}
    (h : Regrouped groups groups') :
    IsBlocked env module subject object groups
      ↔
    IsBlocked env module subject object groups' := by
  obtain ⟨hto, hfrom⟩ := exists_perm_of_mem_regrouped h
  constructor
  · intro hblocked g' hg'
    obtain ⟨g, hg, hp⟩ := hfrom g' hg'
    rcases hblocked g hg with rfl | ⟨c, hc, hfalse⟩
    · exact Or.inl hp.symm.eq_nil
    · exact Or.inr ⟨c, hp.mem_iff.mp hc, hfalse⟩
  · intro hblocked g hg
    obtain ⟨g', hg', hp⟩ := hto g hg
    rcases hblocked g' hg' with rfl | ⟨c, hc, hfalse⟩
    · exact Or.inl hp.eq_nil
    · exact Or.inr ⟨c, hp.mem_iff.mpr hc, hfalse⟩

theorem allAnswer_of_regrouped
    {groups groups' : List Group}
    (h : Regrouped groups groups')
    (hanswer : AllAnswer env module subject object groups) :
    AllAnswer env module subject object groups' := by
  intro g' hg' c hc
  obtain ⟨g, hg, hp⟩ := (exists_perm_of_mem_regrouped h).2 g' hg'
  exact hanswer g hg c (hp.mem_iff.mpr hc)

end Formula

end Condition
end AccessPolicy
