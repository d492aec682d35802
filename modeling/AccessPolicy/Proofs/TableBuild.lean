import AccessPolicy.Proofs.Calls
import AccessPolicy.Proofs.Decision

/-!
# Which tables can be built

Whether a table can be built from some rules is said of the rules alone, and so is what
building it fails with.

**Duplicates.**  The checks for duplicates pass iff the pairs of object and action are
distinct, the names are, and no group holds two checks that agree.

**References.**  What a rule looks up by name is listed in the order of look-up: the checks of
its allow groups, those of its deny groups, and its hooks (`Rule.references`).  Binding fails
with the first reference that has no function (`errorOf?_ofRule`).

**Tables.**  `RuleTable.Buildable` puts both together.  Failures have an order of precedence:
duplicate rules, then duplicate checks, then missing functions.
-/

namespace AccessPolicy

namespace Duplicates

/-- Nothing is counted more than once in a list without duplicates. -/
theorem count_le_one_of_nodup
    {α : Type}
    [BEq α]
    [LawfulBEq α]
    {xs : List α}
    (h : xs.Nodup)
    (a : α) :
    ¬ 1 < xs.count a := by
  have hcount := List.nodup_iff_count_le_one.mp h a
  omega

/-- Pairs are at fault unless both the pairs and the names of the rules are distinct. -/
theorem pairs_eq_nil_iff
    {rules : List Rule} :
    pairs rules = []
      ↔
    (rules.map pair).Nodup ∧ (rules.map Rule.name).Nodup := by
  constructor
  · intro h
    have hpass : inRules "" rules = .ok () := by
      rw [inRules, h]
    refine ⟨?_, names_nodup_of_inRules hpass⟩
    rw [List.nodup_iff_count_le_one]
    intro p
    by_contra hcount
    have hmem : p ∈ rules.map pair := by
      apply List.count_pos_iff.mp
      omega
    have hat : p ∈ repeatedPairs rules := by
      simp only [repeatedPairs, List.mem_filter, decide_eq_true_eq]
      exact ⟨mem_distinct hmem, by omega⟩
    unfold pairs at h
    rw [(List.append_eq_nil_iff.mp h).1] at hat
    cases hat
  · rintro ⟨hpairs, hnames⟩
    have hrepeated : repeatedPairs rules = [] := by
      simp only [repeatedPairs, count_le_one_of_nodup hpairs, decide_false, List.filter_false]
    have hclashing : clashingPairs rules = [] := by
      simp only [clashingPairs, count_le_one_of_nodup hnames, decide_false, List.filter_false]
      rfl
    rw [pairs, hrepeated, hclashing]
    rfl

/-- The check for duplicate rules fails iff some pairs are at fault, and tells them all. -/
theorem errorOf?_inRules
    (policy : String)
    (rules : List Rule) :
    errorOf? (inRules policy rules) =
      if pairs rules = [] then none
      else some (Failure.ofCause (.duplicateRule (.text policy)
        (.list ((pairs rules).map fun p => .tuple [.text p.1, .text p.2])))) := by
  unfold inRules
  cases pairs rules with
  | nil =>
      rfl
  | cons p ps =>
      rfl

/-- Nothing is found to be repeated iff no check agrees with one before it. -/
theorem repeatedAfter_eq_nil_iff
    (seen found g : Group) :
    repeatedAfter seen found g = []
      ↔
    found = [] ∧ (∀ c ∈ g, holds seen c = false) ∧ g.Pairwise fun c d => c.agrees d = false := by
  induction g generalizing seen found with
  | nil =>
      simp [repeatedAfter]
  | cons c rest ih =>
      have hfound :
          (if holds seen c && !holds found c then found ++ [c] else found) = []
            ↔
          found = [] ∧ holds seen c = false := by
        cases found with
        | nil =>
            cases holds seen c <;> simp [holds]
        | cons d ds =>
            split <;> simp
      have hseen :
          ∀ d, holds (seen ++ [c]) d = false ↔ holds seen d = false ∧ c.agrees d = false := by
        intro d
        simp [holds]
      rw [repeatedAfter, ih, hfound]
      simp only [hseen, List.forall_mem_cons, List.pairwise_cons, forall_and]
      tauto

end Duplicates

/-- No group of a rule holds two checks that agree. -/
def Rule.HasDistinctChecks (r : Rule) : Prop :=
  ∀ g ∈ r.allow ++ r.deny, g.Pairwise fun c d => c.agrees d = false

namespace Duplicates

theorem repeatedChecks_eq_nil_iff
    (g : Group) :
    repeatedChecks g = [] ↔ g.Pairwise fun c d => c.agrees d = false := by
  rw [repeatedChecks, repeatedAfter_eq_nil_iff]
  simp [holds]

theorem firstRepeated_eq_none_iff
    (groups : List Group) :
    firstRepeated groups = none ↔ ∀ g ∈ groups, g.Pairwise fun c d => c.agrees d = false := by
  rw [firstRepeated, List.findSome?_eq_none_iff]
  refine forall₂_congr fun g _ => ?_
  rw [← repeatedChecks_eq_nil_iff]
  cases repeatedChecks g with
  | nil =>
      simp
  | cons c cs =>
      simp

theorem offence?_eq_none_iff
    (r : Rule) :
    offence? r = none ↔ r.HasDistinctChecks := by
  have hgroups :
      r.HasDistinctChecks ↔ firstRepeated r.allow = none ∧ firstRepeated r.deny = none := by
    rw [firstRepeated_eq_none_iff, firstRepeated_eq_none_iff, Rule.HasDistinctChecks,
      List.forall_mem_append]
  rw [hgroups, offence?]
  cases firstRepeated r.allow with
  | none =>
      simp
  | some cs =>
      simp

/-- The failure that tells repeated checks, if they can be written. -/
def checkFailure (policy : String) (r : Rule) (field : String) (cs : Group) : Failure :=
  if cs.all fun c => c.toValue.isWritable then
    Failure.ofCause
      (.duplicateCheck (.text policy) (.text r.object) (.text r.action) (.text field)
        (.list (cs.map fun c => .text c.display)))
  else .unwritable

/-- The check for duplicate checks fails iff a group of the rule is at fault. -/
theorem errorOf?_inRule
    (policy : String)
    (r : Rule) :
    errorOf? (inRule policy r) = (offence? r).map fun o => checkFailure policy r o.1 o.2 := by
  unfold inRule checkFailure
  cases offence? r with
  | none =>
      rfl
  | some o =>
      simp only [Option.map_some]
      split <;> rfl

end Duplicates

namespace Environment

/-- A module that is given by a path can be imported. -/
def Imports (env : Environment) (module : Value) : Prop :=
  ∀ path, module.text? = some path → ∃ m, env.importPath path = .ok m

variable {env : Environment} {module : Value}

/-- In a module that can be imported, every name has a function or has none. -/
theorem exists_resolve
    (himport : env.Imports module)
    (name : String) :
    ∃ found, env.resolve module name = .ok found := by
  unfold resolve
  split
  · exact ⟨none, rfl⟩
  · cases htext : module.text? with
    | none =>
        exact ⟨_, rfl⟩
    | some path =>
        obtain ⟨m, hm⟩ := himport path htext
        simp only [hm]
        exact ⟨_, rfl⟩

/-- What a name stands for can be called. -/
theorem isCallable_of_resolve
    {name : String}
    {f : Value}
    (h : env.resolve module name = .ok (some f)) :
    f.isCallable = true := by
  have hfilter :
      ∀ m : Value, (env.lookup? m name).filter Value.isCallable = some f →
        f.isCallable = true := by
    intro m hm
    exact (Option.filter_eq_some_iff.mp hm).2
  unfold resolve at h
  split at h
  · cases h
  · split at h
    · obtain ⟨m, _, hfound⟩ := except_bind_eq_ok_iff.mp h
      exact hfilter m (Except.ok.inj hfound)
    · exact hfilter module (Except.ok.inj h)

end Environment

namespace Caller

/-- The module in which a check or hook is looked up. -/
def moduleIn (checkModule : Value) : Caller → Value
  | .check _ => checkModule
  | .hook h => h.moduleIn checkModule

/-- The name that is looked up; a constant check has none. -/
def name? : Caller → Option String
  | .check c => c.name?
  | .hook h => some h.name

/-- What is looked up is something that can be called. -/
def Resolves (env : Environment) (module : Value) (ref : Caller) : Prop :=
  ∀ n, ref.name? = some n →
    ∃ f, f.isCallable = true ∧ env.resolve (ref.moduleIn module) n = .ok (some f)

/-- The failure of a check or hook that has no function. -/
def unknown (module : Value) (rule policy : String) : Caller → Failure
  | .check c => Condition.unknownCheck module rule policy (c.name?.getD "")
  | .hook h => Hydration.unknownHook module rule policy h

/-- What binding a check or hook fails with. -/
def failure? (env : Environment) (module : Value) (rule policy : String) :
    Caller → Option Failure
  | .check c => errorOf? (Condition.bindCheck env module rule policy c)
  | .hook h => errorOf? (Hydration.bindHook env module rule policy h)

section Binding

variable {env : Environment} {module : Value} {rule policy : String} {ref : Caller}

/-- Binding fails for a name without a function, and for no other. -/
theorem failure?_cases
    (himport : env.Imports (ref.moduleIn module)) :
    (ref.Resolves env module ∧ ref.failure? env module rule policy = none) ∨
      (¬ ref.Resolves env module ∧
        ref.failure? env module rule policy = some (ref.unknown module rule policy)) := by
  cases hname : ref.name? with
  | none =>
      left
      refine ⟨by simp [Resolves, hname], ?_⟩
      cases ref with
      | hook h =>
          cases hname
      | check c =>
          have hconstant : c.name? = none := hname
          simp [failure?, Condition.bindCheck, hconstant]
  | some n =>
      obtain ⟨found, hfound⟩ := Environment.exists_resolve himport n
      have hresolves : ref.Resolves env module ↔ ∃ f, found = some f := by
        simp only [Resolves, hname, Option.some.injEq, forall_eq', hfound, Except.ok.injEq]
        constructor
        · rintro ⟨f, _, rfl⟩
          exact ⟨f, rfl⟩
        · rintro ⟨f, rfl⟩
          exact ⟨f, Environment.isCallable_of_resolve hfound, rfl⟩
      have hfailure :
          ref.failure? env module rule policy =
            match found with
            | some _ => none
            | none => some (ref.unknown module rule policy) := by
        cases ref with
        | check c =>
            have hn : c.name? = some n := hname
            have hc : env.resolve module n = .ok found := hfound
            simp only [failure?, Condition.bindCheck, hn, hc, unknown]
            cases found <;> rfl
        | hook h =>
            have hn : h.name = n := Option.some.inj hname
            have hh : env.resolve (h.moduleIn module) h.name = .ok found := hn ▸ hfound
            simp only [failure?, Hydration.bindHook, hh, unknown]
            cases found <;> rfl
      rw [hresolves, hfailure]
      cases found with
      | none =>
          right
          simp
      | some f =>
          left
          simp

theorem failure?_eq_none_iff
    (himport : env.Imports (ref.moduleIn module)) :
    ref.failure? env module rule policy = none ↔ ref.Resolves env module := by
  rcases failure?_cases himport with ⟨hresolves, hnone⟩ | ⟨hunknown, hsome⟩
  · exact ⟨fun _ => hresolves, fun _ => hnone⟩
  · rw [hsome]
    simpa using hunknown

theorem of_failure?_eq_some
    (himport : env.Imports (ref.moduleIn module))
    {e : Failure}
    (h : ref.failure? env module rule policy = some e) :
    ¬ ref.Resolves env module ∧ e = ref.unknown module rule policy := by
  rcases failure?_cases himport with ⟨_, hnone⟩ | ⟨hunknown, hsome⟩
  · rw [hnone] at h
    cases h
  · rw [hsome] at h
    exact ⟨hunknown, (Option.some.inj h).symm⟩

end Binding

end Caller

/-- The checks and hooks of a rule in the order in which they are looked up. -/
def Rule.references (r : Rule) : List Caller :=
  r.allow.flatten.map .check ++ r.deny.flatten.map .check ++ r.preHooks.map .hook

/-- Binding a rule fails with the first reference that cannot be bound. -/
theorem CompiledRule.errorOf?_ofRule
    (env : Environment)
    (module : Value)
    (policy : String)
    (r : Rule) :
    errorOf? (CompiledRule.ofRule env module policy r) =
      r.references.findSome? (Caller.failure? env module r.name policy) := by
  have hgroups :
      ∀ groups : List Group,
        errorOf? (Condition.bind env module r.name policy groups) =
          (groups.flatten.map Caller.check).findSome?
            (Caller.failure? env module r.name policy) := by
    intro groups
    rw [Condition.bind, errorOf?_mapM, List.findSome?_map, findSome?_flatten]
    simp only [errorOf?_mapM]
    rfl
  have hhooks :
      errorOf? (Hydration.bind env module r.name policy r.preHooks) =
        (r.preHooks.map Caller.hook).findSome? (Caller.failure? env module r.name policy) := by
    rw [Hydration.bind, errorOf?_mapM, List.findSome?_map]
    rfl
  rw [Rule.references, List.findSome?_append, List.findSome?_append, ← hgroups, ← hgroups,
    ← hhooks, Option.or_assoc, CompiledRule.ofRule]
  refine errorOf?_bind fun allow => errorOf?_bind fun deny => ?_
  have hdone :
      ∀ hooks, errorOf? (pure ⟨r, allow, deny, hooks⟩ : Except Failure CompiledRule) = none :=
    fun _ => rfl
  rw [errorOf?_bind hdone, Option.or_none]

/-- A bound check is that of a check, with the function that its name stands for. -/
structure BoundCheck.Mirrors
    (env : Environment)
    (module : Value)
    (c : Check)
    (bc : BoundCheck) : Prop where
  check_eq : bc.check = c
  constant : c.name? = none → bc.function = none
  found : ∀ n, c.name? = some n →
    ∃ f, bc.function = some f ∧ f.isCallable = true ∧ env.resolve module n = .ok (some f)

/-- A bound hook is that of a hook, with the function that its name stands for. -/
structure BoundHook.Mirrors
    (env : Environment)
    (module : Value)
    (h : Hook)
    (bh : BoundHook) : Prop where
  hook_eq : bh.hook = h
  callable : bh.function.isCallable = true
  found : env.resolve (h.moduleIn module) h.name = .ok (some bh.function)

/-- A compiled rule has the groups and hooks of a rule, position by position. -/
structure CompiledRule.Mirrors
    (env : Environment)
    (module : Value)
    (r : Rule)
    (c : CompiledRule) : Prop where
  rule_eq : c.rule = r
  allow : List.Forall₂ (List.Forall₂ (BoundCheck.Mirrors env module)) r.allow c.allow
  deny : List.Forall₂ (List.Forall₂ (BoundCheck.Mirrors env module)) r.deny c.deny
  preHooks : List.Forall₂ (BoundHook.Mirrors env module) r.preHooks c.preHooks

section Mirrors

variable {env : Environment} {module : Value} {rule policy : String}

theorem Condition.mirrors_of_bind
    {groups : List Group}
    {bound : List BoundGroup}
    (h : Condition.bind env module rule policy groups = .ok bound) :
    List.Forall₂ (List.Forall₂ (BoundCheck.Mirrors env module)) groups bound := by
  have hcheck :
      ∀ c bc, Condition.bindCheck env module rule policy c = .ok bc →
        BoundCheck.Mirrors env module c bc := by
    intro c bc hc
    obtain ⟨hcheck, hfound⟩ := Condition.bindCheck_eq_ok hc
    refine ⟨hcheck, ?_, ?_⟩
    · intro hn
      rw [hn] at hfound
      exact hfound
    · intro n hn
      rw [hn] at hfound
      obtain ⟨f, hresolve, hfunction⟩ := hfound
      exact ⟨f, hfunction, Environment.isCallable_of_resolve hresolve, hresolve⟩
  refine (mapM_eq_ok_iff_forall₂.mp h).imp fun g bg hg => ?_
  exact (mapM_eq_ok_iff_forall₂.mp hg).imp hcheck

theorem Hydration.mirrors_of_bind
    {hooks : List Hook}
    {bound : List BoundHook}
    (h : Hydration.bind env module rule policy hooks = .ok bound) :
    List.Forall₂ (BoundHook.Mirrors env module) hooks bound := by
  refine (mapM_eq_ok_iff_forall₂.mp h).imp fun k bk hk => ?_
  obtain ⟨hhook, hresolve⟩ := Hydration.bindHook_eq_ok hk
  exact ⟨hhook, Environment.isCallable_of_resolve hresolve, hresolve⟩

theorem CompiledRule.IsBoundFor.mirrors
    {r : Rule}
    {c : CompiledRule}
    (h : c.IsBoundFor env module policy r) :
    CompiledRule.Mirrors env module r c where
  rule_eq := h.rule_eq
  allow := Condition.mirrors_of_bind h.allow_eq
  deny := Condition.mirrors_of_bind h.deny_eq
  preHooks := Hydration.mirrors_of_bind h.preHooks_eq

end Mirrors

namespace RuleTable

/-- What some rules must satisfy for a table to be built from them. -/
structure Buildable
    (env : Environment)
    (module : Value)
    (rules : List Rule) : Prop where
  pairs_nodup : (rules.map Duplicates.pair).Nodup
  names_nodup : (rules.map Rule.name).Nodup
  checks_distinct : ∀ r ∈ rules, r.HasDistinctChecks
  resolves : ∀ r ∈ rules, ∀ ref ∈ r.references, ref.Resolves env module

section Building

variable {env : Environment} {module : Value} {policy : String} {rules : List Rule}

/-- Building fails with the first failure of its three passes over the rules. -/
theorem errorOf?_ofRules :
    errorOf? (ofRules env rules module policy) =
      (errorOf? (Duplicates.inRules policy rules)).or
        ((rules.findSome? fun r => errorOf? (Duplicates.inRule policy r)).or
          (rules.findSome? fun r =>
            r.references.findSome? (Caller.failure? env module r.name policy))) := by
  have hcompile :
      errorOf? (rules.mapM (CompiledRule.ofRule env module policy)) =
        rules.findSome? fun r =>
          r.references.findSome? (Caller.failure? env module r.name policy) := by
    rw [errorOf?_mapM]
    simp only [CompiledRule.errorOf?_ofRule]
  have hdone :
      ∀ compiled, errorOf? (pure ⟨compiled⟩ : Except Failure RuleTable) = none :=
    fun _ => rfl
  rw [ofRules, ← errorOf?_forM, ← hcompile]
  refine errorOf?_bind fun _ => errorOf?_bind fun _ => ?_
  rw [errorOf?_bind hdone, Option.or_none]

/-- A table finds the compiled form of each of its rules under the name of the rule, and
nothing under any other name. -/
theorem get?_of_ofRules
    {t : RuleTable}
    (h : ofRules env rules module policy = .ok t) :
    (∀ r ∈ rules, ∃ c, t.get? r.name = some c ∧ c.IsBoundFor env module policy r) ∧
      ∀ n, (∀ r ∈ rules, r.name ≠ n) → t.get? n = none := by
  -- A table is that of a policy with this check module and name.
  have hpolicy :
      Policy.ofRules env rules { name := policy, checkModule := module } [] =
        .ok ⟨t, { name := policy, checkModule := module }, []⟩ := by
    rw [Policy.ofRules, h]
    rfl
  exact ⟨fun r hr => Policy.exists_get?_of_mem hpolicy hr,
    fun n hn => (Policy.get?_eq_none_iff hpolicy n).mpr hn⟩

section Imports

variable (himport : env.Imports module)
variable (hhooks : ∀ r ∈ rules, ∀ h ∈ r.preHooks, env.Imports (h.moduleIn module))
include himport hhooks

theorem imports_of_mem_references
    {r : Rule}
    (hr : r ∈ rules)
    {ref : Caller}
    (href : ref ∈ r.references) :
    env.Imports (ref.moduleIn module) := by
  cases ref with
  | check c =>
      exact himport
  | hook h =>
      have hmem : h ∈ r.preHooks := by
        simpa [Rule.references] using href
      exact hhooks r hr h hmem

theorem exists_ofRules_iff_buildable :
    (∃ t, ofRules env rules module policy = .ok t) ↔ Buildable env module rules := by
  have hpairs :
      errorOf? (Duplicates.inRules policy rules) = none ↔ Duplicates.pairs rules = [] := by
    rw [Duplicates.errorOf?_inRules]
    split
    · simp_all
    · simp_all
  have hchecks :
      (rules.findSome? fun r => errorOf? (Duplicates.inRule policy r)) = none
        ↔
      ∀ r ∈ rules, r.HasDistinctChecks := by
    simp only [List.findSome?_eq_none_iff, Duplicates.errorOf?_inRule, Option.map_eq_none_iff,
      Duplicates.offence?_eq_none_iff]
  have hfound :
      (rules.findSome? fun r =>
          r.references.findSome? (Caller.failure? env module r.name policy)) = none
        ↔
      ∀ r ∈ rules, ∀ ref ∈ r.references, ref.Resolves env module := by
    simp only [List.findSome?_eq_none_iff]
    refine forall₂_congr fun r hr => forall₂_congr fun ref href => ?_
    exact Caller.failure?_eq_none_iff (imports_of_mem_references himport hhooks hr href)
  rw [← errorOf?_eq_none_iff, errorOf?_ofRules, Option.or_eq_none_iff, Option.or_eq_none_iff,
    hpairs, Duplicates.pairs_eq_nil_iff, hchecks, hfound]
  constructor
  · rintro ⟨⟨hpairs, hnames⟩, hdistinct, hresolves⟩
    exact ⟨hpairs, hnames, hdistinct, hresolves⟩
  · rintro ⟨hpairs, hnames, hdistinct, hresolves⟩
    exact ⟨⟨hpairs, hnames⟩, hdistinct, hresolves⟩

/-- Building a table fails with duplicate rules first, then with the first rule that repeats a
check, then with the first reference that has no function. -/
theorem of_ofRules_eq_error
    {e : Failure}
    (he : ofRules env rules module policy = .error e) :
    (Duplicates.pairs rules ≠ [] ∧
      e = Failure.ofCause (.duplicateRule (.text policy)
        (.list ((Duplicates.pairs rules).map fun p => .tuple [.text p.1, .text p.2])))) ∨
    (Duplicates.pairs rules = [] ∧
      ∃ before r after field cs, rules = before ++ r :: after ∧
        (∀ r' ∈ before, r'.HasDistinctChecks) ∧
        Duplicates.offence? r = some (field, cs) ∧
        e = Duplicates.checkFailure policy r field cs) ∨
    (Duplicates.pairs rules = [] ∧ (∀ r ∈ rules, r.HasDistinctChecks) ∧
      ∃ before r after, rules = before ++ r :: after ∧
        (∀ r' ∈ before, ∀ ref ∈ r'.references, ref.Resolves env module) ∧
        ∃ earlier ref later, r.references = earlier ++ ref :: later ∧
          (∀ ref' ∈ earlier, ref'.Resolves env module) ∧
          ¬ ref.Resolves env module ∧
          e = ref.unknown module r.name policy) := by
  have hfirst := errorOf?_eq_some_iff.mpr he
  rw [errorOf?_ofRules, Duplicates.errorOf?_inRules] at hfirst
  split at hfirst
  · rename_i hpairs
    right
    rw [Option.none_or] at hfirst
    rcases Option.or_eq_some_iff.mp hfirst with hcheck | ⟨hnone, hunknown⟩
    · left
      obtain ⟨before, r, after, hsplit, hr, hbefore⟩ := List.findSome?_eq_some_iff.mp hcheck
      rw [Duplicates.errorOf?_inRule] at hr
      obtain ⟨⟨field, cs⟩, hoffence, rfl⟩ := Option.map_eq_some_iff.mp hr
      refine ⟨hpairs, before, r, after, field, cs, hsplit, ?_, hoffence, rfl⟩
      intro r' hr'
      have hnone := hbefore r' hr'
      rwa [Duplicates.errorOf?_inRule, Option.map_eq_none_iff,
        Duplicates.offence?_eq_none_iff] at hnone
    · right
      refine ⟨hpairs, ?_, ?_⟩
      · intro r hr
        have hr := List.findSome?_eq_none_iff.mp hnone r hr
        rwa [Duplicates.errorOf?_inRule, Option.map_eq_none_iff,
          Duplicates.offence?_eq_none_iff] at hr
      · obtain ⟨before, r, after, hsplit, hr, hbefore⟩ := List.findSome?_eq_some_iff.mp hunknown
        obtain ⟨earlier, ref, later, href, hfails, hearlier⟩ := List.findSome?_eq_some_iff.mp hr
        have hrule :
            ∀ r' ∈ before ++ [r], ∀ ref' ∈ r'.references, env.Imports (ref'.moduleIn module) := by
          intro r' hr' ref' href'
          refine imports_of_mem_references himport hhooks ?_ href'
          rw [hsplit]
          rcases List.mem_append.mp hr' with hr' | hr'
          · exact List.mem_append_left _ hr'
          · simp [List.mem_singleton.mp hr']
        have himportRef := hrule r (by simp) ref (by simp [href])
        obtain ⟨hunresolved, hfailure⟩ := Caller.of_failure?_eq_some himportRef hfails
        refine ⟨before, r, after, hsplit, ?_, earlier, ref, later, href, ?_, hunresolved, hfailure⟩
        · intro r' hr' ref' href'
          have hnone := List.findSome?_eq_none_iff.mp (hbefore r' hr') ref' href'
          exact (Caller.failure?_eq_none_iff (hrule r' (by simp [hr']) ref' href')).mp hnone
        · intro ref' href'
          exact (Caller.failure?_eq_none_iff
            (hrule r (by simp) ref' (by simp [href, href']))).mp (hearlier ref' href')
  · rename_i hpairs
    left
    rw [Option.some_or] at hfirst
    exact ⟨hpairs, (Option.some.inj hfirst).symm⟩

/-- **Tables are sound and complete.**  Unless a module cannot be imported, a table is built
from some rules iff they are distinct in their pairs and names, repeat no check in a group, and
name functions that exist.  It then holds the rules in order, finds each one compiled under its
name, and finds nothing else.  Otherwise building fails with the first of these conditions that
does not hold; repeated checks are told if they can be written. -/
theorem ofRules_sound_complete :
    ((∃ t, ofRules env rules module policy = .ok t) ↔ Buildable env module rules) ∧
    (∀ t, ofRules env rules module policy = .ok t →
      t.names = rules.map Rule.name ∧
      t.rules = rules ∧
      (∀ r ∈ rules, ∃ c, t.get? r.name = some c ∧ CompiledRule.Mirrors env module r c) ∧
      ∀ n, (∀ r ∈ rules, r.name ≠ n) → t.get? n = none) ∧
    ∀ e, ofRules env rules module policy = .error e →
      (¬ ((rules.map Duplicates.pair).Nodup ∧ (rules.map Rule.name).Nodup) →
        e = Failure.ofCause (.duplicateRule (.text policy)
          (.list ((Duplicates.pairs rules).map fun p => .tuple [.text p.1, .text p.2])))) ∧
      ((rules.map Duplicates.pair).Nodup ∧ (rules.map Rule.name).Nodup →
        ¬ (∀ r ∈ rules, r.HasDistinctChecks) →
          ∃ before r after field cs, rules = before ++ r :: after ∧
            (∀ r' ∈ before, r'.HasDistinctChecks) ∧
            Duplicates.offence? r = some (field, cs) ∧
            e = if cs.all fun c => c.toValue.isWritable then
                Failure.ofCause
                  (.duplicateCheck (.text policy) (.text r.object) (.text r.action) (.text field)
                    (.list (cs.map fun c => .text c.display)))
              else .unwritable) ∧
      ((rules.map Duplicates.pair).Nodup ∧ (rules.map Rule.name).Nodup →
        (∀ r ∈ rules, r.HasDistinctChecks) →
          ∃ before r after, rules = before ++ r :: after ∧
            (∀ r' ∈ before, ∀ ref ∈ r'.references, ref.Resolves env module) ∧
            ∃ earlier ref later, r.references = earlier ++ ref :: later ∧
              (∀ ref' ∈ earlier, ref'.Resolves env module) ∧
              ¬ ref.Resolves env module ∧
              e = ref.unknown module r.name policy) := by
  refine ⟨exists_ofRules_iff_buildable himport hhooks, ?_, ?_⟩
  · intro t ht
    obtain ⟨_, hall⟩ := ofRules_eq_ok ht
    have hrules : t.rules = rules := CompiledRule.map_rule_eq hall
    obtain ⟨hfound, hmissing⟩ := get?_of_ofRules ht
    refine ⟨?_, hrules, ?_, hmissing⟩
    · rw [← hrules, RuleTable.rules, List.map_map]
      rfl
    · intro r hr
      obtain ⟨c, hget, hbound⟩ := hfound r hr
      exact ⟨c, hget, hbound.mirrors⟩
  · intro e he
    rw [← Duplicates.pairs_eq_nil_iff]
    rcases of_ofRules_eq_error himport hhooks he with
      ⟨hpairs, hfailure⟩ | ⟨hpairs, hrepeated⟩ | ⟨hpairs, hdistinct, hunknown⟩
    · exact ⟨fun _ => hfailure, fun h => absurd h hpairs, fun h => absurd h hpairs⟩
    · refine ⟨fun h => absurd hpairs h, fun _ _ => hrepeated, fun _ hdistinct => ?_⟩
      obtain ⟨before, r, after, field, cs, rfl, _, hoffence, _⟩ := hrepeated
      have hnone := (Duplicates.offence?_eq_none_iff r).mpr (hdistinct r (by simp))
      rw [hoffence] at hnone
      cases hnone
    · exact ⟨fun h => absurd hpairs h, fun _ h => absurd hdistinct h, fun _ _ => hunknown⟩

end Imports

end Building

/-- In the newsroom a table is built from the rule for updates, and not from that rule twice. -/
theorem newsroom_tables :
    (∃ t, ofRules Policy.newsroom [Policy.updateRule] Policy.newsroomChecks "press" = .ok t ∧
      t.names = ["article_update"] ∧ t.get? "article_delete" = none) ∧
    ofRules Policy.newsroom [Policy.updateRule, Policy.updateRule] Policy.newsroomChecks "press" =
      .error (Failure.ofCause (.duplicateRule (.text "press")
        (.list [.tuple [.text "article", .text "update"]]))) := by
  have himport : Policy.newsroom.Imports Policy.newsroomChecks := by
    intro path hpath
    cases hpath
  have hhooks :
      ∀ rules : List Rule, (∀ r ∈ rules, r = Policy.updateRule) →
        ∀ r ∈ rules, ∀ h ∈ r.preHooks,
          Policy.newsroom.Imports (h.moduleIn Policy.newsroomChecks) := by
    intro rules hrules r hr h hh
    rw [hrules r hr] at hh
    rw [List.mem_singleton.mp hh]
    exact himport
  constructor
  · have hbuilt :
        ∃ t, ofRules Policy.newsroom [Policy.updateRule] Policy.newsroomChecks "press" = .ok t :=
      ⟨_, rfl⟩
    obtain ⟨t, ht⟩ := hbuilt
    obtain ⟨hnames, _, _, hmissing⟩ :=
      (ofRules_sound_complete himport (hhooks [Policy.updateRule] (by simp))).2.1 t ht
    exact ⟨t, ht, hnames, hmissing "article_delete" (by simp [Policy.updateRule])⟩
  · have hfails :
        ∃ e, ofRules Policy.newsroom [Policy.updateRule, Policy.updateRule]
          Policy.newsroomChecks "press" = .error e :=
      ⟨_, rfl⟩
    obtain ⟨e, he⟩ := hfails
    rw [he, ((ofRules_sound_complete himport
      (hhooks [Policy.updateRule, Policy.updateRule] (by simp))).2.2 e he).1 (by simp)]
    rfl

end RuleTable

end AccessPolicy
