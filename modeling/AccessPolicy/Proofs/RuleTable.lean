import AccessPolicy.Policy
import AccessPolicy.Proofs.Condition
import Mathlib.Data.List.Nodup

/-!
# Tables that are built

A table is built from a list of rules only if no two of them share a name, and then
holds each rule with its checks and hooks bound, in the order of definition.  So a
name means at most one rule, and looking it up finds that rule and no other.

**Names.**  `names_nodup_of_inRules` draws the distinctness of names from the check
for duplicates, which speaks of pairs of object and action.

**Look-up.**  `Policy.get?_eq_some_iff` and `Policy.get?_eq_none_iff` say what a built
policy finds under a name, in terms of the rules that it was built from.
-/

namespace AccessPolicy

namespace Duplicates

theorem mem_distinct
    {α : Type}
    [DecidableEq α]
    {a : α}
    {xs : List α}
    (h : a ∈ xs) :
    a ∈ distinct xs := by
  induction xs with
  | nil =>
      cases h
  | cons x xs ih =>
      by_cases hax : a = x
      · simp [distinct, hax]
      · have hrest : a ∈ xs := by
          simpa [hax] using h
        simp [distinct, hax, ih hrest]

/-- Rules that pass the check for duplicates have no pair at fault. -/
theorem pairs_eq_nil_of_inRules
    {policy : String}
    {rules : List Rule}
    (h : inRules policy rules = .ok ()) :
    pairs rules = [] := by
  unfold inRules at h
  cases hp : pairs rules with
  | nil =>
      rfl
  | cons p ps =>
      simp [hp] at h

/-- Rules that pass the check for duplicates have distinct names. -/
theorem names_nodup_of_inRules
    {policy : String}
    {rules : List Rule}
    (h : inRules policy rules = .ok ()) :
    (rules.map Rule.name).Nodup := by
  have hpairs := pairs_eq_nil_of_inRules h
  unfold pairs at hpairs
  obtain ⟨hrepeated, hclashing⟩ := List.append_eq_nil_iff.mp hpairs
  simp only [hrepeated, List.contains_nil, Bool.not_false, List.filter_true] at hclashing
  rw [List.nodup_iff_count_le_one]
  intro name
  by_contra hcount
  have hmem : name ∈ rules.map Rule.name := by
    apply List.count_pos_iff.mp
    omega
  obtain ⟨r, hr, rfl⟩ := List.mem_map.mp hmem
  have hat : pair r ∈ clashingPairs rules := by
    apply mem_distinct
    apply List.mem_map_of_mem
    simp only [List.mem_filter, decide_eq_true_eq]
    exact ⟨hr, by omega⟩
  rw [hclashing] at hat
  cases hat

end Duplicates

/-- A compiled rule is bound for a rule: its groups and hooks are those of the rule. -/
structure CompiledRule.IsBoundFor
    (env : Environment)
    (module : Value)
    (policy : String)
    (r : Rule)
    (c : CompiledRule) : Prop where
  rule_eq : c.rule = r
  allow_eq : Condition.bind env module r.name policy r.allow = .ok c.allow
  deny_eq : Condition.bind env module r.name policy r.deny = .ok c.deny
  preHooks_eq : Hydration.bind env module r.name policy r.preHooks = .ok c.preHooks

/-- Compiling a rule binds each of its parts. -/
theorem CompiledRule.isBoundFor_of_ofRule
    {env : Environment}
    {module : Value}
    {policy : String}
    {r : Rule}
    {c : CompiledRule}
    (h : CompiledRule.ofRule env module policy r = .ok c) :
    c.IsBoundFor env module policy r := by
  unfold CompiledRule.ofRule at h
  obtain ⟨allow, hallow, h⟩ := except_bind_eq_ok_iff.mp h
  obtain ⟨deny, hdeny, h⟩ := except_bind_eq_ok_iff.mp h
  obtain ⟨hooks, hhooks, h⟩ := except_bind_eq_ok_iff.mp h
  cases h
  exact ⟨rfl, hallow, hdeny, hhooks⟩

section Compiled

variable {env : Environment} {module : Value} {policy : String}
variable {rules : List Rule} {compiled : List CompiledRule}
variable (hall : List.Forall₂ (fun r c => c.IsBoundFor env module policy r) rules compiled)
include hall

/-- Rules bound one by one are the rules of what is bound. -/
theorem CompiledRule.map_rule_eq : compiled.map CompiledRule.rule = rules := by
  induction hall with
  | nil =>
      rfl
  | cons hc _ ih =>
      rw [List.map_cons, hc.rule_eq, ih]

/-- Whatever is bound is bound for one of the rules. -/
theorem CompiledRule.isBoundFor_of_mem
    {c : CompiledRule}
    (hc : c ∈ compiled) :
    c.rule ∈ rules ∧ c.IsBoundFor env module policy c.rule := by
  induction hall with
  | nil =>
      cases hc
  | cons hb _ ih =>
      rcases List.mem_cons.mp hc with rfl | hc
      · rw [hb.rule_eq]
        exact ⟨by simp, hb⟩
      · exact ⟨List.mem_cons_of_mem _ (ih hc).1, (ih hc).2⟩

end Compiled

/-- What building a table ensures: distinct names, and every rule bound in its place. -/
theorem RuleTable.ofRules_eq_ok
    {env : Environment}
    {rules : List Rule}
    {module : Value}
    {policy : String}
    {t : RuleTable}
    (h : RuleTable.ofRules env rules module policy = .ok t) :
    (rules.map Rule.name).Nodup ∧
      List.Forall₂ (fun r c => c.IsBoundFor env module policy r) rules t.compiled := by
  unfold RuleTable.ofRules at h
  obtain ⟨⟨⟩, hrules, h⟩ := except_bind_eq_ok_iff.mp h
  obtain ⟨⟨⟩, _, h⟩ := except_bind_eq_ok_iff.mp h
  obtain ⟨compiled, hcompiled, h⟩ := except_bind_eq_ok_iff.mp h
  cases h
  exact ⟨Duplicates.names_nodup_of_inRules hrules,
    (mapM_eq_ok_iff_forall₂.mp hcompiled).imp fun _ _ => CompiledRule.isBoundFor_of_ofRule⟩

namespace Policy

theorem table_of_ofRules
    {env : Environment}
    {rules : List Rule}
    {config : PolicyConfig}
    {schemas : List (String × Value)}
    {p : Policy}
    (h : Policy.ofRules env rules config schemas = .ok p) :
    RuleTable.ofRules env rules config.checkModule config.name = .ok p.table ∧
      p.config = config := by
  unfold Policy.ofRules at h
  obtain ⟨table, htable, h⟩ := except_bind_eq_ok_iff.mp h
  cases h
  exact ⟨htable, rfl⟩

section Lookup

variable {env : Environment} {rules : List Rule} {config : PolicyConfig}
variable {schemas : List (String × Value)} {p : Policy}
variable (hbuilt : Policy.ofRules env rules config schemas = .ok p)
include hbuilt

/-- The rules that a policy holds are those it was built from. -/
theorem rules_eq_of_ofRules : p.table.rules = rules :=
  CompiledRule.map_rule_eq (RuleTable.ofRules_eq_ok (table_of_ofRules hbuilt).1).2

/-- Every compiled rule of a built policy is bound for one of its rules. -/
theorem isBoundFor_of_mem
    {c : CompiledRule}
    (hc : c ∈ p.table.compiled) :
    c.rule ∈ rules ∧ c.IsBoundFor env config.checkModule config.name c.rule :=
  CompiledRule.isBoundFor_of_mem (RuleTable.ofRules_eq_ok (table_of_ofRules hbuilt).1).2 hc

theorem eq_of_name_eq
    {c c' : CompiledRule}
    (hc : c ∈ p.table.compiled)
    (hc' : c' ∈ p.table.compiled)
    (hname : c.name = c'.name) :
    c = c' := by
  obtain ⟨htable, _⟩ := table_of_ofRules hbuilt
  obtain ⟨hnodup, _⟩ := RuleTable.ofRules_eq_ok htable
  have hnames : rules.map Rule.name = p.table.compiled.map CompiledRule.name := by
    rw [← rules_eq_of_ofRules hbuilt, RuleTable.rules, List.map_map]
    rfl
  rw [hnames] at hnodup
  exact List.inj_on_of_nodup_map hnodup hc hc' hname

/-- Looking up a name finds the one rule of that name, bound. -/
theorem get?_eq_some_iff
    (name : String)
    (c : CompiledRule) :
    p.table.get? name = some c ↔ c ∈ p.table.compiled ∧ c.name = name := by
  unfold RuleTable.get?
  constructor
  · intro h
    exact ⟨List.mem_of_find?_eq_some h, by simpa using List.find?_some h⟩
  · rintro ⟨hc, rfl⟩
    cases hfound : p.table.compiled.find? (fun c' => c'.name == c.name) with
    | none =>
        have hnone := List.find?_eq_none.mp hfound c hc
        simp at hnone
    | some c' =>
        have hname : c'.name = c.name := by
          simpa using List.find?_some hfound
        rw [eq_of_name_eq hbuilt (List.mem_of_find?_eq_some hfound) hc hname]

theorem exists_get?_of_mem
    {r : Rule}
    (hr : r ∈ rules) :
    ∃ c, p.table.get? r.name = some c ∧ c.IsBoundFor env config.checkModule config.name r := by
  rw [← rules_eq_of_ofRules hbuilt] at hr
  obtain ⟨c, hc, rfl⟩ := List.mem_map.mp hr
  exact ⟨c, (get?_eq_some_iff hbuilt _ c).mpr ⟨hc, rfl⟩, (isBoundFor_of_mem hbuilt hc).2⟩

/-- Nothing is found under a name iff no rule has it. -/
theorem get?_eq_none_iff
    (name : String) :
    p.table.get? name = none ↔ ∀ r ∈ rules, r.name ≠ name := by
  constructor
  · rintro hnone r hr rfl
    obtain ⟨c, hc, _⟩ := exists_get?_of_mem hbuilt hr
    rw [hnone] at hc
    cases hc
  · intro hall
    cases hfound : p.table.get? name with
    | none =>
        rfl
    | some c =>
        obtain ⟨hc, hname⟩ := (get?_eq_some_iff hbuilt name c).mp hfound
        exact absurd hname (hall c.rule (isBoundFor_of_mem hbuilt hc).1)

end Lookup

end Policy
end AccessPolicy
