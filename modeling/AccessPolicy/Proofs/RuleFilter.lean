import AccessPolicy.Proofs.Outcome
import AccessPolicy.RuleFilter

/-!
# Combined filters

A rule is kept if it passes each filter.  Filters are tried in order, and what a filter stands for
is read late: only for a rule that has passed those before it.

**Faults.**  Whether a filter that is reached fails, and with what, does not depend on the rule
(`fault?`).  So a rule that has passed some filters has shown that none of them fails for any other
rule (`fault?_of_matchesAll`).

**Laws.**  Filters may be applied in two goes, failures included, and filters that do not fail may
be reordered (`filterRules_conjoins`).
-/

namespace AccessPolicy
namespace RuleFilter

/-- What a filter fails with for every rule that reaches it, if it fails. -/
def fault? (f : String × Value) : Option Failure :=
  if f.1 = "allow" ∨ f.1 = "deny" then errorOf? (Shorthand.check f.2) else none

/-- Whether a rule matches a filter, if the filter does not fail. -/
def isMatch (f : String × Value) (r : Rule) : Bool :=
  (matchesOne r f.1 f.2).toOption.getD false

/-- Whether a rule passes a filter.  Every rule passes one that is not set. -/
def passes (f : String × Value) (r : Rule) : Bool :=
  (active [f]).all fun f => isMatch f r

section Faults

variable {f : String × Value} {r : Rule}

theorem matchesCheck_eq_error
    {groups : List Group}
    {v : Value}
    {e : Failure}
    (h : Shorthand.check v = .error e) :
    matchesCheck groups v = .error e := by
  rw [matchesCheck, h]
  rfl

theorem matchesOne_of_fault?_eq_some
    {e : Failure}
    (h : fault? f = some e)
    (r : Rule) :
    matchesOne r f.1 f.2 = .error e := by
  obtain ⟨option, v⟩ := f
  unfold fault? at h
  split at h
  · rename_i hoption
    rw [errorOf?_eq_some_iff] at h
    rcases hoption with hallow | hdeny
    · obtain rfl : option = "allow" := hallow
      exact matchesCheck_eq_error h
    · obtain rfl : option = "deny" := hdeny
      exact matchesCheck_eq_error h
  · cases h

theorem exists_matchesOne_of_fault?_eq_none
    (h : fault? f = none)
    (r : Rule) :
    ∃ b, matchesOne r f.1 f.2 = .ok b := by
  obtain ⟨option, v⟩ := f
  have hcheck :
      ∀ groups, option = "allow" ∨ option = "deny" → ∃ b, matchesCheck groups v = .ok b := by
    intro groups hoption
    rw [fault?, if_pos hoption, errorOf?_eq_none_iff] at h
    obtain ⟨c, hc⟩ := h
    rw [matchesCheck, hc]
    exact ⟨_, rfl⟩
  show ∃ b, matchesOne r option v = .ok b
  unfold matchesOne
  split
  · exact ⟨_, rfl⟩
  · exact ⟨_, rfl⟩
  · exact hcheck r.allow (.inl rfl)
  · exact hcheck r.deny (.inr rfl)
  · exact ⟨_, rfl⟩
  · exact ⟨_, rfl⟩

/-- A rule that passes some filters shows that none of them fails. -/
theorem fault?_of_matchesAll
    {filters : Fields}
    (h : matchesAll r filters = .ok true) :
    ∀ f ∈ filters, fault? f = none := by
  induction filters with
  | nil =>
      simp
  | cons f rest ih =>
      obtain ⟨option, v⟩ := f
      rw [matchesAll, except_bind_eq_ok_iff] at h
      obtain ⟨b, hb, hrest⟩ := h
      cases b with
      | false =>
          cases hrest
      | true =>
          refine List.forall_mem_cons.mpr ⟨?_, ih hrest⟩
          cases hfault : fault? (option, v) with
          | none =>
              rfl
          | some e =>
              rw [matchesOne_of_fault?_eq_some hfault r] at hb
              cases hb

end Faults

section Selection

theorem matchesAll_append
    (r : Rule)
    (first second : Fields) :
    matchesAll r (first ++ second) =
      matchesAll r first >>= fun b => if b then matchesAll r second else .ok false := by
  induction first with
  | nil =>
      rfl
  | cons f rest ih =>
      obtain ⟨option, v⟩ := f
      rw [List.cons_append, matchesAll, matchesAll, ih]
      cases matchesOne r option v with
      | error e =>
          rfl
      | ok b =>
          cases b with
          | true =>
              rfl
          | false =>
              rfl

/-- Filters that do not fail keep the rules that match each of them. -/
theorem select_of_faultless
    {filters : Fields}
    (h : ∀ f ∈ filters, fault? f = none)
    (rules : List Rule) :
    select filters rules =
      .ok (rules.filter fun r => filters.all fun f => isMatch f r) := by
  have hall : ∀ r, matchesAll r filters = .ok (filters.all fun f => isMatch f r) := by
    intro r
    induction filters with
    | nil =>
        rfl
    | cons f rest ih =>
        obtain ⟨hf, hrest⟩ := List.forall_mem_cons.mp h
        obtain ⟨b, hb⟩ := exists_matchesOne_of_fault?_eq_none hf r
        obtain ⟨option, v⟩ := f
        rw [matchesAll, List.all_cons, isMatch, hb]
        cases b with
        | true =>
            exact ih hrest
        | false =>
            rfl
  induction rules with
  | nil =>
      rfl
  | cons r rest ih =>
      rw [select, hall r, ih, List.filter_cons]
      rfl

theorem select_one
    {option : String}
    {v : Value}
    {matching : Rule → Bool}
    (h : ∀ r, matchesOne r option v = .ok (matching r))
    (rules : List Rule) :
    select [(option, v)] rules = .ok (rules.filter matching) := by
  induction rules with
  | nil =>
      rfl
  | cons r rest ih =>
      have hall : matchesAll r [(option, v)] = .ok (matching r) := by
        rw [matchesAll, h]
        cases matching r <;> rfl
      rw [select, hall, ih, List.filter_cons]
      rfl

/-- Selecting twice is selecting with the filters of both goes. -/
theorem select_append
    (first second : Fields)
    (rules : List Rule) :
    select (first ++ second) rules = select first rules >>= select second := by
  induction rules with
  | nil =>
      rfl
  | cons r rest ih =>
      rw [select, select, matchesAll_append, ih]
      cases hr : matchesAll r first with
      | error e =>
          rfl
      | ok b =>
          cases b with
          | false =>
              cases select first rest with
              | error e =>
                  rfl
              | ok kept =>
                  show (select second kept >>= fun more => pure more) = select second kept
                  exact bind_pure _
          | true =>
              -- The rule has passed the first filters, which therefore fail for no later one.
              obtain ⟨kept, hkept⟩ : ∃ kept, select first rest = .ok kept :=
                ⟨_, select_of_faultless (fault?_of_matchesAll hr) rest⟩
              rw [hkept]
              rfl

/-- The rules that are kept are those that match all filters, each as often as it occurs. -/
theorem eq_filter_of_select
    {filters : Fields}
    {rules kept : List Rule}
    (h : select filters rules = .ok kept) :
    kept = rules.filter fun r => (matchesAll r filters).toOption.getD false := by
  induction rules generalizing kept with
  | nil =>
      exact (Except.ok.inj h).symm
  | cons r rest ih =>
      rw [select, except_bind_eq_ok_iff] at h
      obtain ⟨b, hb, h⟩ := h
      obtain ⟨more, hmore, h⟩ := except_bind_eq_ok_iff.mp h
      rw [List.filter_cons, hb, ← ih hmore]
      exact (Except.ok.inj h).symm

end Selection

section Laws

theorem active_append
    (first second : Fields) :
    active (first ++ second) = active first ++ active second :=
  List.filter_append ..

theorem all_active
    (filters : Fields)
    (r : Rule) :
    ((active filters).all fun f => isMatch f r) = filters.all fun f => passes f r := by
  induction filters with
  | nil =>
      rfl
  | cons f rest ih =>
      rw [← List.singleton_append, active_append, List.all_append, List.all_append, ih,
        List.all_cons, List.all_nil, Bool.and_true, passes]

/-- Filters with known names select by those that are set. -/
theorem filterRules_of_known
    {filters : Fields}
    (hknown : ∀ f ∈ filters, f.1 ∈ options)
    (rules : List Rule) :
    filterRules rules filters = select (active filters) rules := by
  have hfind : filters.find? (fun f => !options.contains f.1) = none := by
    rw [List.find?_eq_none]
    intro f hf
    simpa using hknown f hf
  unfold filterRules
  rw [hfind]

/-- A filter that is set to something and does not fail keeps the rules that match it. -/
theorem filterRules_one
    {option : String}
    {v : Value}
    {matching : Rule → Bool}
    (hknown : option ∈ options)
    (hset : v ≠ .null)
    (h : ∀ r, matchesOne r option v = .ok (matching r))
    (rules : List Rule) :
    filterRules rules [(option, v)] = .ok (rules.filter matching) := by
  have hactive : active [(option, v)] = [(option, v)] := by
    cases v with
    | null =>
        exact absurd rfl hset
    | _ =>
        rfl
  rw [filterRules_of_known (by simpa using hknown), hactive, select_one h]

/-- Every filter for checks that is set to something stands for a check. -/
def AreReadable (filters : Fields) : Prop :=
  ∀ f ∈ filters, f.1 = "allow" ∨ f.1 = "deny" → f.2 ≠ .null →
    ∃ c, Shorthand.check f.2 = .ok c

theorem fault?_of_areReadable
    {filters : Fields}
    (h : AreReadable filters) :
    ∀ f ∈ active filters, fault? f = none := by
  intro f hf
  obtain ⟨hmem, hset⟩ := List.mem_filter.mp hf
  unfold fault?
  split
  · rename_i hoption
    refine errorOf?_eq_none_iff.mpr (h f hmem hoption ?_)
    intro hnull
    rw [hnull] at hset
    cases hset
  · rfl

theorem filterRules_of_areReadable
    {filters : Fields}
    (hknown : ∀ f ∈ filters, f.1 ∈ options)
    (h : AreReadable filters)
    (rules : List Rule) :
    filterRules rules filters = .ok (rules.filter fun r => filters.all fun f => passes f r) := by
  rw [filterRules_of_known hknown, select_of_faultless (fault?_of_areReadable h)]
  simp only [all_active]

/-- **Filters are combined by and.**  They keep some rules, in order and each as often as it occurs.
Filters that are not set play no part, and the others may be applied in two goes, failures included.
If all filters for checks stand for checks, then each filter keeps the rules that pass it, and all
of them in any order keep the rules that pass each one. -/
theorem filterRules_conjoins
    {filters : Fields}
    (hknown : ∀ f ∈ filters, f.1 ∈ options) :
    (∃ matching : Rule → Bool, ∀ rules kept,
      filterRules rules filters = .ok kept → kept = rules.filter matching) ∧
    (∀ before option after, filters = before ++ (option, .null) :: after →
      ∀ rules, filterRules rules filters = filterRules rules (before ++ after)) ∧
    (∀ first second, filters = first ++ second →
      ∀ rules, filterRules rules filters =
        filterRules rules first >>= fun kept => filterRules kept second) ∧
    (AreReadable filters →
      (∀ f ∈ filters, ∀ rules, filterRules rules [f] = .ok (rules.filter (passes f))) ∧
      ∀ reordered, filters.Perm reordered →
        ∀ rules, filterRules rules reordered =
          .ok (rules.filter fun r => filters.all fun f => passes f r)) := by
  refine ⟨?_, ?_, ?_, ?_⟩
  · refine ⟨fun r => (matchesAll r (active filters)).toOption.getD false, fun rules kept h => ?_⟩
    rw [filterRules_of_known hknown] at h
    exact eq_filter_of_select h
  · rintro before option after rfl rules
    have hrest : ∀ f ∈ before ++ after, f.1 ∈ options := by
      intro f hf
      apply hknown
      rcases List.mem_append.mp hf with hf | hf
      · exact List.mem_append_left _ hf
      · exact List.mem_append_right _ (List.mem_cons_of_mem _ hf)
    have hactive : active ((option, .null) :: after) = active after := rfl
    rw [filterRules_of_known hknown, filterRules_of_known hrest, active_append, active_append,
      hactive]
  · rintro first second rfl rules
    have hfirst : ∀ f ∈ first, f.1 ∈ options := fun f hf => hknown f (List.mem_append_left _ hf)
    have hsecond : ∀ f ∈ second, f.1 ∈ options :=
      fun f hf => hknown f (List.mem_append_right _ hf)
    rw [filterRules_of_known hknown, filterRules_of_known hfirst, active_append, select_append]
    exact congrArg (select (active first) rules >>= ·)
      (funext fun kept => (filterRules_of_known hsecond kept).symm)
  · intro hreadable
    constructor
    · intro f hf rules
      have hone : ∀ g ∈ [f], g ∈ filters := by
        simpa using hf
      rw [filterRules_of_areReadable (fun g hg => hknown g (hone g hg))
        (fun g hg => hreadable g (hone g hg))]
      simp
    · intro reordered hperm rules
      rw [filterRules_of_areReadable (fun f hf => hknown f (hperm.mem_iff.mpr hf))
        (fun f hf => hreadable f (hperm.mem_iff.mpr hf))]
      simp only [hperm.all_eq]

end Laws

section Library

/-- Everyone may look at a user. -/
def viewUser : Rule where
  object := "user"
  action := "view"
  name := "user_view"
  allow := [[.literal true]]
  deny := []
  preHooks := []
  metadata := []
  description := none

/-- Librarians may lend a book that is not lent. -/
def lendBook : Rule where
  object := "book"
  action := "lend"
  name := "book_lend"
  allow := [[.withArg "role" (.text "librarian")]]
  deny := [[.named "lent"]]
  preHooks := []
  metadata := [("audit", .bool true)]
  description := none

/-- Filters the last of which stands for no check, and which only rules on books reach. -/
def lateFault : Fields :=
  [("object", .text "book"), ("allow", .null), ("deny", .int 3)]

/-- The filters fail iff there is a rule on books, whether they are applied at once or not. -/
theorem lateFault_conjoins :
    (∀ f ∈ lateFault, f.1 ∈ options) ∧
    filterRules [viewUser, viewUser] lateFault = .ok [] ∧
    filterRules [viewUser, lendBook] lateFault = .error (.invalidCheck (.int 3)) := by
  have hknown : ∀ f ∈ lateFault, f.1 ∈ options := by
    decide
  obtain ⟨_, hdrop, hsplit, _⟩ := filterRules_conjoins hknown
  refine ⟨hknown, ?_, ?_⟩
  · rw [hdrop [("object", .text "book")] "allow" [("deny", .int 3)] rfl]
    with_unfolding_all rfl
  · rw [hsplit [("object", .text "book"), ("allow", .null)] [("deny", .int 3)] rfl]
    with_unfolding_all rfl

end Library

end RuleFilter
end AccessPolicy
