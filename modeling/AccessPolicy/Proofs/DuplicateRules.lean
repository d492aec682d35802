import AccessPolicy.Proofs.TableBuild
import Mathlib.Data.List.Duplicate

/-!
# What is reported of rules that clash

Rules must not share an object and action, nor a name.  If some do, the failure tells the pairs at
fault, and this module says which these are and in which order they stand (`reports_pairs`).

**Places.**  Two rules of a list may be alike in everything, so that another rule is one at another
place (`StandApart`).  What is counted more than once is what two rules at different places have
(`one_lt_count_map_iff`), and what is counted more than once of a rule is what another one has, too
(`one_lt_count_iff_of_mem`).

**Order.**  A pair comes before those that occur later for the first time (`Earlier`).  The pairs
that several rules have come first and are in this order, as are all others, each of which only one
rule has (`pairwise_idxOf_of_sublist`).
-/

namespace AccessPolicy
namespace Duplicates

/-- Two rules stand at different places of a list, though they may be alike. -/
def StandApart (rules : List Rule) (r s : Rule) : Prop :=
  [r, s].Sublist rules ∨ [s, r].Sublist rules

/-- Two rules share their object and action, or their name. -/
def Clash (rules : List Rule) : Prop :=
  ∃ r s, StandApart rules r s ∧ (pair r = pair s ∨ r.name = s.name)

/-- A pair of object and action that at least two rules have. -/
def IsRepeated (rules : List Rule) (p : String × String) : Prop :=
  ∃ r s, StandApart rules r s ∧ pair r = p ∧ pair s = p

/-- A pair of object and action of a rule whose name is also the name of another one. -/
def IsClashing (rules : List Rule) (p : String × String) : Prop :=
  ∃ r s, StandApart rules r s ∧ pair r = p ∧ s.name = r.name

/-- A pair occurs for the first time before another one does. -/
def Earlier (rules : List Rule) (p q : String × String) : Prop :=
  (rules.map pair).idxOf p < (rules.map pair).idxOf q

/-- A list tells all pairs at fault, each once: first those that several rules have, then the
others, both in the order of first occurrence. -/
structure Reports (rules : List Rule) (ps : List (String × String)) : Prop where
  mem_iff : ∀ p, p ∈ ps ↔ IsRepeated rules p ∨ IsClashing rules p
  nodup : ps.Nodup
  inOrder :
    ∃ first rest, ps = first ++ rest ∧
      (∀ p ∈ first, IsRepeated rules p) ∧ first.Pairwise (Earlier rules) ∧
      (∀ p ∈ rest, ¬ IsRepeated rules p) ∧ rest.Pairwise (Earlier rules)

section Lists

variable {α : Type} [DecidableEq α] [BEq α] [LawfulBEq α]

omit [BEq α] [LawfulBEq α] in
theorem mem_distinct_iff
    {a : α}
    {xs : List α} :
    a ∈ distinct xs ↔ a ∈ xs := by
  refine ⟨?_, mem_distinct⟩
  induction xs with
  | nil =>
      exact id
  | cons x xs ih =>
      intro h
      rcases List.mem_cons.mp h with rfl | h
      · exact List.mem_cons_self
      · exact List.mem_cons_of_mem x (ih (List.mem_filter.mp h).1)

omit [DecidableEq α] in
/-- Items other than the first one of a list are in the order in which the rest has them. -/
theorem pairwise_idxOf_cons
    {x : α}
    {xs ys : List α}
    (hys : ys.Pairwise fun a b => xs.idxOf a < xs.idxOf b)
    (hx : x ∉ ys) :
    ys.Pairwise fun a b => (x :: xs).idxOf a < (x :: xs).idxOf b := by
  refine hys.imp_of_mem ?_
  intro a b ha hb hab
  have hne : ∀ c ∈ ys, x ≠ c := fun c hc heq => hx (heq ▸ hc)
  rw [List.idxOf_cons_ne xs (hne a ha), List.idxOf_cons_ne xs (hne b hb)]
  omega

omit [DecidableEq α] in
theorem idxOf_lt_idxOf_cons
    {x b : α}
    (h : x ≠ b)
    (xs : List α) :
    (x :: xs).idxOf x < (x :: xs).idxOf b := by
  rw [List.idxOf_cons_self, List.idxOf_cons_ne xs h]
  omega

/-- The items of a list without repetitions are in the order of first occurrence. -/
theorem pairwise_idxOf_distinct
    (xs : List α) :
    (distinct xs).Pairwise fun a b => xs.idxOf a < xs.idxOf b := by
  induction xs with
  | nil =>
      exact .nil
  | cons x xs ih =>
      have hx : x ∉ (distinct xs).filter (· ≠ x) := by
        simp
      refine .cons ?_ (pairwise_idxOf_cons (ih.sublist List.filter_sublist) hx)
      intro b hb
      refine idxOf_lt_idxOf_cons ?_ xs
      rintro rfl
      exact hx hb

omit [DecidableEq α] in
/-- Items that a list has only once are in the order of first occurrence in any part of it. -/
theorem pairwise_idxOf_of_sublist
    {xs ys : List α}
    (hsub : ys.Sublist xs)
    (honce : ∀ a ∈ ys, xs.count a ≤ 1) :
    ys.Pairwise fun a b => xs.idxOf a < xs.idxOf b := by
  have hfresh :
      ∀ {x : α} {xs : List α} {a : α}, a ∈ xs → (x :: xs).count a ≤ 1 → x ≠ a := by
    rintro x xs a ha hcount rfl
    have hpos := List.count_pos_iff.mpr ha
    rw [List.count_cons_self] at hcount
    omega
  have hrest : ∀ {x : α} {xs : List α} {a : α}, (x :: xs).count a ≤ 1 → xs.count a ≤ 1 :=
    fun h => Nat.le_trans List.count_le_count_cons h
  induction hsub with
  | slnil =>
      exact .nil
  | @cons ys xs x hsub ih =>
      refine pairwise_idxOf_cons (ih fun a ha => hrest (honce a ha)) ?_
      intro hx
      exact hfresh (hsub.subset hx) (honce x hx) rfl
  | @cons_cons ys xs x hsub ih =>
      obtain ⟨_, hys⟩ := List.forall_mem_cons.mp honce
      have hne : ∀ a ∈ ys, x ≠ a := fun a ha => hfresh (hsub.subset ha) (hys a ha)
      refine .cons (fun b hb => idxOf_lt_idxOf_cons (hne b hb) xs) ?_
      exact pairwise_idxOf_cons (ih fun a ha => hrest (hys a ha)) fun hx => hne x hx rfl

omit [DecidableEq α] [LawfulBEq α] in
theorem nodup_of_pairwise_idxOf
    {xs ys : List α}
    (h : ys.Pairwise fun a b => xs.idxOf a < xs.idxOf b) :
    ys.Nodup := by
  refine h.imp ?_
  rintro a _ hlt rfl
  exact Nat.lt_irrefl _ hlt

omit [BEq α] [LawfulBEq α] in
theorem distinct_sublist
    (xs : List α) :
    (distinct xs).Sublist xs := by
  induction xs with
  | nil =>
      exact .slnil
  | cons x xs ih =>
      exact (List.filter_sublist.trans ih).cons_cons x

end Lists

section Places

variable {β : Type} [BEq β] [LawfulBEq β] {rules : List Rule} {r s : Rule}

theorem StandApart.left_mem
    (h : StandApart rules r s) :
    r ∈ rules := by
  rcases h with h | h
  · exact h.subset List.mem_cons_self
  · exact h.subset (List.mem_cons_of_mem s List.mem_cons_self)

/-- What is counted more than once is what two rules have. -/
theorem one_lt_count_map_iff
    {f : Rule → β}
    {b : β} :
    1 < (rules.map f).count b ↔ ∃ r s, StandApart rules r s ∧ f r = b ∧ f s = b := by
  rw [← Nat.succ_le_iff, ← List.replicate_sublist_iff]
  constructor
  · intro h
    obtain ⟨both, hboth, heq⟩ := List.sublist_map_iff.mp h
    obtain ⟨r, s, rfl⟩ := List.length_eq_two.mp (by simpa using (congrArg List.length heq).symm)
    have heq' : b = f r ∧ b = f s := by
      simpa [List.replicate_succ] using heq
    exact ⟨r, s, Or.inl hboth, heq'.1.symm, heq'.2.symm⟩
  · rintro ⟨r, s, h | h, hr, hs⟩
    · simpa [List.replicate_succ, hr, hs] using h.map f
    · simpa [List.replicate_succ, hr, hs] using h.map f

/-- What is counted more than once of a rule is what another one has, too. -/
theorem one_lt_count_iff_of_mem
    {f : Rule → β}
    (hr : r ∈ rules) :
    1 < (rules.map f).count (f r) ↔ ∃ s, StandApart rules r s ∧ f s = f r := by
  constructor
  · intro h
    obtain ⟨before, after, rfl⟩ := List.append_of_mem hr
    have hpos : 0 < (before.map f).count (f r) ∨ 0 < (after.map f).count (f r) := by
      rw [List.map_append, List.map_cons, List.count_append, List.count_cons_self] at h
      omega
    rcases hpos with hpos | hpos
    · obtain ⟨s, hs, hname⟩ := List.mem_map.mp (List.count_pos_iff.mp hpos)
      refine ⟨s, Or.inr ?_, hname⟩
      exact (List.singleton_sublist.mpr hs).append (.cons_cons r (List.nil_sublist after))
    · obtain ⟨s, hs, hname⟩ := List.mem_map.mp (List.count_pos_iff.mp hpos)
      refine ⟨s, Or.inl ?_, hname⟩
      exact (List.nil_sublist before).append (.cons_cons r (List.singleton_sublist.mpr hs))
  · rintro ⟨s, happart, hs⟩
    exact one_lt_count_map_iff.mpr ⟨r, s, happart, rfl, hs⟩

end Places

section Reporting

variable {rules : List Rule} {p : String × String}

theorem mem_repeatedPairs_iff :
    p ∈ repeatedPairs rules ↔ IsRepeated rules p := by
  unfold repeatedPairs IsRepeated
  rw [List.mem_filter, mem_distinct_iff, decide_eq_true_iff, one_lt_count_map_iff,
    and_iff_right_iff_imp]
  rintro ⟨r, s, happart, rfl, _⟩
  exact List.mem_map_of_mem happart.left_mem

theorem mem_clashingPairs_iff :
    p ∈ clashingPairs rules ↔ IsClashing rules p := by
  unfold clashingPairs IsClashing
  rw [mem_distinct_iff, List.mem_map]
  constructor
  · rintro ⟨r, hr, rfl⟩
    obtain ⟨hr, hcount⟩ := List.mem_filter.mp hr
    obtain ⟨s, happart, hs⟩ := (one_lt_count_iff_of_mem hr).mp (of_decide_eq_true hcount)
    exact ⟨r, s, happart, rfl, hs⟩
  · rintro ⟨r, s, happart, rfl, hs⟩
    have hcount := (one_lt_count_iff_of_mem happart.left_mem).mpr ⟨s, happart, hs⟩
    exact ⟨r, List.mem_filter.mpr ⟨happart.left_mem, decide_eq_true hcount⟩, rfl⟩

/-- The pairs at fault are told as a report has to tell them. -/
theorem reports_pairs
    (rules : List Rule) :
    Reports rules (pairs rules) := by
  have hrest :
      ∀ q, q ∈ (clashingPairs rules).filter (fun p => !(repeatedPairs rules).contains p) ↔
        IsClashing rules q ∧ ¬ IsRepeated rules q := by
    intro q
    rw [List.mem_filter, mem_clashingPairs_iff, ← mem_repeatedPairs_iff]
    simp
  have hfirstOrder : (repeatedPairs rules).Pairwise (Earlier rules) :=
    (pairwise_idxOf_distinct (rules.map pair)).sublist List.filter_sublist
  -- A pair that is not repeated occurs once, so that any part of the list has it in its place.
  have hrestOrder :
      ((clashingPairs rules).filter fun p => !(repeatedPairs rules).contains p).Pairwise
        (Earlier rules) := by
    refine pairwise_idxOf_of_sublist ?_ ?_
    · exact (List.filter_sublist.trans (distinct_sublist _)).trans (List.filter_sublist.map pair)
    · intro q hq
      by_contra hcount
      exact ((hrest q).mp hq).2 (one_lt_count_map_iff.mp (Nat.not_le.mp hcount))
  refine ⟨?_, ?_, repeatedPairs rules, _, rfl, fun q hq => mem_repeatedPairs_iff.mp hq,
    hfirstOrder, fun q hq => ((hrest q).mp hq).2, hrestOrder⟩
  · intro q
    rw [pairs, List.mem_append, hrest, mem_repeatedPairs_iff]
    tauto
  · rw [pairs, List.nodup_append]
    refine ⟨nodup_of_pairwise_idxOf hfirstOrder, nodup_of_pairwise_idxOf hrestOrder, ?_⟩
    rintro q hq _ hq' rfl
    exact ((hrest q).mp hq').2 (mem_repeatedPairs_iff.mp hq)

/-- There are pairs at fault iff two rules clash. -/
theorem pairs_ne_nil_iff_clash :
    pairs rules ≠ [] ↔ Clash rules := by
  rw [ne_eq, List.eq_nil_iff_forall_not_mem, not_forall_not]
  simp only [(reports_pairs rules).mem_iff]
  constructor
  · rintro ⟨p, ⟨r, s, happart, hr, hs⟩ | ⟨r, s, happart, _, hs⟩⟩
    · exact ⟨r, s, happart, Or.inl (hr.trans hs.symm)⟩
    · exact ⟨r, s, happart, Or.inr hs.symm⟩
  · rintro ⟨r, s, happart, hpair | hname⟩
    · exact ⟨pair s, Or.inl ⟨r, s, happart, hpair, rfl⟩⟩
    · exact ⟨pair r, Or.inr ⟨r, s, happart, rfl, hname.symm⟩⟩

/-- **Rules that clash.**  The check for duplicate rules fails exactly if two rules share their
object and action or their name, and then tells the pairs at fault, each once: first those that
several rules have, then the others, both in the order of first occurrence. -/
theorem inRules_reports_clash
    (policy : String)
    (rules : List Rule) :
    ∃ ps, Reports rules ps ∧
      ((Clash rules ∧ inRules policy rules =
          .error (Failure.ofCause (.duplicateRule (.text policy)
            (.list (ps.map fun p => .tuple [.text p.1, .text p.2]))))) ∨
        (¬ Clash rules ∧ inRules policy rules = .ok ())) := by
  refine ⟨pairs rules, reports_pairs rules, ?_⟩
  rw [← pairs_ne_nil_iff_clash]
  unfold inRules
  cases pairs rules with
  | nil =>
      exact Or.inr ⟨fun h => h rfl, rfl⟩
  | cons p ps =>
      exact Or.inl ⟨List.cons_ne_nil p ps, rfl⟩

end Reporting

/-- A rule without conditions. -/
def bareRule (object action name : String) : Rule :=
  ⟨object, action, name, [], [], [], [], none⟩

-- The second and third rule have one pair, the first and fourth one name with the second.
example :
    pairs [bareRule "a" "x" "n", bareRule "b" "x" "n", bareRule "b" "x" "m", bareRule "c" "x" "n"] =
      [("b", "x"), ("a", "x"), ("c", "x")] := by
  decide

end Duplicates
end AccessPolicy
