import AccessPolicy.Proofs.TableBuild

/-!
# What is reported of checks that are repeated

No group of a rule may hold two equal checks.  If one does, the failure tells the first group at
fault, allow before deny, and this module says which of its checks are told and in which order
(`inRule_describes_repeats`).

**Places.**  A check at a place of a group is a repeat if an equal one stands at an earlier place
(`IsRepeat`), and the second of its kind if just one does (`IsSecond`).

**Steps.**  A group is gone through once, with the checks seen so far and the places told so far.
A place is told if its check equals one that was seen and none that was told; `describes_append`
is what this keeps, and `exists_describes_repeatedAfter` what comes out in the end.

**Transitivity.**  The places told are those of second checks wherever equality is transitive
(`mem_places_iff_isSecond`).  It need not be: an ordered map equals any other map with the same
entries, but an ordered one only in the same order.
-/

namespace AccessPolicy

namespace Check

/-- Two checks are equal: they are of one kind and name, and their arguments agree as data. -/
def Equals : Check → Check → Prop
  | .literal a, .literal b => a = b
  | .named m, .named n => m = n
  | .withArg m v, .withArg n w => m = n ∧ v.agrees w = true
  | _, _ => False

/-- The argument of a check is not the result of an undefined operation on numbers. -/
def AvoidsNaN : Check → Prop
  | .withArg _ (.float (.nan _)) => False
  | _ => True

instance : DecidableRel Equals := fun c d => by
  cases c <;> cases d <;> unfold Equals <;> infer_instance

/-- Only what is not a number is the same as something without agreeing with it. -/
theorem agrees_iff_equals
    {c : Check}
    (hc : c.AvoidsNaN)
    (d : Check) :
    c.agrees d = true ↔ c.Equals d := by
  cases c with
  | literal a =>
      cases d <;> simp [agrees, Equals]
  | named m =>
      cases d <;> simp [agrees, Equals]
  | withArg m v =>
      cases d with
      | withArg n w =>
          have hnan : Value.isSameNaN v w = false := by
            unfold Value.isSameNaN
            split
            · exact hc.elim
            · rfl
          simp [agrees, Equals, Value.isSame, hnan]
      | _ =>
          simp [agrees, Equals]

end Check

namespace Duplicates

section Places

/-- The checks at two places of a group are equal. -/
def EqualAt (g : Group) (i j : Nat) : Prop :=
  ∃ c d, g[i]? = some c ∧ g[j]? = some d ∧ c.Equals d

/-- An equal check stands at an earlier place. -/
def IsRepeat (g : Group) (j : Nat) : Prop :=
  ∃ i, i < j ∧ EqualAt g i j

/-- An equal check stands at one earlier place, and at no other one. -/
def IsSecond (g : Group) (j : Nat) : Prop :=
  ∃ i, (i < j ∧ EqualAt g i j) ∧ ∀ i', i' < j → EqualAt g i' j → i' = i

/-- A group is at fault: two of its places hold equal checks. -/
def HasRepeat (g : Group) : Prop :=
  ∃ i j, i < j ∧ EqualAt g i j

/-- Of three checks of a group, if two pairs are equal, then the third pair is, too. -/
def IsTransitive (g : Group) : Prop :=
  ∀ i j k, i < j → j < k →
    (EqualAt g i j → EqualAt g j k → EqualAt g i k) ∧
    (EqualAt g i j → EqualAt g i k → EqualAt g j k) ∧
    (EqualAt g i k → EqualAt g j k → EqualAt g i j)

/-- The checks of a group at some places. -/
def checksAt (g : Group) (places : List Nat) : Group :=
  places.filterMap fun i => g[i]?

/-- Places describe the repeats of a group: in order, all of them repeats, no two of them with
equal checks, and every other repeat equal to one of them that stands before it. -/
structure Describes (g : Group) (places : List Nat) : Prop where
  inOrder : places.Pairwise (· < ·)
  isRepeat : ∀ j ∈ places, IsRepeat g j
  once : ∀ i ∈ places, ∀ j ∈ places, i < j → ¬ EqualAt g i j
  complete : ∀ j, IsRepeat g j → j ∉ places → ∃ i ∈ places, i < j ∧ EqualAt g i j

theorem equalAt_iff
    {g : Group}
    {i j : Nat} :
    EqualAt g i j ↔ ∃ c ∈ g[i]?, ∃ d ∈ g[j]?, c.Equals d := by
  simp [EqualAt, Option.mem_def]

instance (g : Group) (i j : Nat) : Decidable (EqualAt g i j) :=
  decidable_of_iff' _ equalAt_iff

variable {g : Group} {places : List Nat}

theorem EqualAt.lt_length
    {i j : Nat}
    (h : EqualAt g i j) :
    j < g.length := by
  obtain ⟨_, d, _, hd, _⟩ := h
  exact (List.getElem?_eq_some_iff.mp hd).1

theorem equalAt_append_iff
    {c : Check}
    {i j : Nat}
    (hij : i < j)
    (hj : j < g.length) :
    EqualAt (g ++ [c]) i j ↔ EqualAt g i j := by
  unfold EqualAt
  rw [List.getElem?_append_left (by omega), List.getElem?_append_left hj]

theorem equalAt_length_iff
    {c : Check}
    {i : Nat}
    (hi : i < g.length) :
    EqualAt (g ++ [c]) i g.length ↔ ∃ d, g[i]? = some d ∧ d.Equals c := by
  unfold EqualAt
  rw [List.getElem?_append_left hi]
  simp

theorem isRepeat_append_iff
    {c : Check}
    {j : Nat}
    (hj : j < g.length) :
    IsRepeat (g ++ [c]) j ↔ IsRepeat g j :=
  exists_congr fun _ => and_congr_right fun hij => equalAt_append_iff hij hj

theorem IsRepeat.lt_length
    {j : Nat}
    (h : IsRepeat g j) :
    j < g.length := by
  obtain ⟨_, _, hequal⟩ := h
  exact hequal.lt_length

theorem Describes.lt_length
    (h : Describes g places)
    {j : Nat}
    (hj : j ∈ places) :
    j < g.length :=
  (h.isRepeat j hj).lt_length

theorem describes_nil :
    Describes [] [] where
  inOrder := .nil
  isRepeat := by simp
  once := by simp
  complete := fun _ hj => absurd hj.lt_length (Nat.not_lt_zero _)

/-- Where equality is transitive, the places that describe a group are those of second checks. -/
theorem mem_places_iff_isSecond
    (h : Describes g places)
    (htrans : IsTransitive g)
    (j : Nat) :
    j ∈ places ↔ IsSecond g j := by
  constructor
  · intro hj
    -- Of two equal checks before `j`, the later one would be told, or equal to one that is.
    have hnot : ∀ i i', i < i' → i' < j → EqualAt g i j → EqualAt g i' j → False := by
      intro i i' hlt hlt' hi hi'
      have hrepeat : IsRepeat g i' := ⟨i, hlt, (htrans i i' j hlt hlt').2.2 hi hi'⟩
      by_cases htold : i' ∈ places
      · exact h.once i' htold j hj hlt' hi'
      · obtain ⟨k, hk, hlt'', hequal⟩ := h.complete i' hrepeat htold
        exact h.once k hk j hj (by omega) ((htrans k i' j hlt'' hlt').1 hequal hi')
    obtain ⟨i, hlt, hi⟩ := h.isRepeat j hj
    refine ⟨i, ⟨hlt, hi⟩, fun i' hlt' hi' => ?_⟩
    rcases Nat.lt_trichotomy i' i with hless | heq | hmore
    · exact (hnot i' i hless hlt hi' hi).elim
    · exact heq
    · exact (hnot i i' hmore hlt' hi hi').elim
  · rintro ⟨i, ⟨hlt, hi⟩, honly⟩
    by_contra hj
    obtain ⟨k, hk, hlt', hequal⟩ := h.complete j ⟨i, hlt, hi⟩ hj
    obtain ⟨l, hlt'', hl⟩ := h.isRepeat k hk
    have hfirst := honly l (by omega) ((htrans l k j hlt'' hlt').1 hl hequal)
    have hsecond := honly k hlt' hequal
    omega

end Places

section Steps

variable {g : Group} {places : List Nat} {c : Check}

theorem holds_iff
    (hg : ∀ d ∈ g, d.AvoidsNaN) :
    holds g c = true ↔ ∃ d ∈ g, d.Equals c := by
  rw [holds, List.any_eq_true]
  exact exists_congr fun d => and_congr_right fun hd => Check.agrees_iff_equals (hg d hd) c

/-- A check equals one of a group iff it is a repeat at the end of the group. -/
theorem holds_iff_isRepeat
    (hg : ∀ d ∈ g, d.AvoidsNaN) :
    holds g c = true ↔ IsRepeat (g ++ [c]) g.length := by
  rw [holds_iff hg]
  constructor
  · rintro ⟨d, hd, hequal⟩
    obtain ⟨i, hi⟩ := List.mem_iff_getElem?.mp hd
    have hlt := (List.getElem?_eq_some_iff.mp hi).1
    exact ⟨i, hlt, (equalAt_length_iff hlt).mpr ⟨d, hi, hequal⟩⟩
  · rintro ⟨i, hlt, hequal⟩
    obtain ⟨d, hi, hequal⟩ := (equalAt_length_iff hlt).mp hequal
    exact ⟨d, List.mem_of_getElem? hi, hequal⟩

theorem mem_checksAt_iff
    {d : Check} :
    d ∈ checksAt g places ↔ ∃ i ∈ places, g[i]? = some d :=
  List.mem_filterMap

theorem holds_checksAt_iff
    (hg : ∀ d ∈ g, d.AvoidsNaN)
    (hplaces : ∀ i ∈ places, i < g.length) :
    holds (checksAt g places) c = true
      ↔
    ∃ i ∈ places, EqualAt (g ++ [c]) i g.length := by
  rw [holds_iff]
  · constructor
    · rintro ⟨d, hd, hequal⟩
      obtain ⟨i, hi, hget⟩ := mem_checksAt_iff.mp hd
      exact ⟨i, hi, (equalAt_length_iff (hplaces i hi)).mpr ⟨d, hget, hequal⟩⟩
    · rintro ⟨i, hi, hequal⟩
      obtain ⟨d, hget, hequal⟩ := (equalAt_length_iff (hplaces i hi)).mp hequal
      exact ⟨d, mem_checksAt_iff.mpr ⟨i, hi, hget⟩, hequal⟩
  · intro d hd
    obtain ⟨i, _, hget⟩ := mem_checksAt_iff.mp hd
    exact hg d (List.mem_of_getElem? hget)

theorem checksAt_append
    (hplaces : ∀ i ∈ places, i < g.length) :
    checksAt (g ++ [c]) places = checksAt g places := by
  refine List.filterMap_congr fun i hi => ?_
  exact List.getElem?_append_left (hplaces i hi)

theorem checksAt_append_length
    (hplaces : ∀ i ∈ places, i < g.length) :
    checksAt (g ++ [c]) (places ++ [g.length]) = checksAt g places ++ [c] := by
  calc
    checksAt (g ++ [c]) (places ++ [g.length]) =
        checksAt (g ++ [c]) places ++ checksAt (g ++ [c]) [g.length] :=
      List.filterMap_append
    _ = checksAt g places ++ [c] := by
      rw [checksAt_append hplaces]
      simp [checksAt]

/-- What describes a group describes it with one more check, told if it is a new repeat. -/
theorem describes_append
    (hg : ∀ d ∈ g, d.AvoidsNaN)
    (h : Describes g places) :
    Describes (g ++ [c])
      (if holds g c && !holds (checksAt g places) c then places ++ [g.length] else places) := by
  have hlt : ∀ i ∈ places, i < g.length := fun i hi => h.lt_length hi
  have hrepeat : ∀ j ∈ places, IsRepeat (g ++ [c]) j :=
    fun j hj => (isRepeat_append_iff (hlt j hj)).mpr (h.isRepeat j hj)
  have honce : ∀ i ∈ places, ∀ j ∈ places, i < j → ¬ EqualAt (g ++ [c]) i j :=
    fun i hi j hj hij hequal =>
      h.once i hi j hj hij ((equalAt_append_iff hij (hlt j hj)).mp hequal)
  have hcomplete :
      ∀ j, j < g.length → IsRepeat (g ++ [c]) j → j ∉ places →
        ∃ i ∈ places, i < j ∧ EqualAt (g ++ [c]) i j := by
    intro j hj hrep hnot
    obtain ⟨i, hi, hij, hequal⟩ := h.complete j ((isRepeat_append_iff hj).mp hrep) hnot
    exact ⟨i, hi, hij, (equalAt_append_iff hij hj).mpr hequal⟩
  have hplace : ∀ j, IsRepeat (g ++ [c]) j → j < g.length ∨ j = g.length := by
    intro j hj
    have hlength := hj.lt_length
    rw [List.length_append, List.length_singleton] at hlength
    omega
  split
  · rename_i hnew
    rw [Bool.and_eq_true, Bool.not_eq_true', ← Bool.not_eq_true, holds_iff_isRepeat hg,
      holds_checksAt_iff hg hlt] at hnew
    obtain ⟨hlast, hfresh⟩ := hnew
    refine ⟨?_, ?_, ?_, ?_⟩
    · exact List.pairwise_append.mpr ⟨h.inOrder, List.pairwise_singleton .., by simpa using hlt⟩
    · intro j hj
      rcases List.mem_append.mp hj with hj | hj
      · exact hrepeat j hj
      · rwa [List.mem_singleton.mp hj]
    · intro i hi j hj hij hequal
      rcases List.mem_append.mp hi with hi | hi <;> rcases List.mem_append.mp hj with hj | hj
      · exact honce i hi j hj hij hequal
      · rw [List.mem_singleton.mp hj] at hequal
        exact hfresh ⟨i, hi, hequal⟩
      · have hj := hlt j hj
        rw [List.mem_singleton.mp hi] at hij
        omega
      · rw [List.mem_singleton.mp hi, List.mem_singleton.mp hj] at hij
        omega
    · intro j hrep hnot
      rw [List.mem_append, not_or, List.mem_singleton] at hnot
      rcases hplace j hrep with hj | hj
      · obtain ⟨i, hi, hij, hequal⟩ := hcomplete j hj hrep hnot.1
        exact ⟨i, List.mem_append_left _ hi, hij, hequal⟩
      · exact absurd hj hnot.2
  · rename_i hold
    rw [Bool.and_eq_true, Bool.not_eq_true', ← Bool.not_eq_true, holds_iff_isRepeat hg,
      holds_checksAt_iff hg hlt, not_and, not_not] at hold
    refine ⟨h.inOrder, hrepeat, honce, fun j hrep hnot => ?_⟩
    rcases hplace j hrep with hj | rfl
    · exact hcomplete j hj hrep hnot
    · obtain ⟨i, hi, hequal⟩ := hold hrep
      exact ⟨i, hi, hlt i hi, hequal⟩

/-- Going through the rest of a group keeps what describes it. -/
theorem exists_describes_repeatedAfter
    {rest : Group}
    (hg : ∀ d ∈ g ++ rest, d.AvoidsNaN)
    (h : Describes g places) :
    ∃ told, Describes (g ++ rest) told ∧
      repeatedAfter g (checksAt g places) rest = checksAt (g ++ rest) told := by
  induction rest generalizing g places with
  | nil =>
      exact ⟨places, by simpa using h, by simp [repeatedAfter]⟩
  | cons c rest ih =>
      have hseen : ∀ d ∈ g, d.AvoidsNaN := fun d hd => hg d (List.mem_append_left _ hd)
      have hlt : ∀ i ∈ places, i < g.length := fun i hi => h.lt_length hi
      rw [List.append_cons] at hg ⊢
      obtain ⟨told, htold, hchecks⟩ := ih hg (describes_append hseen h)
      refine ⟨told, htold, ?_⟩
      rw [← hchecks, repeatedAfter]
      congr 1
      split
      · exact (checksAt_append_length hlt).symm
      · exact (checksAt_append hlt).symm

theorem exists_describes_repeatedChecks
    (hg : ∀ d ∈ g, d.AvoidsNaN) :
    ∃ places, Describes g places ∧ repeatedChecks g = checksAt g places :=
  @exists_describes_repeatedAfter [] [] g hg describes_nil

theorem repeatedChecks_ne_nil_iff
    (hg : ∀ d ∈ g, d.AvoidsNaN) :
    repeatedChecks g ≠ [] ↔ HasRepeat g := by
  obtain ⟨places, hdescribes, hchecks⟩ := exists_describes_repeatedChecks hg
  have hplace : ∀ j ∈ places, ∃ c, g[j]? = some c ∧ c ∈ checksAt g places := by
    intro j hj
    have hget := List.getElem?_eq_getElem (hdescribes.lt_length hj)
    exact ⟨_, hget, mem_checksAt_iff.mpr ⟨j, hj, hget⟩⟩
  rw [hchecks]
  constructor
  · intro hne
    obtain ⟨c, hc⟩ := List.exists_mem_of_ne_nil _ hne
    obtain ⟨j, hj, _⟩ := mem_checksAt_iff.mp hc
    obtain ⟨i, hij, hequal⟩ := hdescribes.isRepeat j hj
    exact ⟨i, j, hij, hequal⟩
  · rintro ⟨i, j, hij, hequal⟩
    have hsome : ∃ k, k ∈ places := by
      by_cases hj : j ∈ places
      · exact ⟨j, hj⟩
      · obtain ⟨k, hk, _⟩ := hdescribes.complete j ⟨i, hij, hequal⟩ hj
        exact ⟨k, hk⟩
    obtain ⟨k, hk⟩ := hsome
    obtain ⟨c, _, hc⟩ := hplace k hk
    exact List.ne_nil_of_mem hc

end Steps

section Fields

/-- The field and the group that are at fault first, the groups of allow going before those of
deny. -/
inductive FirstOffence (r : Rule) : String → Group → Prop
  | allow
      {before after : List Group}
      {g : Group}
      (split : r.allow = before ++ g :: after)
      (earlier : ∀ g' ∈ before, ¬ HasRepeat g')
      (fault : HasRepeat g) :
      FirstOffence r "allow" g
  | deny
      {before after : List Group}
      {g : Group}
      (allowed : ∀ g' ∈ r.allow, ¬ HasRepeat g')
      (split : r.deny = before ++ g :: after)
      (earlier : ∀ g' ∈ before, ¬ HasRepeat g')
      (fault : HasRepeat g) :
      FirstOffence r "deny" g

variable {groups : List Group}

theorem firstRepeated_eq_none_iff_hasRepeat
    (hgroups : ∀ g ∈ groups, ∀ c ∈ g, c.AvoidsNaN) :
    firstRepeated groups = none ↔ ∀ g ∈ groups, ¬ HasRepeat g := by
  rw [firstRepeated_eq_none_iff]
  refine forall₂_congr fun g hg => ?_
  rw [← repeatedChecks_eq_nil_iff, ← repeatedChecks_ne_nil_iff (hgroups g hg), not_not]

theorem of_firstRepeated_eq_some
    (hgroups : ∀ g ∈ groups, ∀ c ∈ g, c.AvoidsNaN)
    {cs : Group}
    (h : firstRepeated groups = some cs) :
    ∃ before g after, groups = before ++ g :: after ∧ (∀ g' ∈ before, ¬ HasRepeat g') ∧
      HasRepeat g ∧ cs = repeatedChecks g := by
  obtain ⟨before, g, after, hsplit, hfound, hbefore⟩ := List.findSome?_eq_some_iff.mp h
  have hgroup : ∀ g' ∈ before ++ g :: after, ∀ c ∈ g', c.AvoidsNaN := hsplit ▸ hgroups
  have hg := hgroup g (by simp)
  refine ⟨before, g, after, hsplit, fun g' hg' => ?_, ?_⟩
  · have hnone := hbefore g' hg'
    rw [← repeatedChecks_ne_nil_iff (hgroup g' (List.mem_append_left _ hg')), not_not]
    split at hnone
    · assumption
    · cases hnone
  · rw [← repeatedChecks_ne_nil_iff hg]
    split at hfound
    · cases hfound
    · rename_i hne
      exact ⟨hne, (Option.some.inj hfound).symm⟩

/-- An offence that is found is the first one of the rule, with the checks that repeat. -/
theorem of_offence?_eq_some
    {r : Rule}
    (hr : ∀ g ∈ r.allow ++ r.deny, ∀ c ∈ g, c.AvoidsNaN)
    {field : String}
    {cs : Group}
    (h : offence? r = some (field, cs)) :
    ∃ g, FirstOffence r field g ∧ g ∈ r.allow ++ r.deny ∧ cs = repeatedChecks g := by
  obtain ⟨hallow, hdeny⟩ := List.forall_mem_append.mp hr
  unfold offence? at h
  split at h
  · rename_i cs' hfirst
    obtain ⟨rfl, rfl⟩ := Prod.mk.inj (Option.some.inj h)
    obtain ⟨before, g, after, hsplit, hbefore, hfault, hcs⟩ :=
      of_firstRepeated_eq_some hallow hfirst
    exact ⟨g, .allow hsplit hbefore hfault, by simp [hsplit], hcs⟩
  · rename_i hnone
    obtain ⟨cs', hfirst, heq⟩ := Option.map_eq_some_iff.mp h
    obtain ⟨rfl, rfl⟩ := Prod.mk.inj heq
    obtain ⟨before, g, after, hsplit, hbefore, hfault, hcs⟩ :=
      of_firstRepeated_eq_some hdeny hfirst
    have hpassed := (firstRepeated_eq_none_iff_hasRepeat hallow).mp hnone
    exact ⟨g, .deny hpassed hsplit hbefore hfault, by simp [hsplit], hcs⟩

/-- **Checks that are repeated.**  The check for duplicates fails exactly if some group of the rule
holds two equal checks.  It then tells the field of the first group at fault, and of this group
the repeats, each kind once and in order; where equality is transitive, these are the checks that
are the second of their kind.  What has no text cannot be told. -/
theorem inRule_describes_repeats
    (policy : String)
    {r : Rule}
    (hr : ∀ g ∈ r.allow ++ r.deny, ∀ c ∈ g, c.AvoidsNaN) :
    ((∃ e, inRule policy r = .error e) ↔ ∃ g ∈ r.allow ++ r.deny, HasRepeat g) ∧
    ∀ e, inRule policy r = .error e →
      ∃ field g places, FirstOffence r field g ∧ Describes g places ∧
        (IsTransitive g → ∀ j, j ∈ places ↔ IsSecond g j) ∧
        ((∀ c ∈ checksAt g places, c.toValue.isWritable = true) →
          e = Failure.ofCause
            (.duplicateCheck (.text policy) (.text r.object) (.text r.action) (.text field)
              (.list ((checksAt g places).map fun c => .text c.display)))) := by
  obtain ⟨hallow, hdeny⟩ := List.forall_mem_append.mp hr
  have hfails :
      (∃ e, inRule policy r = .error e) ↔ ∃ o, offence? r = some o := by
    simp only [← errorOf?_eq_some_iff, errorOf?_inRule, Option.map_eq_some_iff]
    exact ⟨fun ⟨_, o, ho, _⟩ => ⟨o, ho⟩, fun ⟨o, ho⟩ => ⟨_, o, ho, rfl⟩⟩
  refine ⟨?_, fun e he => ?_⟩
  · rw [hfails]
    constructor
    · rintro ⟨⟨field, cs⟩, ho⟩
      obtain ⟨g, hfirst, hg, _⟩ := of_offence?_eq_some hr ho
      refine ⟨g, hg, ?_⟩
      cases hfirst with
      | allow _ _ fault =>
          exact fault
      | deny _ _ _ fault =>
          exact fault
    · rintro ⟨g, hg, hfault⟩
      by_contra hnone
      have hdistinct := (offence?_eq_none_iff r).mp
        (Option.eq_none_iff_forall_ne_some.mpr fun o ho => hnone ⟨o, ho⟩)
      have hnil := (repeatedChecks_eq_nil_iff g).mpr (hdistinct g hg)
      exact (repeatedChecks_ne_nil_iff (hr g hg)).mpr hfault hnil
  · have hsome := errorOf?_eq_some_iff.mpr he
    rw [errorOf?_inRule, Option.map_eq_some_iff] at hsome
    obtain ⟨⟨field, cs⟩, ho, rfl⟩ := hsome
    obtain ⟨g, hfirst, hg, rfl⟩ := of_offence?_eq_some hr ho
    obtain ⟨places, hdescribes, hchecks⟩ := exists_describes_repeatedChecks (hr g hg)
    refine ⟨field, g, places, hfirst, hdescribes, mem_places_iff_isSecond hdescribes, ?_⟩
    intro hwritable
    rw [checkFailure, hchecks, if_pos (List.all_eq_true.mpr hwritable)]

/-- A rule with the given conditions. -/
def ruleOf (allow deny : List Group) : Rule :=
  ⟨"a", "v", "a_v", allow, deny, [], [], none⟩

/-- Checks of one number, as an integer, a truth value and a binary fraction, among others. -/
def levelChecks : Group :=
  [.withArg "level" (.int 1), .withArg "level" (.bool true), .named "own",
    .withArg "level" (.float (.finite false 4503599627370496 (-52))), .named "own"]

/-- Numbers of one amount are equal, whatever their types, so that a group with three of them is at
fault, and the places that are told of it are those of second checks. -/
theorem levelChecks_repeat :
    ∃ places, Describes levelChecks places ∧
      (∀ j, j ∈ places ↔ IsSecond levelChecks j) ∧
      inRule "press" (ruleOf [[.named "own"]] [levelChecks]) =
        .error (Failure.ofCause
          (.duplicateCheck (.text "press") (.text "a") (.text "v") (.text "deny")
            (.list ((checksAt levelChecks places).map fun c => .text c.display)))) := by
  have hfault : HasRepeat levelChecks := ⟨0, 1, by decide, by decide +kernel⟩
  have hpairs :
      ∀ j < 5, ∀ i < j,
        (EqualAt levelChecks i j ↔ (i = 2 ∧ j = 4) ∨ (i ≠ 2 ∧ i ≠ 4 ∧ j ≠ 2 ∧ j ≠ 4)) := by
    decide +kernel
  have htrans : IsTransitive levelChecks := by
    intro i j k hij hjk
    by_cases hk : k < 5
    · rw [hpairs j (by omega) i hij, hpairs k hk j hjk, hpairs k hk i (by omega)]
      omega
    · have hbeyond : ∀ l, ¬ EqualAt levelChecks l k := fun l hl => hk hl.lt_length
      exact ⟨fun _ h => (hbeyond j h).elim, fun _ h => (hbeyond i h).elim,
        fun h => (hbeyond i h).elim⟩
  obtain ⟨hfails, htells⟩ :=
    @inRule_describes_repeats "press" (ruleOf [[.named "own"]] [levelChecks])
      (by simp [ruleOf, levelChecks, Check.AvoidsNaN])
  obtain ⟨e, he⟩ := hfails.mpr ⟨levelChecks, by simp [ruleOf], hfault⟩
  obtain ⟨field, g, places, hfirst, hdescribes, hseconds, hfailure⟩ := htells e he
  cases hfirst with
  | @allow before after _ split _ fault =>
      have hg : g ∈ [[Check.named "own"]] := by
        rw [show [[Check.named "own"]] = before ++ g :: after from split]
        simp
      obtain rfl := List.mem_singleton.mp hg
      obtain ⟨i, j, hij, hequal⟩ := fault
      have hj : j < 1 := hequal.lt_length
      omega
  | @deny before after _ _ split _ _ =>
      have hg : g ∈ [levelChecks] := by
        rw [show [levelChecks] = before ++ g :: after from split]
        simp
      obtain rfl := List.mem_singleton.mp hg
      have hwritable : ∀ c ∈ levelChecks, c.toValue.isWritable = true := by
        decide +kernel
      refine ⟨places, hdescribes, hseconds htrans, he.trans ?_⟩
      rw [hfailure]
      · rfl
      · intro c hc
        obtain ⟨i, _, hget⟩ := mem_checksAt_iff.mp hc
        exact hwritable c (List.mem_of_getElem? hget)

/-- An ordered map of two entries, the other ordered map of these entries, and a map of another
type, which equals both. -/
def mapChecks : Group :=
  [.withArg "h" (.map (.builtin .orderedMap) [(.text "a", .int 1), (.text "b", .int 2)]),
    .withArg "h" (.map (.builtin .orderedMap) [(.text "b", .int 2), (.text "a", .int 1)]),
    .withArg "h" (.map (.builtin .map) [(.text "a", .int 1), (.text "b", .int 2)])]

/-- Equality is not transitive among maps, and then what is told need not be second of its kind:
here it is a check that equals two others before it. -/
theorem tells_third_of_its_kind :
    (∀ g ∈ (ruleOf [mapChecks] []).allow ++ (ruleOf [mapChecks] []).deny, ∀ c ∈ g, c.AvoidsNaN) ∧
      FirstOffence (ruleOf [mapChecks] []) "allow" mapChecks ∧
      inRule "" (ruleOf [mapChecks] []) =
        .error (Failure.ofCause (.duplicateCheck (.text "") (.text "a") (.text "v")
          (.text "allow") (.list ((checksAt mapChecks [2]).map fun c => .text c.display)))) ∧
      EqualAt mapChecks 0 2 ∧ EqualAt mapChecks 1 2 ∧
      ¬ ∃ places, (∀ j, j ∈ places ↔ IsSecond mapChecks j) ∧
        checksAt mapChecks places = checksAt mapChecks [2] := by
  have hzero : EqualAt mapChecks 0 2 := by decide +kernel
  have hone : EqualAt mapChecks 1 2 := by decide +kernel
  have hapart : ¬ EqualAt mapChecks 0 1 := by decide +kernel
  have hnone : ∀ j, ¬ IsSecond mapChecks j := by
    rintro j ⟨i, ⟨hij, hi⟩, honly⟩
    have hj : j < 3 := hi.lt_length
    obtain rfl | rfl | rfl : j = 0 ∨ j = 1 ∨ j = 2 := by omega
    · omega
    · obtain rfl : i = 0 := by omega
      exact hapart hi
    · have hfirst := honly 0 (by decide) hzero
      have hsecond := honly 1 (by decide) hone
      omega
  refine ⟨by simp [mapChecks, ruleOf, Check.AvoidsNaN], ?_, ?_, hzero, hone, ?_⟩
  · exact @FirstOffence.allow _ [] [] mapChecks rfl (by simp) ⟨0, 2, by decide, hzero⟩
  · have hoffence : offence? (ruleOf [mapChecks] []) = some ("allow", checksAt mapChecks [2]) := by
      have hthird :
          ∀ a b c : Check, a.agrees b = false → a.agrees c = true →
            repeatedChecks [a, b, c] = [c] := by
        intro a b c hsecond hlast
        simp [repeatedChecks, repeatedAfter, holds, hsecond, hlast]
      have hrepeated : repeatedChecks mapChecks = checksAt mapChecks [2] :=
        hthird _ _ _ (by decide +kernel) (by decide +kernel)
      simp only [offence?, firstRepeated, ruleOf, List.findSome?_cons, hrepeated]
      rfl
    have hwritable : ((checksAt mapChecks [2]).all fun c => c.toValue.isWritable) = true := by
      decide +kernel
    rw [inRule, hoffence]
    exact if_pos hwritable
  · rintro ⟨places, hplaces, hchecks⟩
    have hnil : places = [] :=
      List.eq_nil_iff_forall_not_mem.mpr fun j hj => hnone j ((hplaces j).mp hj)
    rw [hnil] at hchecks
    cases hchecks

end Fields

end Duplicates
end AccessPolicy
