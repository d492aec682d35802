import AccessPolicy.Run
import Mathlib.Data.List.Forall2

/-!
# Outcomes and events of composed operations

An operation that is made of others succeeds exactly if each of its parts does.
This module has the rules by which such a success is taken apart: for a sequence
of two operations, for an operation done for each item of a list, and for the
events that are left behind.

**Outcomes.**  The outcome of a run is computed as if there were no events, so
that a statement about results only need not mention them.

**Failures.**  `errorOf?` is what an operation fails with.  A sequence fails with the first
failure of its parts, so that the order of the parts is the order of precedence.

**Events.**  What follows a failure leaves no events.
-/

namespace AccessPolicy

section Outcomes

variable {ε α β : Type}

theorem except_bind_eq_ok_iff
    {x : Except ε α}
    {f : α → Except ε β}
    {b : β} :
    x >>= f = .ok b
      ↔
    ∃ a, x = .ok a ∧ f a = .ok b := by
  cases x with
  | error e =>
      simp [bind, Except.bind]
  | ok a =>
      simp [bind, Except.bind]

theorem except_map_eq_ok_iff
    {x : Except ε α}
    {f : α → β}
    {b : β} :
    x.map f = .ok b ↔ ∃ a, x = .ok a ∧ f a = b := by
  cases x with
  | error e =>
      simp [Except.map]
  | ok a =>
      simp [Except.map]

theorem stateT_bind_eq_ok_iff
    {σ : Type}
    {x : StateT σ (Except ε) α}
    {f : α → StateT σ (Except ε) β}
    {s s'' : σ}
    {b : β} :
    (x >>= f).run s = .ok (b, s'')
      ↔
    ∃ a s', x.run s = .ok (a, s') ∧ (f a).run s' = .ok (b, s'') := by
  rw [StateT.run_bind, except_bind_eq_ok_iff]
  constructor
  · rintro ⟨⟨a, s'⟩, hx, hf⟩
    exact ⟨a, s', hx, hf⟩
  · rintro ⟨a, s', hx, hf⟩
    exact ⟨(a, s'), hx, hf⟩

theorem stateT_bind_pure_eq_ok_iff
    {σ : Type}
    {x : StateT σ (Except ε) α}
    {f : α → β}
    {s s' : σ}
    {b : β} :
    (x >>= fun a => pure (f a)).run s = .ok (b, s')
      ↔
    ∃ a, x.run s = .ok (a, s') ∧ f a = b := by
  rw [stateT_bind_eq_ok_iff]
  constructor
  · rintro ⟨a, s₁, hx, hb⟩
    obtain ⟨rfl, rfl⟩ := Prod.mk.inj (Except.ok.inj hb)
    exact ⟨a, hx, rfl⟩
  · rintro ⟨a, hx, rfl⟩
    exact ⟨a, s', hx, rfl⟩

theorem stateT_run'_eq_ok_iff
    {σ : Type}
    {x : StateT σ (Except ε) α}
    {s : σ}
    {a : α} :
    x.run' s = .ok a ↔ ∃ s', x.run s = .ok (a, s') := by
  unfold StateT.run' StateT.run
  cases x s with
  | error e =>
      simp
  | ok r =>
      obtain ⟨b, s'⟩ := r
      simp [eq_comm]

theorem toOption_eq_some_iff
    {x : Except ε α}
    {a : α} :
    x.toOption = some a ↔ x = .ok a := by
  cases x with
  | error e =>
      simp [Except.toOption]
  | ok a =>
      simp [Except.toOption]

theorem exists_of_any_toOption
    {x : Except ε α}
    {p : α → Bool}
    (h : x.toOption.any p = true) :
    ∃ a, x = .ok a ∧ p a = true := by
  obtain ⟨a, ha, hp⟩ := (Option.any_eq_true _ _).mp h
  exact ⟨a, toOption_eq_some_iff.mp ha, hp⟩

section Related

variable {R : α → β → Prop} {xs : List α} {ys : List β}

theorem exists_of_mem_left
    (hall : List.Forall₂ R xs ys)
    {x : α}
    (hx : x ∈ xs) :
    ∃ y ∈ ys, R x y := by
  induction hall with
  | nil =>
      cases hx
  | @cons a b as bs hab _ ih =>
      rcases List.mem_cons.mp hx with rfl | hx
      · exact ⟨b, List.mem_cons_self, hab⟩
      · obtain ⟨y, hy, hxy⟩ := ih hx
        exact ⟨y, List.mem_cons_of_mem _ hy, hxy⟩

theorem exists_of_mem_right
    (hall : List.Forall₂ R xs ys)
    {y : β}
    (hy : y ∈ ys) :
    ∃ x ∈ xs, R x y :=
  exists_of_mem_left hall.flip hy

theorem exists_getLast?
    (hall : List.Forall₂ R xs ys)
    {y : β}
    (hy : ys.getLast? = some y) :
    ∃ x, xs.getLast? = some x ∧ R x y := by
  obtain ⟨before, rfl⟩ := List.getLast?_eq_some_iff.mp hy
  have hreverse := List.rel_reverse hall
  rw [List.reverse_concat] at hreverse
  obtain ⟨x, rest, hxy, _, hxs⟩ := List.forall₂_cons_right_iff.mp hreverse
  exact ⟨x, by rw [List.getLast?_eq_head?_reverse, hxs, List.head?_cons], hxy⟩

theorem forall₂_comp
    {γ : Type}
    {S : β → γ → Prop}
    {zs : List γ}
    (hall : List.Forall₂ R xs ys)
    (hnext : List.Forall₂ S ys zs) :
    List.Forall₂ (fun x z => ∃ y, R x y ∧ S y z) xs zs := by
  induction hall generalizing zs with
  | nil =>
      rw [List.forall₂_nil_left_iff.mp hnext]
      exact .nil
  | @cons x y xs ys hxy _ ih =>
      obtain ⟨z, rest, hyz, hrest, rfl⟩ := List.forall₂_cons_left_iff.mp hnext
      exact .cons ⟨y, hxy, hyz⟩ (ih hrest)

end Related

/-- An operation gives results for all items of a list iff it does for each one. -/
theorem mapM_eq_ok_iff_forall₂
    {f : α → Except ε β}
    {xs : List α}
    {ys : List β} :
    xs.mapM f = .ok ys
      ↔
    List.Forall₂ (fun x y => f x = .ok y) xs ys := by
  induction xs generalizing ys with
  | nil =>
      simp only [List.mapM_nil, List.forall₂_nil_left_iff]
      constructor
      · intro h
        exact (Except.ok.inj h).symm
      · rintro rfl
        rfl
  | cons x xs ih =>
      rw [List.mapM_cons, except_bind_eq_ok_iff, List.forall₂_cons_left_iff]
      constructor
      · rintro ⟨y, hy, hrest⟩
        obtain ⟨rest, htail, heq⟩ := except_bind_eq_ok_iff.mp hrest
        exact ⟨y, rest, hy, ih.mp htail, (Except.ok.inj heq).symm⟩
      · rintro ⟨y, rest, hy, htail, rfl⟩
        exact ⟨y, hy, except_bind_eq_ok_iff.mpr ⟨rest, ih.mpr htail, rfl⟩⟩

theorem exists_of_mapM_eq_ok
    {f : α → Except ε β}
    {xs : List α}
    {ys : List β}
    (h : xs.mapM f = .ok ys)
    {x : α}
    (hx : x ∈ xs) :
    ∃ y ∈ ys, f x = .ok y :=
  exists_of_mem_left (mapM_eq_ok_iff_forall₂.mp h) hx

/-- Two operations that agree wherever both give a result agree on lists as well. -/
theorem mapM_eq_ok_unique
    {f g : α → Except ε β}
    (hfg : ∀ x y z, f x = .ok y → g x = .ok z → y = z)
    {xs : List α}
    {ys zs : List β}
    (hf : xs.mapM f = .ok ys)
    (hg : xs.mapM g = .ok zs) :
    ys = zs := by
  rw [mapM_eq_ok_iff_forall₂] at hf hg
  induction hf generalizing zs with
  | nil =>
      exact (List.forall₂_nil_left_iff.mp hg).symm
  | cons hy _ ih =>
      obtain ⟨z, rest, hz, hrest, rfl⟩ := List.forall₂_cons_left_iff.mp hg
      rw [hfg _ _ _ hy hz, ih hrest]

end Outcomes

/-- What an operation fails with. -/
def errorOf?
    {ε α : Type} :
    Except ε α → Option ε
  | .ok _ => none
  | .error e => some e

section Failures

variable {ε α β : Type}

@[simp] theorem errorOf?_ok (a : α) :
    errorOf? (.ok a : Except ε α) = none := by
  rfl

@[simp] theorem errorOf?_error (e : ε) :
    errorOf? (.error e : Except ε α) = some e := by
  rfl

theorem errorOf?_eq_some_iff
    {x : Except ε α}
    {e : ε} :
    errorOf? x = some e ↔ x = .error e := by
  cases x with
  | ok a =>
      simp
  | error e' =>
      simp

theorem errorOf?_eq_none_iff
    {x : Except ε α} :
    errorOf? x = none ↔ ∃ a, x = .ok a := by
  cases x with
  | ok a =>
      simp
  | error e =>
      simp

/-- A sequence fails with its first operation, or else with the second, provided that the
failure of the second does not depend on the result of the first. -/
theorem errorOf?_bind
    {x : Except ε α}
    {f : α → Except ε β}
    {found : Option ε}
    (hf : ∀ a, errorOf? (f a) = found) :
    errorOf? (x >>= f) = (errorOf? x).or found := by
  cases x with
  | ok a =>
      exact hf a
  | error e =>
      rfl

@[simp] theorem errorOf?_map
    (f : α → β)
    (x : Except ε α) :
    errorOf? (x.map f) = errorOf? x := by
  cases x <;> rfl

theorem errorOf?_bind_pure
    (f : α → β)
    (x : Except ε α) :
    errorOf? (x >>= fun a => pure (f a)) = errorOf? x := by
  cases x <;> rfl

/-- An operation done for each item of a list fails with the first item that it fails for. -/
theorem errorOf?_mapM
    (f : α → Except ε β)
    (xs : List α) :
    errorOf? (xs.mapM f) = xs.findSome? fun x => errorOf? (f x) := by
  induction xs with
  | nil =>
      rfl
  | cons x xs ih =>
      have hrest :
          ∀ y, errorOf? (xs.mapM f >>= fun ys => pure (y :: ys)) =
            xs.findSome? fun x => errorOf? (f x) := by
        intro y
        rw [errorOf?_bind_pure, ih]
      rw [List.mapM_cons, errorOf?_bind hrest, List.findSome?_cons]
      cases errorOf? (f x) with
      | none =>
          rfl
      | some e =>
          rfl

theorem errorOf?_forM
    (f : α → Except ε PUnit)
    (xs : List α) :
    errorOf? (xs.forM f) = xs.findSome? fun x => errorOf? (f x) := by
  induction xs with
  | nil =>
      rfl
  | cons x xs ih =>
      have hcons : (x :: xs).forM f = f x >>= fun _ => xs.forM f := rfl
      rw [hcons, errorOf?_bind fun _ => ih, List.findSome?_cons]
      cases errorOf? (f x) with
      | none =>
          rfl
      | some e =>
          rfl

end Failures

/-- The first find in a list of lists is the first in what they hold together. -/
theorem findSome?_flatten
    {α β : Type}
    (f : α → Option β)
    (xss : List (List α)) :
    xss.flatten.findSome? f = xss.findSome? fun xs => xs.findSome? f := by
  induction xss with
  | nil =>
      rfl
  | cons xs xss ih =>
      rw [List.flatten_cons, List.findSome?_append, List.findSome?_cons, ih]
      cases xs.findSome? f with
      | none =>
          rfl
      | some b =>
          rfl

namespace Run

variable {α β : Type}

@[simp] theorem outcome_pure (a : α) :
    (pure a : Run α).outcome = .ok a := by
  rfl

@[simp] theorem outcome_result (a : α) :
    (result a).outcome = .ok a := by
  rfl

@[simp] theorem outcome_fail (f : Failure) :
    (fail f : Run α).outcome = .error f := by
  rfl

@[simp] theorem outcome_ofExcept (x : Except Failure α) :
    (ofExcept x).outcome = x := by
  rfl

@[simp] theorem events_pure (a : α) :
    (pure a : Run α).events = [] := by
  rfl

@[simp] theorem events_result (a : α) :
    (result a).events = [] := by
  rfl

@[simp] theorem events_fail (f : Failure) :
    (fail f : Run α).events = [] := by
  rfl

@[simp] theorem events_ofExcept (x : Except Failure α) :
    (ofExcept x).events = [] := by
  rfl

theorem outcome_bind
    (x : Run α)
    (f : α → Run β) :
    (x >>= f).outcome = x.outcome >>= fun a => (f a).outcome := by
  show (andThen x f).outcome = _
  unfold andThen
  cases h : x.outcome <;> rfl

theorem events_bind_of_ok
    {x : Run α}
    {a : α}
    (h : x.outcome = .ok a)
    (f : α → Run β) :
    (x >>= f).events = x.events ++ (f a).events := by
  show (andThen x f).events = _
  simp [andThen, h]

theorem events_bind_of_error
    {x : Run α}
    {e : Failure}
    (h : x.outcome = .error e)
    (f : α → Run β) :
    (x >>= f).events = x.events := by
  show (andThen x f).events = _
  simp [andThen, h]

/-- What leaves no events adds none to those before it. -/
theorem events_bind_of_silent
    (x : Run α)
    {f : α → Run β}
    (h : ∀ a, (f a).events = []) :
    (x >>= f).events = x.events := by
  cases hx : x.outcome with
  | error e =>
      rw [events_bind_of_error hx]
  | ok a =>
      rw [events_bind_of_ok hx, h, List.append_nil]

theorem outcome_bind_of_ok
    {x : Run α}
    {a : α}
    (h : x.outcome = .ok a)
    (f : α → Run β) :
    (x >>= f).outcome = (f a).outcome := by
  rw [outcome_bind, h]
  rfl

theorem outcome_bind_of_error
    {x : Run α}
    {e : Failure}
    (h : x.outcome = .error e)
    (f : α → Run β) :
    (x >>= f).outcome = .error e := by
  rw [outcome_bind, h]
  rfl

theorem bind_assoc
    {γ : Type}
    (x : Run α)
    (f : α → Run β)
    (g : β → Run γ) :
    x >>= f >>= g = x >>= fun a => f a >>= g := by
  show andThen (andThen x f) g = andThen x fun a => andThen (f a) g
  unfold andThen
  cases hx : x.outcome with
  | error e =>
      rfl
  | ok a =>
      cases hf : (f a).outcome with
      | error e =>
          simp [hf]
      | ok b =>
          simp [hf, List.append_assoc]

/-- What follows an operation matters only for what that gives. -/
theorem bind_congr
    {x : Run α}
    {f g : α → Run β}
    (h : ∀ a, x.outcome = .ok a → f a = g a) :
    x >>= f = x >>= g := by
  show andThen x f = andThen x g
  unfold andThen
  cases hx : x.outcome with
  | error e =>
      rfl
  | ok a =>
      simp only [h a hx]

/-- A sequence of two runs gives a result iff both do. -/
theorem outcome_bind_eq_ok_iff
    {x : Run α}
    {f : α → Run β}
    {b : β} :
    (x >>= f).outcome = .ok b
      ↔
    ∃ a, x.outcome = .ok a ∧ (f a).outcome = .ok b := by
  rw [outcome_bind, except_bind_eq_ok_iff]

/-- One run after another fails if the first does, or if the second does after the first. -/
theorem outcome_bind_eq_error_iff
    {x : Run α}
    {f : α → Run β}
    {e : Failure} :
    (x >>= f).outcome = .error e
      ↔
    x.outcome = .error e ∨ ∃ a, x.outcome = .ok a ∧ (f a).outcome = .error e := by
  rw [outcome_bind]
  cases hx : x.outcome with
  | ok a =>
      simp [bind, Except.bind]
  | error e' =>
      simp [bind, Except.bind]

theorem outcome_map_eq_ok_iff
    {x : Run α}
    {f : α → β}
    {b : β} :
    (f <$> x).outcome = .ok b
      ↔
    ∃ a, x.outcome = .ok a ∧ f a = b := by
  have h : f <$> x = x >>= fun a => pure (f a) := rfl
  rw [h, outcome_bind_eq_ok_iff]
  simp

theorem forEach_congr
    {f g : α → Run β}
    {xs : List α}
    (h : ∀ a ∈ xs, f a = g a) :
    forEach f xs = forEach g xs := by
  induction xs with
  | nil =>
      rfl
  | cons a xs ih =>
      obtain ⟨ha, hxs⟩ := List.forall_mem_cons.mp h
      rw [forEach, forEach, ha, ih hxs]

/-- A run for each item of a list gives results iff each one does. -/
theorem outcome_forEach_eq_ok_iff
    {f : α → Run β}
    {xs : List α}
    {ys : List β} :
    (forEach f xs).outcome = .ok ys
      ↔
    List.Forall₂ (fun x y => (f x).outcome = .ok y) xs ys := by
  induction xs generalizing ys with
  | nil =>
      simp [forEach, eq_comm]
  | cons x xs ih =>
      simp only [forEach, outcome_bind_eq_ok_iff, List.forall₂_cons_left_iff, ih]
      constructor
      · rintro ⟨y, hy, rest, htail, heq⟩
        exact ⟨y, rest, hy, htail, (Except.ok.inj heq).symm⟩
      · rintro ⟨y, rest, hy, htail, rfl⟩
        exact ⟨y, hy, rest, htail, rfl⟩

theorem outcome_forEach
    (f : α → Run β)
    (xs : List α) :
    (forEach f xs).outcome = xs.mapM fun x => (f x).outcome := by
  induction xs with
  | nil =>
      rfl
  | cons x xs ih =>
      simp only [forEach, outcome_bind, List.mapM_cons, ih]
      rfl

/-- A run for each item of a list fails with the first item that it fails for. -/
theorem errorOf?_forEach
    (f : α → Run β)
    (xs : List α) :
    errorOf? (forEach f xs).outcome = xs.findSome? fun x => errorOf? (f x).outcome := by
  rw [outcome_forEach, errorOf?_mapM]

/-- What describes the results of a run describes none if the run fails. -/
theorem eq_none_of_outcome_eq_error
    {x : Run α}
    {found : Option α}
    {e : Failure}
    (h : ∀ a, x.outcome = .ok a ↔ found = some a)
    (he : x.outcome = .error e) :
    found = none := by
  cases found with
  | none =>
      rfl
  | some a =>
      have hok := (h a).mpr rfl
      rw [he] at hok
      cases hok

end Run
end AccessPolicy
