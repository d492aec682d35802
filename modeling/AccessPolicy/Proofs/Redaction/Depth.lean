import AccessPolicy.Proofs.Redaction.Updates

/-!
# The depth limit does not matter

Redaction runs up to a depth limit.  A result that is reached within some limit is the same
within any other limit that is large enough (`apply_unique`), so two redactions can be compared
whose limits differ.

The proof goes along the parts of an application: each gives at least the results that it gives
with fewer results for nested specs.
-/

namespace AccessPolicy
namespace Redaction

/-- What one operation gives, another gives as well. -/
def Extends {α β : Type} (f g : α → Run β) : Prop :=
  ∀ a b, (f a).outcome = .ok b → (g a).outcome = .ok b

section Congruence

variable {w : Viewing} {again again' : Spec → Value → Run Value}

/-- An operation on each item gives what it gives with fewer results. -/
theorem extends_redactEach
    {f g : Value → Run Value}
    (hfg : Extends f g) :
    Extends (redactEach f) (redactEach g) := by
  have hitems :
      ∀ xs ys, (Run.forEach f xs).outcome = .ok ys → (Run.forEach g xs).outcome = .ok ys := by
    intro xs ys h
    exact Run.outcome_forEach_eq_ok_iff.mpr
      ((Run.outcome_forEach_eq_ok_iff.mp h).imp fun a b hab => hfg a b hab)
  intro x y h
  unfold redactEach at h ⊢
  split at h
  · obtain ⟨ys, hys, rfl⟩ := Run.outcome_map_eq_ok_iff.mp h
    exact Run.outcome_map_eq_ok_iff.mpr ⟨ys, hitems _ ys hys, rfl⟩
  · obtain ⟨ys, hys, rfl⟩ := Run.outcome_map_eq_ok_iff.mp h
    exact Run.outcome_map_eq_ok_iff.mpr ⟨ys, hitems _ ys hys, rfl⟩
  · exact hfg x y h

theorem extends_delegateItem
    (hagain : ∀ spec, Extends (again spec) (again' spec))
    (key : Value)
    (type : TypeRef) :
    Extends (delegateItem w again key type) (delegateItem w again' key type) := by
  intro x y h
  rcases delegateItem_eq_ok_iff.mp h with hskip | ⟨hskip, htype, spec, hspec, hy⟩
  · exact delegateItem_eq_ok_iff.mpr (Or.inl hskip)
  · exact delegateItem_eq_ok_iff.mpr
      (Or.inr ⟨hskip, htype, spec, hspec, hagain spec x y hy⟩)

theorem extends_redactField
    {f g : Value → Run Value}
    (hfg : Extends f g)
    (object : Value)
    (updates : Entries)
    (key : Value) :
    ∀ result, (redactField w object updates key f).outcome = .ok result →
      (redactField w object updates key g).outcome = .ok result := by
  intro result h
  obtain ⟨hkey, found, hfound, hstep⟩ := redactField_eq_ok_iff.mp h
  refine redactField_eq_ok_iff.mpr ⟨hkey, found, hfound, ?_⟩
  cases hstep with
  | absent =>
      exact .absent
  | skipped hskip =>
      exact .skipped hskip
  | replaced hskip hy =>
      exact .replaced hskip (extends_redactEach hfg _ _ hy)

theorem extends_collect
    (hagain : ∀ spec, Extends (again spec) (again' spec))
    (object : Value)
    (spec : Spec) :
    Extends (fun updates => collect w again object updates spec)
      (fun updates => collect w again' object updates spec) := by
  induction spec with
  | nil =>
      intro updates result h
      exact h
  | cons e spec ih =>
      intro updates result h
      simp only [collect] at h ⊢
      obtain ⟨between, hentry, hrest⟩ := Run.outcome_bind_eq_ok_iff.mp h
      refine Run.outcome_bind_eq_ok_iff.mpr ⟨between, ?_, ih between result hrest⟩
      cases e with
      | hide field =>
          exact hentry
      | nested key inner =>
          exact extends_redactField (hagain inner) object updates key between hentry
      | delegate key type =>
          exact extends_redactField (extends_delegateItem hagain key type) object updates key
            between hentry
      | malformed failure =>
          exact hentry

end Congruence

section Limits

variable {w : Viewing}

/-- A greater limit gives the same results. -/
theorem extends_apply
    {depth depth' : Nat}
    (hle : depth ≤ depth')
    (spec : Spec) :
    Extends (apply w depth spec) (apply w depth' spec) := by
  induction depth generalizing depth' spec with
  | zero =>
      intro v r h
      cases h
  | succ d ih =>
      obtain ⟨d', rfl⟩ : ∃ d', depth' = d' + 1 := ⟨depth' - 1, by omega⟩
      intro v r h
      rw [apply] at h ⊢
      obtain ⟨updates, hcollect, hresult⟩ := Run.outcome_bind_eq_ok_iff.mp h
      have hagain : ∀ inner, Extends (apply w d inner) (apply w d' inner) :=
        fun inner => ih (by omega) inner
      exact Run.outcome_bind_eq_ok_iff.mpr
        ⟨updates, extends_collect hagain v spec [] updates hcollect, hresult⟩

/-- Applying a spec has one result, whatever the limits. -/
theorem apply_unique
    {depth depth' : Nat}
    {spec : Spec}
    {v r r' : Value}
    (h : (apply w depth spec v).outcome = .ok r)
    (h' : (apply w depth' spec v).outcome = .ok r') :
    r = r' := by
  have hmax := extends_apply (Nat.le_max_left depth depth') spec v r h
  have hmax' := extends_apply (Nat.le_max_right depth depth') spec v r' h'
  rw [hmax] at hmax'
  exact Except.ok.inj hmax'

end Limits

end Redaction
end AccessPolicy
