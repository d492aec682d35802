import AccessPolicy.Proofs.Outcome
import AccessPolicy.Redaction.Basic

/-!
# Copies in the usual case

Objects of different kinds are copied in different ways, in which their types may have a say.
This module says what all of them come to if the types have none: a copy is the object with
other values merged into its entries, fields or members (`replaceFields_eq_mergeFields`).

**Usual handling.**  A program handles instances as usual if no type of it has a handling of its
own.  This is so if its types bring no handling and no class-wide member that decides about it
(`handlesUsually_of_classMembers`).
-/

namespace AccessPolicy

/-- Whether all types leave it open how their instances are read, copied and changed. -/
class Environment.HandlesUsually (env : Environment) : Prop where
  handlingOf_eq : ∀ t, env.handlingOf t = {}

namespace Environment

theorem handlingOf_eq
    (env : Environment)
    [h : env.HandlesUsually]
    (t : TypeRef) :
    env.handlingOf t = {} :=
  h.handlingOf_eq t

theorem memberHandling_eq_default
    {env : Environment}
    {t : TypeRef}
    (hcopy : env.classMember? t "__copy__" = none)
    (hupdate : env.classMember? t "update" = none) :
    env.memberHandling t = {} := by
  unfold memberHandling
  simp only [hcopy, hupdate]

theorem handlesUsually_of_classMembers
    {env : Environment}
    (hhandling : ∀ t, env.handling t = none)
    (hcopy : ∀ t, Fields.get? (env.classMembers t) "__copy__" = none)
    (hupdate : ∀ t, Fields.get? (env.classMembers t) "update" = none) :
    env.HandlesUsually := by
  refine ⟨fun t => ?_⟩
  rw [handlingOf, hhandling, Option.getD_none]
  exact memberHandling_eq_default
    (List.findSome?_eq_none_iff.mpr fun u _ => hcopy u)
    (List.findSome?_eq_none_iff.mpr fun u _ => hupdate u)

end Environment

namespace Redaction

/-- An object with other values merged into what it holds. -/
def mergeFields (object : Value) (updates : Entries) : Except Failure Value :=
  let named := namedUpdates updates
  match object with
  | .map t entries => .ok (.map t (Entries.merge entries updates))
  | .object t fields =>
      if t.isClosed && named.any (fun u => (Fields.get? fields u.1).isNone) then
        .error .wrongType
      else .ok (.object t (Fields.merge fields named))
  | .entity id t fields =>
      (named.foldlM (fun fs u => Fields.setMember fs u.1 u.2) fields).map (.entity id t)
  | .module r members =>
      match r.form with
      | .objectForm => .ok (.module r (Fields.merge members named))
      | .file => .error .wrongType
      | _ => .ok object
  | .tag t => replaceNothing (.tag t) (fun n => n = "name" || n = "value") named
  | .type (.declared ..) => .ok object
  | .type _ => .error .wrongType
  | .function f => replaceNothing (.function f) (fun _ => false) named
  | v => replaceNothing v (fun _ => true) named

section Kinds

variable {env : Environment} [env.HandlesUsually]

/-- All three ways of making a map with other entries merge these into the old ones. -/
theorem replaceEntries_eq_merge
    (t : TypeRef)
    (entries updates : Entries) :
    replaceEntries env t entries updates = .ok (.map t (Entries.merge entries updates)) := by
  unfold replaceEntries
  simp only [Environment.handlingOf_eq]
  split
  · rfl
  · cases hfixed : t.isReadOnlyMap with
    | true =>
        rfl
    | false =>
        show Value.putEntries (.map t entries) updates = _
        rw [Value.putEntries, hfixed]
        rfl

theorem remake_default
    (fields updates : Fields) :
    remake {} fields updates =
      if updates.any fun u => (Fields.get? fields u.1).isNone then .error .wrongType
      else .ok (Fields.merge fields updates) := by
  have hpreset : updates.any (fun u => (Fields.get? [] u.1).isSome) = false := by
    simp [Fields.get?]
  simp only [remake, hpreset]
  rfl

theorem replaceInModel_eq_merge
    {t : TypeRef}
    (hclosed : t.isClosed = false)
    (fields updates : Fields) :
    replaceInModel env t fields updates = .ok (.object t (Fields.merge fields updates)) := by
  unfold replaceInModel
  simp only [Environment.handlingOf_eq]
  show (if t.isClosed then _ else _) = _
  rw [hclosed]
  rfl

/-- Setting members of a copy of an entity is setting them one after the other. -/
theorem replaceMembers_entity
    (id : Nat)
    (t : TypeRef)
    (fields updates : Fields) :
    replaceMembers env (.entity id t fields) updates =
      (updates.foldlM (fun fs u => Fields.setMember fs u.1 u.2) fields).map (.entity id t) := by
  unfold replaceMembers
  simp only [Environment.handlingOf_eq]
  show updates.foldlM (fun v u => Value.assign v u.1 u.2) (.entity id t fields) = _
  induction updates generalizing fields with
  | nil =>
      rfl
  | cons u updates ih =>
      rw [List.foldlM_cons, List.foldlM_cons, Value.assign]
      cases Fields.setMember fields u.1 u.2 with
      | error e =>
          rfl
      | ok fields' =>
          exact ih fields'

/-- Whatever an object is, replacing fields in a copy merges the new values into what it
holds. -/
theorem replaceFields_eq_mergeFields
    (object : Value)
    (updates : Entries) :
    replaceFields env object updates = mergeFields object updates := by
  cases object with
  | map t entries =>
      exact replaceEntries_eq_merge t entries updates
  | object t fields =>
      unfold replaceFields mergeFields
      simp only
      cases hclosed : t.isClosed with
      | true =>
          rw [if_pos rfl, Environment.handlingOf_eq, remake_default, Bool.true_and]
          split <;> rfl
      | false =>
          rw [if_neg Bool.false_ne_true, replaceInModel_eq_merge hclosed, Bool.false_and]
          rfl
  | entity id t fields =>
      unfold replaceFields mergeFields
      simp only
      rw [Environment.handlingOf_eq, replaceMembers_entity]
      rfl
  | type t =>
      cases t <;> rfl
  | _ =>
      rfl

end Kinds

end Redaction
end AccessPolicy
