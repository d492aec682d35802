import AccessPolicy.Proofs.Redaction.Alike

/-!
# Two runs in step

A spec is applied to both of a pair of objects that have the same keys, entry by entry.
`InStep` relates the updates of the two runs: the slots as they are after these updates are
alike for the entries that are still to come, and the updates of fields that the objects have
from their type are the same.

An entry works on one field.  Runs stay in step if they do in the slot of that field, or for
a field that has no slot (`InStep.step`).
-/

namespace AccessPolicy

/-- Related lists whose items are related in another way, given that they are in the lists. -/
theorem forall₂_imp_of_mem
    {α β : Type}
    {R S : α → β → Prop}
    {xs : List α}
    {ys : List β}
    (h : List.Forall₂ R xs ys)
    (himp : ∀ x ∈ xs, ∀ y ∈ ys, R x y → S x y) :
    List.Forall₂ S xs ys := by
  obtain ⟨hlength, hzip⟩ := List.forall₂_iff_zip.mp h
  refine List.forall₂_iff_zip.mpr ⟨hlength, ?_⟩
  intro x y hxy
  obtain ⟨hx, hy⟩ := List.of_mem_zip hxy
  exact himp x hx y hy (hzip hxy)

theorem Entries.names_eq_of_forall₂
    {es es' : Entries}
    (h : List.Forall₂ (fun e e' => e.1 = e'.1) es es') :
    names es' = names es := by
  induction h with
  | nil =>
      rfl
  | @cons e e' es es' hkey _ ih =>
      obtain ⟨k, x⟩ := e
      obtain ⟨k', x'⟩ := e'
      dsimp only at hkey
      subst hkey
      rw [names_cons, names_cons, ih]

namespace Redaction

/-- Two objects that differ at most in the contents of their slots. -/
structure SameKeys (v v' : Value) : Prop where
  hasFields : v.hasFields = true
  eq_withSlots : v' = v.withSlots v'.slots
  nodup : (Entries.names v.slots).Nodup
  keys : List.Forall₂ (fun e e' => e.1 = e'.1) v.slots v'.slots

namespace SameKeys

variable {w : Viewing} {v v' : Value}

theorem hasFields_right
    (h : SameKeys v v') :
    v'.hasFields = true := by
  rw [h.eq_withSlots, Value.hasFields_withSlots, h.hasFields]

theorem names_eq
    (h : SameKeys v v') :
    Entries.names v'.slots = Entries.names v.slots :=
  Entries.names_eq_of_forall₂ h.keys

theorem nodup_right
    (h : SameKeys v v') :
    (Entries.names v'.slots).Nodup := by
  rw [h.names_eq]
  exact h.nodup

/-- What has no slot is the same field in both. -/
theorem field?_eq
    (h : SameKeys v v')
    {n : String}
    (hn : n ∉ Entries.names v.slots) :
    w.env.field? v' n = w.env.field? v n := by
  have hn' : n ∉ Entries.names v'.slots := by
    rw [h.names_eq]
    exact hn
  have hshared : w.env.sharedField? v' n = w.env.sharedField? v n := by
    rw [h.eq_withSlots, Environment.sharedField?_withSlots]
  have hnone : Entries.getText? v.slots n = none := by
    simpa [Entries.mem_names_iff] using hn
  have hnone' : Entries.getText? v'.slots n = none := by
    simpa [Entries.mem_names_iff] using hn'
  unfold Environment.field?
  rw [if_pos h.hasFields, if_pos h.hasFields_right, hnone, hnone', hshared]

variable [w.env.HandlesUsually]

theorem isSome_read?_eq
    (h : SameKeys v v')
    {n : String}
    (hn : n ∉ Entries.names v.slots) :
    (w.read? v' n).isSome = (w.read? v n).isSome := by
  have htype : (v'.typeMember? n).isSome = (v.typeMember? n).isSome := by
    rw [h.eq_withSlots, Value.isSome_typeMember?_withSlots]
  rw [w.read?_eq_or h.hasFields, w.read?_eq_or h.hasFields_right, Option.isSome_or,
    Option.isSome_or, h.field?_eq hn, htype]

/-- A field that has no slot reads the same of both. -/
theorem read?_eq
    (h : SameKeys v v')
    {n : String}
    (hn : n ∉ Entries.names v.slots)
    (hreads : (w.read? v n).isSome = true → (w.env.field? v n).isSome = true) :
    w.read? v' n = w.read? v n := by
  have hsome := h.isSome_read?_eq (w := w) hn
  cases hread : w.read? v n with
  | none =>
      rw [hread] at hsome
      simpa using hsome
  | some x =>
      obtain ⟨y, hy⟩ := Option.isSome_iff_exists.mp (hreads (by rw [hread]; rfl))
      have hy' : w.env.field? v' n = some y := by
        rw [h.field?_eq hn, hy]
      rw [← hread, w.read?_of_field? hy, w.read?_of_field? hy']

end SameKeys

/-- What is in a slot is what its name reads. -/
theorem read?_of_mem_slots
    {w : Viewing}
    [w.env.HandlesUsually]
    {v : Value}
    (hfields : v.hasFields = true)
    (hnodup : (Entries.names v.slots).Nodup)
    {e : Value × Value}
    (he : e ∈ v.slots)
    {n : String}
    (hn : e.1.text? = some n) :
    w.read? v n = some e.2 := by
  refine w.read?_of_field? ?_
  unfold Environment.field?
  rw [if_pos hfields, Entries.getText?_of_mem hnodup he hn]
  rfl

section Slots

variable {w : Viewing} {v : Value} {updates : Entries} {e : Value × Value}

/-- The value of a slot after some updates. -/
theorem current?_eq_overlay
    (updates : Entries)
    {n : String}
    (hread : w.read? v n = some e.2)
    (hn : e.1.text? = some n) :
    current? w v updates n = some (Entries.overlay updates e).2 := by
  unfold current? Entries.overlay
  rw [hread, hn]
  cases h : Entries.getText? updates n with
  | none =>
      simp [h]
  | some x =>
      simp [h]

variable [w.env.HandlesUsually]

theorem overlay_congr
    {updates' : Entries}
    (hsame : ∀ n, e.1.text? = some n →
      Entries.getText? updates' n = Entries.getText? updates n) :
    Entries.overlay updates' e = Entries.overlay updates e := by
  unfold Entries.overlay
  cases hn : e.1.text? with
  | none =>
      rfl
  | some n =>
      simp [hsame n hn]

theorem overlay_set
    {key : Value}
    {n : String}
    (hkey : key.text? = some n)
    (hn : e.1.text? = some n)
    (updates : Entries)
    (y : Value) :
    (Entries.overlay (Entries.set updates key y) e).2 = y := by
  simp [Entries.overlay, hn, Entries.getText?_set hkey]

end Slots

namespace Entry

/-- The field that an entry is about. -/
def subject? : Entry → Option String
  | .hide field => some field
  | .nested key _ => key.text?
  | .delegate key _ => key.text?
  | .malformed _ => none

theorem innerOf_of_subject?_ne
    {w : Viewing}
    {e : Entry}
    {n : String}
    (hne : e.subject? ≠ some n)
    (x : Value) :
    e.innerOf w n x = [] := by
  cases e with
  | nested key spec =>
      exact if_neg hne
  | delegate key type =>
      exact if_neg hne
  | _ =>
      rfl

end Entry

/-- An entry about another field plays no part in whether slots are alike. -/
theorem slotAlike_tail
    {w : Viewing}
    {R : Spec → Value → Value → Prop}
    {entry : Entry}
    {spec : Spec}
    {e e' : Value × Value}
    (h : SlotAlike w R (entry :: spec) e e')
    (hne : ∀ n, e.1.text? = some n → entry.subject? ≠ some n) :
    SlotAlike w R spec e e' := by
  obtain ⟨hkey, h⟩ := h
  refine ⟨hkey, ?_⟩
  cases hn : e.1.text? with
  | none =>
      rw [hn] at h
      exact h
  | some n =>
      rw [hn] at h
      rcases h with hhide | heach
      · left
        rcases List.mem_cons.mp hhide with rfl | hhide
        · exact absurd rfl (hne n hn)
        · exact hhide
      · right
        refine heach.imp ?_
        intro a a' ha
        rw [inner_cons, Entry.innerOf_of_subject?_ne (hne n hn)] at ha
        exact ha

/-- Two runs over a pair of objects are in step: the slots are alike for the entries to come,
and the updates of all other fields are the same. -/
structure InStep (w : Viewing) (k : Nat) (spec : Spec) (v v' : Value)
    (updates updates' : Entries) : Prop where
  named : Entries.IsNamed IsFieldName updates
  named' : Entries.IsNamed IsFieldName updates'
  others_eq :
    Entries.others (Entries.names v.slots) updates =
      Entries.others (Entries.names v.slots) updates'
  slots :
    List.Forall₂
      (fun e e' =>
        SlotAlike w (Alike w (ReadsFields w) k) spec (Entries.overlay updates e)
          (Entries.overlay updates' e'))
      v.slots v'.slots

/-- Updates stay as they are, or one key is set. -/
def Sets (key : Value) (updates result : Entries) : Prop :=
  result = updates ∨ ∃ y, result = Entries.set updates key y

section Sets

variable {key : Value} {n : String} (hkey : key.text? = some n)
variable {updates result : Entries} (hsets : Sets key updates result)
include hkey hsets

theorem isNamed_of_sets
    (hname : IsFieldName n)
    (hupdates : Entries.IsNamed IsFieldName updates) :
    Entries.IsNamed IsFieldName result := by
  rcases hsets with rfl | ⟨y, rfl⟩
  · exact hupdates
  · exact hupdates.set hkey hname y

theorem getText?_of_sets
    {m : String}
    (hne : m ≠ n) :
    Entries.getText? result m = Entries.getText? updates m := by
  rcases hsets with rfl | ⟨y, rfl⟩
  · rfl
  · rw [Entries.getText?_set hkey, if_neg hne]

theorem others_of_sets
    {own : List String}
    (hown : n ∈ own) :
    Entries.others own result = Entries.others own updates := by
  rcases hsets with rfl | ⟨y, rfl⟩
  · rfl
  · rw [Entries.others_set hkey, if_pos hown]

end Sets

section Entries

variable {w : Viewing} {k : Nat} {entry : Entry} {spec : Spec} {v v' : Value}
variable {updates updates' result result' : Entries}

/-- An entry keeps two runs in step if it does so in the slot that it is about, or for a field
that has no slot. -/
theorem InStep.step
    (h : InStep w k (entry :: spec) v v' updates updates')
    {key : Value}
    {n : String}
    (hkey : key.text? = some n)
    (hname : IsFieldName n)
    (hsubject : entry.subject? = some n)
    (hsets : Sets key updates result)
    (hsets' : Sets key updates' result')
    (hslot :
      ∀ e ∈ v.slots, ∀ e' ∈ v'.slots, e.1.text? = some n → e'.1.text? = some n →
        (.hide n ∈ entry :: spec ∨
          EachAlike (Alike w (ReadsFields w) k) (inner w (entry :: spec) n)
            (Entries.overlay updates e).2 (Entries.overlay updates' e').2) →
        (.hide n ∈ spec ∨
          EachAlike (Alike w (ReadsFields w) k) (inner w spec n)
            (Entries.overlay result e).2 (Entries.overlay result' e').2))
    (hother :
      n ∉ Entries.names v.slots →
        Entries.others (Entries.names v.slots) result =
          Entries.others (Entries.names v.slots) result') :
    InStep w k spec v v' result result' where
  named := isNamed_of_sets hkey hsets hname h.named
  named' := isNamed_of_sets hkey hsets' hname h.named'
  others_eq := by
    by_cases hown : n ∈ Entries.names v.slots
    · rw [others_of_sets hkey hsets hown, others_of_sets hkey hsets' hown]
      exact h.others_eq
    · exact hother hown
  slots := by
    refine forall₂_imp_of_mem h.slots ?_
    intro e he e' he' hs
    have hsame : e.1 = e'.1 := hs.1
    by_cases hn : e.1.text? = some n
    · -- This is the slot that the entry is about.
      have hn' : e'.1.text? = some n := by
        rw [← hsame]
        exact hn
      have hcontents := hs.2
      rw [show (Entries.overlay updates e).1.text? = some n from hn] at hcontents
      refine ⟨hsame, ?_⟩
      rw [show (Entries.overlay result e).1.text? = some n from hn]
      exact hslot e he e' he' hn hn' hcontents
    · -- All other slots stay as they are, and the entry has nothing to say on them.
      have hkeep : Entries.overlay result e = Entries.overlay updates e := by
        refine overlay_congr ?_
        intro m hm
        refine getText?_of_sets hkey hsets ?_
        rintro rfl
        exact hn hm
      have hkeep' : Entries.overlay result' e' = Entries.overlay updates' e' := by
        refine overlay_congr ?_
        intro m hm
        refine getText?_of_sets hkey hsets' ?_
        rintro rfl
        rw [← hsame] at hm
        exact hn hm
      rw [hkeep, hkeep']
      refine slotAlike_tail hs ?_
      intro m hm hm'
      rw [hsubject] at hm'
      cases hm'
      exact hn hm

variable [w.env.HandlesUsually]

theorem InStep.hide
    (hkeys : SameKeys v v')
    {field : String}
    (hname : IsFieldName field)
    (h : InStep w k (.hide field :: spec) v v' updates updates')
    {again again' : Spec → Value → Run Value}
    (hentry : (applyEntry w again v updates (.hide field)).outcome = .ok result)
    (hentry' : (applyEntry w again' v' updates' (.hide field)).outcome = .ok result') :
    InStep w k spec v v' result result' := by
  have hresult := applyEntry_hide_eq_ok hentry
  have hresult' := applyEntry_hide_eq_ok hentry'
  have htext : (Value.text field).text? = some field := rfl
  have hsets :
      ∀ (p : Bool) (us : Entries),
        Sets (.text field) us (if p then Entries.set us (.text field) w.marker else us) := by
    intro p us
    cases p with
    | false =>
        exact Or.inl rfl
    | true =>
        exact Or.inr ⟨w.marker, rfl⟩
  refine h.step htext hname rfl (hresult ▸ hsets _ _) (hresult' ▸ hsets _ _) ?_ ?_
  · intro e he e' he' hn hn' _
    right
    rw [read?_of_mem_slots hkeys.hasFields hkeys.nodup he hn] at hresult
    rw [read?_of_mem_slots hkeys.hasFields_right hkeys.nodup_right he' hn'] at hresult'
    rw [Option.isSome_some, if_pos rfl] at hresult hresult'
    rw [hresult, hresult', overlay_set htext hn, overlay_set htext hn']
    exact eachAlike_refl (alike_refl k) _ w.marker
  · intro hown
    rw [hkeys.isSome_read?_eq hown] at hresult'
    rw [hresult, hresult']
    split
    · rw [Entries.others_set htext, Entries.others_set htext, if_neg hown, if_neg hown,
        h.others_eq]
    · exact h.others_eq

/-- Contents that are skipped both or not at all are both left as they are, or both
replaced. -/
theorem redactField_both
    {key : Value}
    {n : String}
    (hkey : key.text? = some n)
    {f f' : Value → Run Value}
    (hfield : (redactField w v updates key f).outcome = .ok result)
    (hfield' : (redactField w v' updates' key f').outcome = .ok result')
    {x x' : Value}
    (hx : current? w v updates n = some x)
    (hx' : current? w v' updates' n = some x')
    (hskips : isSkipped x' = isSkipped x) :
    (isSkipped x = true ∧ result = updates ∧ result' = updates') ∨
      ∃ y y', (redactEach f x).outcome = .ok y ∧ (redactEach f' x').outcome = .ok y' ∧
        result = Entries.set updates key y ∧ result' = Entries.set updates' key y' := by
  rcases redactField_eq_ok hkey hfield with ⟨hkept, hskipped⟩ | ⟨x₁, y, hx₁, hskip, hy, hset⟩
  · have hskip := hskipped x hx
    rcases redactField_eq_ok hkey hfield' with ⟨hkept', _⟩ | ⟨x₁', _, hx₁', hskip', _⟩
    · exact Or.inl ⟨hskip, hkept, hkept'⟩
    · rw [hx'] at hx₁'
      cases hx₁'
      rw [hskips, hskip] at hskip'
      cases hskip'
  · rw [hx] at hx₁
    cases hx₁
    rcases redactField_eq_ok hkey hfield' with ⟨_, hskipped'⟩ | ⟨x₁', y', hx₁', _, hy', hset'⟩
    · have hskip' := hskipped' x' hx'
      rw [hskips, hskip] at hskip'
      cases hskip'
    · rw [hx'] at hx₁'
      cases hx₁'
      exact Or.inr ⟨y, y', hy, hy', hset, hset'⟩

/-- Reworking a field sets at most its key, and nothing if there is no such field. -/
theorem sets_of_redactField
    {key : Value}
    {n : String}
    (hkey : key.text? = some n)
    {f : Value → Run Value}
    (hfield : (redactField w v updates key f).outcome = .ok result) :
    Sets key updates result ∧ (current? w v updates n = none → result = updates) := by
  rcases redactField_eq_ok hkey hfield with ⟨rfl, _⟩ | ⟨x, y, hx, _, _, rfl⟩
  · exact ⟨Or.inl rfl, fun _ => rfl⟩
  · refine ⟨Or.inr ⟨y, rfl⟩, ?_⟩
    intro hnone
    rw [hnone] at hx
    cases hx

/-- Reworking a field keeps two runs in step if what is done to contents that are alike for
the entry and for other specs leaves them alike for the other specs. -/
theorem InStep.rework
    (hspecs : w.SpecsByType)
    (hkeys : SameKeys v v')
    (h : InStep w k (entry :: spec) v v' updates updates')
    {key : Value}
    {n : String}
    (hkey : key.text? = some n)
    (hname : IsFieldName n)
    (hsubject : entry.subject? = some n)
    (hhide : ∀ field, entry ≠ .hide field)
    (hreads : (w.read? v n).isSome = true → (w.env.field? v n).isSome = true)
    {f f' : Value → Run Value}
    (htype : ∀ a b, (f a).outcome = .ok b → b.typeOf = a.typeOf)
    (hitems : ∀ a b, (f a).outcome = .ok b → b.items? = a.items?)
    (hitems' : ∀ a b, (f' a).outcome = .ok b → b.items? = a.items?)
    (hstep :
      ∀ rest a a' b b', Alike w (ReadsFields w) k (entry.innerOf w n a ++ rest) a a' →
        (f a).outcome = .ok b → (f' a').outcome = .ok b' →
        Alike w (ReadsFields w) k rest b b')
    (hfield : (redactField w v updates key f).outcome = .ok result)
    (hfield' : (redactField w v' updates' key f').outcome = .ok result') :
    InStep w k spec v v' result result' := by
  obtain ⟨hsets, hkept⟩ := sets_of_redactField hkey hfield
  obtain ⟨hsets', hkept'⟩ := sets_of_redactField hkey hfield'
  refine h.step hkey hname hsubject hsets hsets' ?_ ?_
  · -- The field has a slot: its contents are hidden later on, or alike now.
    intro e he e' he' hn hn' hcontents
    rcases hcontents with hmem | heach
    · left
      rcases List.mem_cons.mp hmem with heq | hmem
      · exact absurd heq.symm (hhide n)
      · exact hmem
    · right
      have hcurrent := current?_eq_overlay updates
        (read?_of_mem_slots (w := w) hkeys.hasFields hkeys.nodup he hn) hn
      have hcurrent' := current?_eq_overlay updates'
        (read?_of_mem_slots (w := w) hkeys.hasFields_right hkeys.nodup_right he' hn') hn'
      obtain ⟨hskips, hsame⟩ := isSkipped_of_eachAlike heach
      rcases redactField_both hkey hfield hfield' hcurrent hcurrent' hskips with
        ⟨hskip, rfl, rfl⟩ | ⟨y, y', hy, hy', rfl, rfl⟩
      · rw [← hsame hskip]
        exact eachAlike_refl (alike_refl k) _ _
      · rw [overlay_set hkey hn, overlay_set hkey hn']
        refine eachAlike_of_redactEach hitems hitems' ?_ heach hy hy'
        intro a a' b b' haa' hab hab'
        rw [inner_congr hspecs (htype a b hab)]
        exact hstep _ a a' b b' haa' hab hab'
  · -- The field is one that both objects have from their type.
    intro hown
    have hcurrent : current? w v' updates' n = current? w v updates n := by
      unfold current?
      rw [hkeys.read?_eq hown hreads, ← Entries.getText?_others hown updates, h.others_eq,
        Entries.getText?_others hown]
    cases hx : current? w v updates n with
    | none =>
        rw [hkept hx, hkept' (hcurrent.trans hx)]
        exact h.others_eq
    | some x =>
        rcases redactField_both hkey hfield hfield' hx (hcurrent.trans hx) rfl with
          ⟨_, rfl, rfl⟩ | ⟨y, y', hy, hy', rfl, rfl⟩
        · exact h.others_eq
        · have hsame : EachAlike (fun _ a a' => a = a') (fun _ => []) x x :=
            eachAlike_refl (fun _ _ => rfl) _ x
          have heach : EachAlike (fun _ a a' => a = a') (fun _ => []) y y' := by
            refine eachAlike_of_redactEach hitems hitems' ?_ hsame hy hy'
            rintro a _ b b' rfl hab hab'
            exact eq_of_alike_nil (hstep [] a a b b' (alike_refl k _ a) hab hab')
          rw [eq_of_eachAlike heach, Entries.others_set hkey, Entries.others_set hkey,
            if_neg hown, if_neg hown, h.others_eq]

end Entries

end Redaction
end AccessPolicy
