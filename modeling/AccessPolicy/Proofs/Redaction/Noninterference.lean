import AccessPolicy.Proofs.Redaction.Depth
import AccessPolicy.Proofs.Redaction.Disclosure
import AccessPolicy.Proofs.Redaction.Lockstep

/-!
# Redaction does not tell hidden fields apart

Two values that differ in hidden fields only are redacted to the same result.

**Runs.**  Each entry of a spec keeps the runs over two objects in step (`InStep.tail`), and
runs that are in step to the end have results that are alike (`alike_of_inStep`).

**Depths.**  Nested entries and callbacks apply specs one level further down, so that the
induction is on the depth up to which the values may differ (`respects`).
-/

namespace AccessPolicy
namespace Redaction

/-- What is shown of values that differ down to one depth: applying a spec to both takes values
that are alike for it and for other specs to values that are alike for the others. -/
def Respects (w : Viewing) (k : Nat) : Prop :=
  ∀ {spec rest : Spec} {v v' r r' : Value} {d d' : Nat},
    Entry.AllNameFields spec →
    Alike w (ReadsFields w) k (spec ++ rest) v v' →
    (apply w d spec v).outcome = .ok r →
    (apply w d' spec v').outcome = .ok r' →
    Alike w (ReadsFields w) k rest r r'

section Runs

variable {w : Viewing} (hspecs : w.SpecsByType) (hcallbacks : w.CallbacksNameFields)
variable {k : Nat} (ih : Respects w k) {v v' : Value} (hkeys : SameKeys v v')
include hspecs hcallbacks ih hkeys
variable [w.env.HandlesUsually]

/-- An entry keeps two runs in step. -/
theorem InStep.tail
    {entry : Entry}
    {spec : Spec}
    {updates updates' result result' : Entries}
    {d d' : Nat}
    (hentry : entry.NamesFields)
    (hreads : ReadsFields w [entry] v)
    (h : InStep w k (entry :: spec) v v' updates updates')
    (hrun : (applyEntry w (apply w d) v updates entry).outcome = .ok result)
    (hrun' : (applyEntry w (apply w d') v' updates' entry).outcome = .ok result') :
    InStep w k spec v v' result result' := by
  cases entry with
  | hide field =>
      exact h.hide hkeys hentry hrun hrun'
  | nested key inner =>
      obtain ⟨⟨n, hkey, hname⟩, hinner⟩ := hentry
      refine h.rework hspecs hkeys hkey hname hkey (by simp)
        (hreads _ List.mem_cons_self n hkey)
        (fun a b hab => (typeOf_of_apply hinner hab).1)
        (fun a b hab => (typeOf_of_apply hinner hab).2)
        (fun a b hab => (typeOf_of_apply hinner hab).2) ?_ hrun hrun'
      intro rest a a' b b' haa' hab hab'
      rw [Entry.innerOf, if_pos hkey] at haa'
      exact ih hinner haa' hab hab'
  | delegate key type =>
      obtain ⟨n, hkey, hname⟩ := hentry
      have hkept :
          ∀ {d : Nat} {a b : Value}, (delegateItem w (apply w d) key type a).outcome = .ok b →
            b.typeOf = a.typeOf ∧ b.items? = a.items? := by
        intro d a b hab
        rcases delegateItem_eq_ok_iff.mp hab with ⟨_, rfl⟩ | ⟨_, _, own, hown, hb⟩
        · exact ⟨rfl, rfl⟩
        · exact typeOf_of_apply (hcallbacks a own hown) hb
      refine h.rework hspecs hkeys hkey hname hkey (by simp)
        (hreads _ List.mem_cons_self n hkey)
        (fun a b hab => (hkept hab).1) (fun a b hab => (hkept hab).2)
        (fun a b hab => (hkept hab).2) ?_ hrun hrun'
      intro rest a a' b b' haa' hab hab'
      rw [Entry.innerOf, if_pos hkey] at haa'
      obtain ⟨hskips, hsame⟩ := isSkipped_of_alike haa'
      rcases delegateItem_eq_ok_iff.mp hab with ⟨hskip, rfl⟩ | ⟨hskip, _, own, hown, hb⟩
      · rcases delegateItem_eq_ok_iff.mp hab' with ⟨_, rfl⟩ | ⟨hskip', _⟩
        · rw [hsame hskip]
          exact alike_refl k rest _
        · rw [hskips, hskip] at hskip'
          cases hskip'
      · rcases delegateItem_eq_ok_iff.mp hab' with ⟨hskip', _⟩ | ⟨_, _, own', hown', hb'⟩
        · rw [hskips, hskip] at hskip'
          cases hskip'
        · obtain rfl := hspecs.eq (typeOf_of_alike haa') hown hown'
          rw [Viewing.ownSpec_of_specOf hown] at haa'
          exact ih (hcallbacks a own hown) haa' hb hb'
  | malformed failure =>
      cases hrun

/-- All entries of a spec keep two runs in step. -/
theorem InStep.collect
    {spec rest : Spec}
    {updates updates' result result' : Entries}
    {d d' : Nat}
    (hspec : Entry.AllNameFields spec)
    (hreads : ReadsFields w spec v)
    (h : InStep w k (spec ++ rest) v v' updates updates')
    (hrun : (Redaction.collect w (apply w d) v updates spec).outcome = .ok result)
    (hrun' : (Redaction.collect w (apply w d') v' updates' spec).outcome = .ok result') :
    InStep w k rest v v' result result' := by
  induction spec generalizing updates updates' with
  | nil =>
      cases hrun
      cases hrun'
      exact h
  | cons entry spec ihs =>
      obtain ⟨between, hentry, hlast⟩ := collect_cons_eq_ok hrun
      obtain ⟨between', hentry', hlast'⟩ := collect_cons_eq_ok hrun'
      have hhead : ReadsFields w [entry] v := by
        intro e he n hn
        rw [List.mem_singleton] at he
        subst he
        exact hreads e List.mem_cons_self n hn
      have htail : ReadsFields w spec v := by
        intro e he n hn
        exact hreads e (List.mem_cons_of_mem _ he) n hn
      exact ihs hspec.2 htail
        (InStep.tail hspecs hcallbacks ih hkeys hspec.1 hhead h hentry hentry') hlast hlast'

end Runs

section Results

variable {w : Viewing} {k : Nat}

theorem slotAlike_refl
    (spec : Spec)
    (e : Value × Value) :
    SlotAlike w (Alike w (ReadsFields w) k) spec e e := by
  refine ⟨rfl, ?_⟩
  cases e.1.text? with
  | none =>
      rfl
  | some n =>
      exact Or.inr (eachAlike_refl (alike_refl k) _ e.2)

theorem slotsAlike_textEntries
    {R : Spec → Value → Value → Prop}
    {spec : Spec}
    {es es' : Entries}
    (h : List.Forall₂ (SlotAlike w R spec) es es') :
    List.Forall₂ (SlotAlike w R spec) (Value.textEntries (namedUpdates es))
      (Value.textEntries (namedUpdates es')) := by
  induction h with
  | nil =>
      exact List.Forall₂.nil
  | @cons e e' es es' he _ ih =>
      obtain ⟨key, x⟩ := e
      obtain ⟨key', x'⟩ := e'
      obtain ⟨hkey, he⟩ := he
      dsimp only at hkey he
      subst hkey
      rw [namedUpdates_cons, namedUpdates_cons]
      cases hn : key.text? with
      | none =>
          exact ih
      | some n =>
          rw [hn] at he
          exact List.Forall₂.cons ⟨rfl, he⟩ ih

/-- Copies of an object whose slots are alike have slots that are alike. -/
theorem slotsAlike_withSlots
    {R : Spec → Value → Value → Prop}
    {spec : Spec}
    {v : Value}
    (hfields : v.hasFields = true)
    {es es' : Entries}
    (h : List.Forall₂ (SlotAlike w R spec) es es') :
    List.Forall₂ (SlotAlike w R spec) (v.withSlots es).slots (v.withSlots es').slots := by
  have hfieldsAlike := slotsAlike_textEntries h
  cases v with
  | map t entries =>
      exact h
  | object t fields =>
      exact hfieldsAlike
  | entity i t fields =>
      exact hfieldsAlike
  | module r members =>
      exact hfieldsAlike
  | _ =>
      cases hfields

variable [w.env.HandlesUsually]

/-- What entries read of a copy are fields of it if what they read of the object are. -/
theorem readsFields_of_apply
    {spec : Spec}
    {v : Value}
    {updates : Entries}
    (hfields : v.hasFields = true)
    (hupdates : Entries.IsNamed IsFieldName updates)
    (hreads : ReadsFields w spec v) :
    ReadsFields w spec (v.withSlots (Entries.merge v.slots updates)) := by
  intro e he n hn hread
  have hfieldsCopy : (v.withSlots (Entries.merge v.slots updates)).hasFields = true := by
    rw [Value.hasFields_withSlots, hfields]
  rw [w.read?_eq_or hfieldsCopy, Option.isSome_or, Value.isSome_typeMember?_withSlots] at hread
  cases hmember : (v.typeMember? n).isSome with
  | false =>
      simpa [hmember] using hread
  | true =>
      have hreadBefore : (w.read? v n).isSome = true := by
        rw [w.read?_eq_or hfields, Option.isSome_or, hmember, Bool.or_true]
      rw [field?_of_apply hfields hupdates, Option.isSome_or, hreads e he n hn hreadBefore,
        Bool.or_true]

/-- Two runs that are in step to the end have results that are alike. -/
theorem alike_of_inStep
    {rest : Spec}
    {v v' : Value}
    {updates updates' : Entries}
    (hkeys : SameKeys v v')
    (hloaded : v.isNotLoaded = false)
    (hreads : ReadsFields w rest v)
    (h : InStep w k rest v v' updates updates') :
    Alike w (ReadsFields w) (k + 1) rest (v.withSlots (Entries.merge v.slots updates))
      (v'.withSlots (Entries.merge v'.slots updates')) := by
  have hmerged :
      List.Forall₂ (SlotAlike w (Alike w (ReadsFields w) k) rest)
        (Entries.merge v.slots updates) (Entries.merge v'.slots updates') := by
    -- Behind the old slots come those of new names, which are the same in both runs.
    rw [Entries.merge_eq h.named hkeys.nodup, Entries.merge_eq h.named' hkeys.nodup_right,
      hkeys.names_eq, ← h.others_eq]
    refine List.rel_append ?_ (List.forall₂_same.mpr fun e _ => slotAlike_refl rest e)
    rw [List.forall₂_map_left_iff, List.forall₂_map_right_iff]
    exact h.slots
  have hcopy :
      v'.withSlots (Entries.merge v'.slots updates') =
        v.withSlots (Entries.merge v'.slots updates') := by
    rw [hkeys.eq_withSlots, Value.withSlots_withSlots, ← hkeys.eq_withSlots]
  rw [hcopy]
  refine Or.inr ⟨?_, ?_, ?_, ?_, ?_, ?_⟩
  · rw [Value.hasFields_withSlots, hkeys.hasFields]
  · rw [Value.isNotLoaded_withSlots, hloaded]
  · rw [Value.withSlots_withSlots, Value.withSlots_slots_withSlots]
  · have hnames := Entries.nodup_names_merge h.named hkeys.nodup
    rcases Value.slots_withSlots hkeys.hasFields (Entries.merge v.slots updates) with hs | hs
    · rw [hs]
      exact hnames
    · rw [hs, names_textEntries_namedUpdates]
      exact hnames
  · exact readsFields_of_apply hkeys.hasFields h.named hreads
  · exact slotsAlike_withSlots hkeys.hasFields hmerged

end Results

section Noninterference

variable {w : Viewing} (hspecs : w.SpecsByType) (hcallbacks : w.CallbacksNameFields)
include hspecs hcallbacks
variable [w.env.HandlesUsually]

/-- Applying specs keeps values alike, whatever depth they differ at. -/
theorem respects
    (k : Nat) :
    Respects w k := by
  induction k with
  | zero =>
      intro spec rest v v' r r' d d' hspec halike hv hv'
      have hsame : v = v' := halike
      subst hsame
      exact apply_unique hv hv'
  | succ k ih =>
      intro spec rest v v' r r' d d' hspec halike hv hv'
      rcases halike with rfl | ⟨hfields, hloaded, heq, hnodup, hreads, hslots⟩
      · rw [apply_unique hv hv']
        exact alike_refl (k + 1) rest r'
      · have hkeys : SameKeys v v' :=
          ⟨hfields, heq, hnodup, hslots.imp fun e e' he => he.1⟩
        obtain ⟨d, updates, rfl, hcollect, hnamed, hr⟩ := apply_eq_ok hspec hv
        obtain ⟨d', updates', rfl, hcollect', hnamed', hr'⟩ := apply_eq_ok hspec hv'
        have hstart : InStep w k (spec ++ rest) v v' [] [] := by
          refine ⟨Entries.isNamed_nil, Entries.isNamed_nil, rfl, hslots.imp ?_⟩
          intro e e' he
          rw [Entries.overlay_nil, Entries.overlay_nil]
          exact he
        have hspecReads : ReadsFields w spec v := by
          intro e he
          exact hreads e (List.mem_append_left _ he)
        have hrestReads : ReadsFields w rest v := by
          intro e he
          exact hreads e (List.mem_append_right _ he)
        have hend :=
          InStep.collect hspecs hcallbacks ih hkeys hspec hspecReads hstart hcollect hcollect'
        rw [hr, hr', if_pos hfields, if_pos hkeys.hasFields_right]
        exact alike_of_inStep hkeys hloaded hrestReads hend

end Noninterference

section Articles

end Articles

section Notes

/-- A type of notes with a secret. -/
def noteType : TypeRef :=
  .declared "Note" .plain ["secret"] none true (.builtin .object)

def note (secret : Int) : Value :=
  .entity 0 noteType [("secret", .int secret)]

/-- A reader looks at notes, which hide their secret, and have a nested entry without entries of its
own for a name. -/
def noteViewing (name : String) : Viewing :=
  Viewing.ofType noteType [.text "secret", .tuple [.text name, .list []]] []

instance (name : String) : (noteViewing name).env.HandlesUsually :=
  Viewing.handlesUsually_ofType _ _

/-- The secret that is left in a redacted note, as a field or in a method of the note itself. -/
def secretOf? : Except Failure Value → Option Int
  | .ok (.entity _ _ [(_, .int secret)]) => some secret
  | .ok (.entity _ _ [_, (_, .method (.entity _ _ [(_, .int secret)]) _)]) => some secret
  | _ => none

/-- Two notes differ in their secrets, which they hide. -/
theorem notes_differInHidden
    (name : String) :
    DiffersInHidden (noteViewing name) (fun _ _ => True) (note 1) (note 2) := by
  refine ⟨1, Or.inl ⟨rfl, rfl, Or.inr ⟨rfl, rfl, rfl, by decide, trivial, ?_⟩⟩⟩
  exact .cons ⟨rfl, Or.inl List.mem_cons_self⟩ .nil

theorem exists_ne_of_secretOf?
    {x x' : Except Failure Value}
    (h : secretOf? x = some 1)
    (h' : secretOf? x' = some 2) :
    ∃ r r', x = .ok r ∧ x' = .ok r' ∧ r ≠ r' := by
  cases x with
  | error e =>
      cases h
  | ok r =>
      cases x' with
      | error e =>
          cases h'
      | ok r' =>
          refine ⟨r, r', rfl, rfl, ?_⟩
          rintro rfl
          rw [h] at h'
          cases h'

end Notes

end Redaction
end AccessPolicy
