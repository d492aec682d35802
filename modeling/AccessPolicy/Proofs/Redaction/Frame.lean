import AccessPolicy.Proofs.Redaction.Disclosure
import AccessPolicy.Proofs.Redaction.Lockstep

/-!
# What redaction leaves as it was

A redacted copy has the type of the object and the same slots in the same order.  A slot that
no entry is about keeps its value, and one that no plain entry is about keeps the kind of its
value.

**Fitting specs.**  This is said of a spec that fits the object: each of its entries is about
a field of the object's own, or about a name that stands for nothing (`Fits`).

**Steps and runs.**  The entries about a slot take its value through a row of steps, one each
(`FrameStep`), and these make up a run (`FrameRun`).  What a step does to parts of the value
is said by a relation that stands for redaction of these parts.

**Law.**  `FrameLaw` puts redaction one level further down for that relation, so that the
same is said of all parts of an object (`frameLaw_of_apply`).
-/

namespace AccessPolicy

/-- A name of a field that an object has itself.  The name of all fields at once is that of a
field only in a map. -/
structure Value.HasOwn (v : Value) (n : String) : Prop where
  hasFields : v.hasFields = true
  mem_names : n ∈ Entries.names v.slots
  isMap : n = "__dict__" → ∃ t es, v = .map t es

namespace Entries

theorem isNamed_imp
    {P Q : String → Prop}
    {es : Entries}
    (h : IsNamed P es)
    (himp : ∀ n, P n → Q n) :
    IsNamed Q es where
  texts := by
    intro e he
    obtain ⟨n, hn, hP⟩ := h.texts e he
    exact ⟨n, hn, himp n hP⟩
  nodup := h.nodup

/-- Entries whose names are all among some have no others. -/
theorem others_eq_nil
    {P : String → Prop}
    {own : List String}
    {es : Entries}
    (h : IsNamed P es)
    (hown : ∀ n, P n → n ∈ own) :
    others own es = [] := by
  unfold others
  rw [List.filter_eq_nil_iff]
  intro e he
  obtain ⟨n, hn, hP⟩ := h.texts e he
  simp [hn, hown n hP]

/-- Entries with text keys are those of named fields, also after others were put in. -/
theorem textEntries_namedUpdates_overlay
    (more : Entries)
    (fields : Fields) :
    Value.textEntries (Redaction.namedUpdates ((Value.textEntries fields).map (overlay more))) =
      (Value.textEntries fields).map (overlay more) := by
  induction fields with
  | nil =>
      rfl
  | cons f fields ih =>
      exact congrArg (overlay more (.text f.1, f.2) :: ·) ih

end Entries

theorem Value.slots_withSlots_overlay
    {v : Value}
    (hfields : v.hasFields = true)
    (more : Entries) :
    (v.withSlots (v.slots.map (Entries.overlay more))).slots =
      v.slots.map (Entries.overlay more) := by
  cases v with
  | map t es =>
      rfl
  | object t fields =>
      exact Entries.textEntries_namedUpdates_overlay more fields
  | entity i t fields =>
      exact Entries.textEntries_namedUpdates_overlay more fields
  | module r members =>
      exact Entries.textEntries_namedUpdates_overlay more members
  | _ =>
      cases hfields

namespace Redaction

/-- A spec fits an object whose slots have different names if each entry is about a field of
the object's own, or about a name that reads nothing. -/
structure Fits (w : Viewing) (spec : Spec) (v : Value) : Prop where
  nodup : (Entries.names v.slots).Nodup
  named : ∀ e ∈ spec, ∃ n, e.subject? = some n ∧ (v.HasOwn n ∨ w.read? v n = none)

/-- A relation of single values, or of the items of two lists or tuples one by one. -/
def Each (R : Value → Value → Prop) (x y : Value) : Prop :=
  (x.items? = none ∧ R x y) ∨
    ∃ xs ys, x.items? = some xs ∧ y.items? = some ys ∧ y.typeOf = x.typeOf ∧
      List.Forall₂ R xs ys

/-- What becomes of a part of an object that is left to the callback of its type. -/
def Delegated (w : Viewing) (R : Spec → Value → Value → Prop) (type : TypeRef)
    (x y : Value) : Prop :=
  (isSkipped x = true ∧ y = x) ∨
    (isSkipped x = false ∧ x.isInstance type = true ∧
      ∃ spec, (w.specOf x).outcome = .ok spec ∧ R spec x y)

/-- What an entry makes of the value of the slot that it is about. -/
inductive FrameStep (w : Viewing) (R : Spec → Value → Value → Prop) :
    Entry → Value → Value → Prop
  | hide (field : String) (x : Value) :
      FrameStep w R (.hide field) x w.marker
  | skipped
      {e : Entry}
      {x : Value}
      (he : ∀ field, e ≠ .hide field)
      (hskip : isSkipped x = true) :
      FrameStep w R e x x
  | nested
      {key : Value}
      {spec : Spec}
      {x y : Value}
      (hskip : isSkipped x = false)
      (heach : Each (R spec) x y) :
      FrameStep w R (.nested key spec) x y
  | delegate
      {key : Value}
      {type : TypeRef}
      {x y : Value}
      (hskip : isSkipped x = false)
      (heach : Each (Delegated w R type) x y) :
      FrameStep w R (.delegate key type) x y

/-- What some entries about a slot make of its value, one after another. -/
def FrameRun (w : Viewing) (R : Spec → Value → Value → Prop) : Spec → Value → Value → Prop
  | [], x, y => y = x
  | e :: rest, x, y => ∃ z, FrameStep w R e x z ∧ FrameRun w R rest z y

/-- The entries of a spec that are about a field. -/
def about (spec : Spec) (n : String) : Spec :=
  spec.filter fun e => e.subject? = some n

/-- A value of the same kind: itself if it is null or not loaded, a list or tuple of the same
length, or else a value of the same type. -/
structure KeepsKind (x y : Value) : Prop where
  skipped : isSkipped x = true → y = x
  typeOf_eq : y.typeOf = x.typeOf
  items : ∀ xs, x.items? = some xs → ∃ ys, y.items? = some ys ∧ ys.length = xs.length

/-- What a slot of an object and that of its copy have to do with each other. -/
structure SlotFramed (w : Viewing) (R : Spec → Value → Value → Prop) (spec : Spec)
    (e e' : Value × Value) : Prop where
  key_eq : e'.1 = e.1
  unnamed : (∀ entry ∈ spec, ∀ n, entry.subject? = some n → e.1.text? ≠ some n) → e'.2 = e.2
  unhidden : (∀ n, .hide n ∈ spec → e.1.text? ≠ some n) → KeepsKind e.2 e'.2
  run : ∀ n, e.1.text? = some n → FrameRun w R (about spec n) e.2 e'.2

/-- What an object and its redacted copy have to do with each other: the copy is of the same
type and has the same slots in the same order, and whatever fits one of both fits the other. -/
structure Framed (w : Viewing) (R : Spec → Value → Value → Prop) (spec : Spec)
    (v r : Value) : Prop where
  typeOf_eq : r.typeOf = v.typeOf
  eq_withSlots : r = v.withSlots r.slots
  slots : v.hasFields = true → List.Forall₂ (SlotFramed w R spec) v.slots r.slots
  scalar : v.hasFields = false → r = v
  fits_iff : ∀ other, Fits w other r ↔ Fits w other v

/-- The frame law of redaction to some depth: the copy is of the same type, and framed if the
spec fits; of the parts of the object the same holds one level further down. -/
def FrameLaw (w : Viewing) : Nat → Spec → Value → Value → Prop
  | 0, _, _, _ => False
  | d + 1, spec, v, r =>
      r.typeOf = v.typeOf ∧ (Fits w spec v → Framed w (FrameLaw w d) spec v r)

namespace KeepsKind

theorem refl
    (x : Value) :
    KeepsKind x x where
  skipped _ := rfl
  typeOf_eq := rfl
  items xs hxs := ⟨xs, hxs, rfl⟩

theorem trans
    {x y z : Value}
    (hxy : KeepsKind x y)
    (hyz : KeepsKind y z) :
    KeepsKind x z where
  skipped := by
    intro hskip
    obtain rfl := hxy.skipped hskip
    exact hyz.skipped hskip
  typeOf_eq := hyz.typeOf_eq.trans hxy.typeOf_eq
  items := by
    intro xs hxs
    obtain ⟨ys, hys, hlength⟩ := hxy.items xs hxs
    obtain ⟨zs, hzs, hlength'⟩ := hyz.items ys hys
    exact ⟨zs, hzs, hlength'.trans hlength⟩

/-- What is done to a value that is not skipped, or to its items, keeps its kind if it keeps
types. -/
theorem of_each
    {R : Value → Value → Prop}
    (hR : ∀ x y, R x y → y.typeOf = x.typeOf)
    {x y : Value}
    (hskip : isSkipped x = false)
    (h : Each R x y) :
    KeepsKind x y where
  skipped := by
    intro hskipped
    rw [hskip] at hskipped
    cases hskipped
  typeOf_eq := by
    rcases h with ⟨_, hxy⟩ | ⟨_, _, _, _, htype, _⟩
    · exact hR x y hxy
    · exact htype
  items := by
    intro xs hxs
    rcases h with ⟨hnone, _⟩ | ⟨xs', ys, hxs', hys, _, hall⟩
    · rw [hxs] at hnone
      cases hnone
    · rw [hxs] at hxs'
      cases hxs'
      exact ⟨ys, hys, hall.length_eq.symm⟩

end KeepsKind

section Steps

variable {w : Viewing} {R : Spec → Value → Value → Prop}

/-- An entry that is no plain one keeps the kind of a value. -/
theorem FrameStep.keepsKind
    (hR : ∀ spec x y, R spec x y → y.typeOf = x.typeOf)
    {e : Entry}
    {x y : Value}
    (h : FrameStep w R e x y)
    (he : ∀ field, e ≠ .hide field) :
    KeepsKind x y := by
  cases h with
  | hide field =>
      exact absurd rfl (he field)
  | skipped =>
      exact .refl x
  | nested hskip heach =>
      exact .of_each (hR _) hskip heach
  | delegate hskip heach =>
      refine .of_each ?_ hskip heach
      rintro a b (⟨_, rfl⟩ | ⟨_, _, spec, _, hab⟩)
      · rfl
      · exact hR spec a b hab

/-- Entries without a plain one among them keep the kind of a value. -/
theorem FrameRun.keepsKind
    (hR : ∀ spec x y, R spec x y → y.typeOf = x.typeOf)
    {entries : Spec}
    {x y : Value}
    (h : FrameRun w R entries x y)
    (hentries : ∀ field, .hide field ∉ entries) :
    KeepsKind x y := by
  induction entries generalizing x with
  | nil =>
      obtain rfl := h
      exact .refl y
  | cons e entries ih =>
      obtain ⟨z, hstep, hrest⟩ := h
      have he : ∀ field, e ≠ .hide field := by
        rintro field rfl
        exact hentries field List.mem_cons_self
      exact (hstep.keepsKind hR he).trans
        (ih hrest fun field hfield => hentries field (List.mem_cons_of_mem _ hfield))

theorem each_of_redactEach
    {S : Value → Value → Prop}
    {f : Value → Run Value}
    (hf : ∀ x y, (f x).outcome = .ok y → S x y)
    {x y : Value}
    (h : (redactEach f x).outcome = .ok y) :
    Each S x y := by
  rcases redactEach_eq_ok h with ⟨hnone, hxy⟩ | ⟨xs, ys, hxs, hys, htype, hall⟩
  · exact Or.inl ⟨hnone, hf x y hxy⟩
  · exact Or.inr ⟨xs, ys, hxs, hys, htype, hall.imp hf⟩

end Steps

/-- What an entry about a name does to updates of own fields: it takes the value of the slot of
that name one step further and leaves all other slots alone. -/
structure Advances (w : Viewing) (R : Spec → Value → Value → Prop) (v : Value) (entry : Entry)
    (n : String) (updates result : Entries) : Prop where
  named : Entries.IsNamed v.HasOwn result
  step : v.hasFields = true → ∀ e ∈ v.slots, e.1.text? = some n →
    FrameStep w R entry (Entries.overlay updates e).2 (Entries.overlay result e).2
  frame : ∀ e ∈ v.slots, e.1.text? ≠ some n →
    Entries.overlay result e = Entries.overlay updates e

section Collecting

variable {w : Viewing} [w.env.HandlesUsually]
variable {R : Spec → Value → Value → Prop} {v : Value} {entry : Entry}
variable {n : String} {updates : Entries}
variable (hnodup : (Entries.names v.slots).Nodup) (hupdates : Entries.IsNamed v.HasOwn updates)

include hnodup in
/-- What is found for the name of a slot is its value after the updates. -/
theorem current?_of_mem_slots
    (hfields : v.hasFields = true)
    {e : Value × Value}
    (he : e ∈ v.slots)
    (hn : e.1.text? = some n) :
    current? w v updates n = some (Entries.overlay updates e).2 :=
  current?_eq_overlay updates (read?_of_mem_slots hfields hnodup he hn) hn

include hnodup in
theorem isSome_read?_of_hasOwn
    (hown : v.HasOwn n) :
    (w.read? v n).isSome = true := by
  obtain ⟨e, he, hn⟩ := List.mem_filterMap.mp hown.mem_names
  rw [read?_of_mem_slots hown.hasFields hnodup he hn]
  rfl

include hnodup hupdates

/-- Nothing is found for a name that reads nothing, as all updates are of own fields. -/
theorem current?_eq_none
    (hread : w.read? v n = none) :
    current? w v updates n = none := by
  have hnot : n ∉ Entries.names updates := by
    intro hmem
    obtain ⟨u, hu, hname⟩ := List.mem_filterMap.mp hmem
    obtain ⟨m, hm, hown⟩ := hupdates.texts u hu
    rw [hname] at hm
    cases hm
    have hsome := isSome_read?_of_hasOwn (w := w) hnodup hown
    rw [hread] at hsome
    cases hsome
  unfold current?
  rw [hread, Option.or_none]
  simpa [Entries.mem_names_iff] using hnot

/-- Updates that stay as they are, since the name reads nothing. -/
theorem Advances.of_absent
    (hread : w.read? v n = none) :
    Advances w R v entry n updates updates where
  named := hupdates
  step := by
    intro hfields e he hn
    rw [read?_of_mem_slots hfields hnodup he hn] at hread
    cases hread
  frame _ _ _ := rfl

/-- Updates that stay as they are, since the value is skipped. -/
theorem Advances.of_skipped
    (hentry : ∀ field, entry ≠ .hide field)
    (hskip : ∀ x, current? w v updates n = some x → isSkipped x = true) :
    Advances w R v entry n updates updates where
  named := hupdates
  step := by
    intro hfields e he hn
    exact .skipped hentry (hskip _ (current?_of_mem_slots hnodup hfields he hn))
  frame _ _ _ := rfl

/-- Updates in which the value of the name is set. -/
theorem Advances.of_set
    (hown : v.HasOwn n)
    {key : Value}
    (hkey : key.text? = some n)
    {x y : Value}
    (hx : current? w v updates n = some x)
    (hstep : FrameStep w R entry x y) :
    Advances w R v entry n updates (Entries.set updates key y) where
  named := hupdates.set hkey hown y
  step := by
    intro hfields e he hn
    rw [current?_of_mem_slots hnodup hfields he hn] at hx
    rw [overlay_set hkey hn, Option.some.inj hx]
    exact hstep
  frame := by
    intro e _ hne
    refine overlay_congr ?_
    intro m hm
    rw [Entries.getText?_set hkey, if_neg]
    rintro rfl
    exact hne hm

/-- Reworking a field advances its slot if what is done to the value is a step. -/
theorem Advances.of_redactField
    (hentry : ∀ field, entry ≠ .hide field)
    (hn : v.HasOwn n ∨ w.read? v n = none)
    {key : Value}
    (hkey : key.text? = some n)
    {f : Value → Run Value}
    (hstep : ∀ x y, isSkipped x = false → (redactEach f x).outcome = .ok y →
      FrameStep w R entry x y)
    {result : Entries}
    (h : (redactField w v updates key f).outcome = .ok result) :
    Advances w R v entry n updates result := by
  rcases redactField_eq_ok hkey h with ⟨rfl, hskip⟩ | ⟨x, y, hx, hskip, hy, rfl⟩
  · exact .of_skipped hnodup hupdates hentry hskip
  · rcases hn with hown | hread
    · exact .of_set hnodup hupdates hown hkey hx (hstep x y hskip hy)
    · rw [current?_eq_none hnodup hupdates hread] at hx
      cases hx

variable {again : Spec → Value → Run Value}
variable (hagain : ∀ spec x y, (again spec x).outcome = .ok y → R spec x y)
include hagain

/-- An entry that fits advances the slot that it is about. -/
theorem advances_of_applyEntry
    (hsubject : entry.subject? = some n)
    (hn : v.HasOwn n ∨ w.read? v n = none)
    {result : Entries}
    (h : (applyEntry w again v updates entry).outcome = .ok result) :
    Advances w R v entry n updates result := by
  cases entry with
  | hide field =>
      cases hsubject
      have hresult := applyEntry_hide_eq_ok h
      rcases hn with hown | hread
      · obtain ⟨e, he, hname⟩ := List.mem_filterMap.mp hown.mem_names
        have hx : current? w v updates n = some (Entries.overlay updates e).2 :=
          current?_of_mem_slots hnodup hown.hasFields he hname
        rw [isSome_read?_of_hasOwn hnodup hown, if_pos rfl] at hresult
        rw [hresult]
        exact .of_set hnodup hupdates hown rfl hx (.hide n _)
      · rw [hread] at hresult
        rw [hresult]
        exact .of_absent hnodup hupdates hread
  | nested key spec =>
      refine .of_redactField hnodup hupdates (by simp) hn hsubject ?_ h
      intro x y hskip hy
      exact .nested hskip (each_of_redactEach (hagain spec) hy)
  | delegate key type =>
      refine .of_redactField hnodup hupdates (by simp) hn hsubject ?_ h
      intro x y hskip hy
      refine .delegate hskip (each_of_redactEach ?_ hy)
      intro a b hab
      refine (delegateItem_eq_ok_iff.mp hab).imp id ?_
      rintro ⟨hskip, htype, spec, hspec, hb⟩
      exact ⟨hskip, htype, spec, hspec, hagain spec a b hb⟩
  | malformed failure =>
      cases hsubject

/-- A spec that fits takes the value of each slot through the run of the entries about it. -/
theorem frameRun_of_collect
    {spec : Spec}
    (hnamed : ∀ e ∈ spec, ∃ n, e.subject? = some n ∧ (v.HasOwn n ∨ w.read? v n = none))
    {result : Entries}
    (h : (collect w again v updates spec).outcome = .ok result) :
    Entries.IsNamed v.HasOwn result ∧
      (v.hasFields = true → ∀ e ∈ v.slots, ∀ n, e.1.text? = some n →
        FrameRun w R (about spec n) (Entries.overlay updates e).2
          (Entries.overlay result e).2) := by
  induction spec generalizing updates with
  | nil =>
      cases h
      exact ⟨hupdates, fun _ e _ n _ => rfl⟩
  | cons entry spec ih =>
      obtain ⟨between, hentry, hrest⟩ := collect_cons_eq_ok h
      obtain ⟨m, hsubject, hm⟩ := hnamed entry List.mem_cons_self
      have hadvances := advances_of_applyEntry hnodup hupdates hagain hsubject hm hentry
      obtain ⟨hresult, hrun⟩ :=
        ih hadvances.named (fun e he => hnamed e (List.mem_cons_of_mem _ he)) hrest
      refine ⟨hresult, ?_⟩
      intro hfields e he n hn
      have hlater := hrun hfields e he n hn
      by_cases hmn : m = n
      · subst hmn
        have habout : about (entry :: spec) m = entry :: about spec m := by
          simp [about, hsubject]
        rw [habout]
        exact ⟨_, hadvances.step hfields e he hn, hlater⟩
      · have habout : about (entry :: spec) n = about spec n := by
          simp [about, hsubject, hmn]
        have hne : e.1.text? ≠ some m := by
          rw [hn]
          rintro heq
          cases heq
          exact hmn rfl
        rw [habout, ← hadvances.frame e he hne]
        exact hlater

end Collecting

section Applying

variable {w : Viewing}

theorem typeOf_of_frameLaw
    {d : Nat}
    {spec : Spec}
    {v r : Value}
    (h : FrameLaw w d spec v r) :
    r.typeOf = v.typeOf := by
  cases d with
  | zero =>
      cases h
  | succ d =>
      exact h.1

/-- A slot and what updates put into it are framed if the value goes through the run of the
entries about the slot. -/
theorem slotFramed_overlay
    {R : Spec → Value → Value → Prop}
    (hR : ∀ spec x y, R spec x y → y.typeOf = x.typeOf)
    {spec : Spec}
    {updates : Entries}
    {e : Value × Value}
    (hrun : ∀ n, e.1.text? = some n →
      FrameRun w R (about spec n) e.2 (Entries.overlay updates e).2) :
    SlotFramed w R spec e (Entries.overlay updates e) where
  key_eq := rfl
  unnamed := by
    intro hunnamed
    cases hn : e.1.text? with
    | none =>
        simp [Entries.overlay, hn]
    | some n =>
        have hnone : about spec n = [] := by
          rw [about, List.filter_eq_nil_iff]
          intro entry hentry hsubject
          exact hunnamed entry hentry n (by simpa using hsubject) hn
        have hsame := hrun n hn
        rw [hnone] at hsame
        exact hsame
  unhidden := by
    intro hunhidden
    cases hn : e.1.text? with
    | none =>
        have hsame : Entries.overlay updates e = e := by
          simp [Entries.overlay, hn]
        rw [hsame]
        exact .refl e.2
    | some n =>
        refine (hrun n hn).keepsKind hR ?_
        intro field hfield
        obtain ⟨hmem, hsubject⟩ := List.mem_filter.mp hfield
        have hfieldName : field = n := by
          simpa [Entry.subject?] using hsubject
        exact hunhidden n (hfieldName ▸ hmem) hn
  run := hrun

variable [w.env.HandlesUsually]

/-- A copy of an object with some fields replaced is of the same type, whatever the fields. -/
theorem typeOf_of_mergeFields
    {v r : Value}
    {updates : Entries}
    (h : mergeFields v updates = .ok r) :
    r.typeOf = v.typeOf := by
  obtain ⟨es, rfl⟩ := exists_withSlots_of_mergeFields h
  exact v.typeOf_withSlots es

theorem apply_succ_eq_ok
    {d : Nat}
    {spec : Spec}
    {v r : Value}
    (h : (apply w (d + 1) spec v).outcome = .ok r) :
    ∃ updates, (collect w (apply w d) v [] spec).outcome = .ok updates ∧
      ((updates = [] ∧ r = v) ∨ mergeFields v updates = .ok r) := by
  rw [apply] at h
  obtain ⟨updates, hcollect, hresult⟩ := Run.outcome_bind_eq_ok_iff.mp h
  refine ⟨updates, hcollect, ?_⟩
  cases updates with
  | nil =>
      exact Or.inl ⟨rfl, (Except.ok.inj hresult).symm⟩
  | cons u updates =>
      exact Or.inr ((replaceFields_eq_mergeFields v (u :: updates)).symm.trans hresult)

/-- Updates of own fields are put into the slots of an object, and no slot is added. -/
theorem eq_withSlots_of_mergeFields
    {v r : Value}
    {updates : Entries}
    (hfields : v.hasFields = true)
    (hnodup : (Entries.names v.slots).Nodup)
    (hupdates : Entries.IsNamed v.HasOwn updates)
    (h : mergeFields v updates = .ok r) :
    r = v.withSlots (v.slots.map (Entries.overlay updates)) := by
  have hmerge : Entries.merge v.slots updates = v.slots.map (Entries.overlay updates) := by
    rw [Entries.merge_eq hupdates hnodup,
      Entries.others_eq_nil hupdates fun n hn => hn.mem_names, List.append_nil]
  by_cases hmap : ∃ t es, v = .map t es
  · obtain ⟨t, es, rfl⟩ := hmap
    cases h
    exact congrArg (Value.map t) hmerge
  · have hnames : Entries.IsNamed IsFieldName updates :=
      Entries.isNamed_imp hupdates fun n hn hdict => hmap (hn.isMap hdict)
    rw [mergeFields_eq_ok hfields hnames h, hmerge]

/-- What fits an object fits a copy of it that has the same keys. -/
theorem fits_withSlots_iff
    {v : Value}
    (hfields : v.hasFields = true)
    {es : Entries}
    (hnames : Entries.names (v.withSlots es).slots = Entries.names v.slots)
    (spec : Spec) :
    Fits w spec (v.withSlots es) ↔ Fits w spec v := by
  have hown : ∀ n, (v.withSlots es).HasOwn n ↔ v.HasOwn n := by
    intro n
    have hmap : (∃ t es', v.withSlots es = .map t es') ↔ ∃ t es', v = .map t es' := by
      cases v <;> simp [Value.withSlots]
    constructor
    · rintro ⟨_, hmem, hdict⟩
      exact ⟨hfields, hnames ▸ hmem, fun h => hmap.mp (hdict h)⟩
    · rintro ⟨_, hmem, hdict⟩
      refine ⟨?_, hnames ▸ hmem, fun h => hmap.mpr (hdict h)⟩
      rw [Value.hasFields_withSlots, hfields]
  have hread : ∀ n, w.read? (v.withSlots es) n = none ↔ w.read? v n = none := by
    intro n
    have hcopy : (v.withSlots es).hasFields = true := by
      rw [Value.hasFields_withSlots, hfields]
    have hslot :
        Entries.getText? (v.withSlots es).slots n = none ↔ Entries.getText? v.slots n = none := by
      rw [← Option.not_isSome_iff_eq_none, ← Option.not_isSome_iff_eq_none,
        ← Entries.mem_names_iff, ← Entries.mem_names_iff, hnames]
    have htype : (v.withSlots es).typeMember? n = none ↔ v.typeMember? n = none := by
      rw [← Option.not_isSome_iff_eq_none, ← Option.not_isSome_iff_eq_none,
        Value.isSome_typeMember?_withSlots]
    rw [w.read?_eq_or hcopy, w.read?_eq_or hfields, Environment.field?, Environment.field?,
      if_pos hcopy, if_pos hfields, Environment.sharedField?_withSlots]
    simp only [Option.or_eq_none_iff, hslot, htype]
  constructor
  · rintro ⟨hnodup, hnamed⟩
    refine ⟨hnames ▸ hnodup, ?_⟩
    intro e he
    obtain ⟨n, hsubject, hn⟩ := hnamed e he
    exact ⟨n, hsubject, hn.imp (hown n).mp (hread n).mp⟩
  · rintro ⟨hnodup, hnamed⟩
    refine ⟨hnames ▸ hnodup, ?_⟩
    intro e he
    obtain ⟨n, hsubject, hn⟩ := hnamed e he
    exact ⟨n, hsubject, hn.imp (hown n).mpr (hread n).mpr⟩

/-- A spec that fits frames the object that it is applied to. -/
theorem framed_of_apply_succ
    {d : Nat}
    {R : Spec → Value → Value → Prop}
    (hR : ∀ spec x y, R spec x y → y.typeOf = x.typeOf)
    (hagain : ∀ spec x y, (apply w d spec x).outcome = .ok y → R spec x y)
    {spec : Spec}
    {v r : Value}
    (hfits : Fits w spec v)
    (h : (apply w (d + 1) spec v).outcome = .ok r) :
    Framed w R spec v r := by
  obtain ⟨updates, hcollect, hresult⟩ := apply_succ_eq_ok h
  obtain ⟨hupdates, hrun⟩ :=
    frameRun_of_collect hfits.nodup Entries.isNamed_nil hagain hfits.named hcollect
  cases hfields : v.hasFields with
  | false =>
      have hsame : r = v := by
        rcases hresult with ⟨_, hsame⟩ | hreplace
        · exact hsame
        · exact mergeFields_of_not_hasFields hfields hreplace
      rw [hsame]
      refine ⟨rfl, v.withSlots_slots.symm, ?_, fun _ => rfl, fun _ => Iff.rfl⟩
      intro htrue
      rw [hfields] at htrue
      cases htrue
  | true =>
      have hcopy : r = v.withSlots (v.slots.map (Entries.overlay updates)) := by
        rcases hresult with ⟨rfl, rfl⟩ | hreplace
        · rw [List.map_congr_left fun e _ => Entries.overlay_nil e, List.map_id',
            Value.withSlots_slots]
        · exact eq_withSlots_of_mergeFields hfields hfits.nodup hupdates hreplace
      have hslots : r.slots = v.slots.map (Entries.overlay updates) := by
        rw [hcopy, Value.slots_withSlots_overlay hfields]
      refine ⟨?_, ?_, ?_, ?_, ?_⟩
      · rw [hcopy, Value.typeOf_withSlots]
      · rw [hslots]
        exact hcopy
      · intro _
        rw [hslots, List.forall₂_map_right_iff, List.forall₂_same]
        intro e he
        refine slotFramed_overlay hR ?_
        intro n hn
        have hslot := hrun hfields e he n hn
        rw [Entries.overlay_nil] at hslot
        exact hslot
      · intro hfalse
        rw [hfields] at hfalse
        cases hfalse
      · intro other
        have hnames : Entries.names r.slots = Entries.names v.slots := by
          rw [hslots, Entries.names, List.filterMap_map]
          rfl
        rw [hcopy] at hnames ⊢
        exact fits_withSlots_iff hfields hnames other

/-- Applying a spec obeys the frame law, at every depth. -/
theorem frameLaw_of_apply
    {d : Nat}
    {spec : Spec}
    {v r : Value}
    (h : (apply w d spec v).outcome = .ok r) :
    FrameLaw w d spec v r := by
  induction d generalizing spec v r with
  | zero =>
      cases h
  | succ d ih =>
      constructor
      · obtain ⟨updates, _, ⟨_, rfl⟩ | hreplace⟩ := apply_succ_eq_ok h
        · rfl
        · exact typeOf_of_mergeFields hreplace
      · intro hfits
        exact framed_of_apply_succ (fun _ _ _ => typeOf_of_frameLaw) (fun _ _ _ => ih) hfits h

end Applying

section Drafts

/-- A type of forms, which are records of a title. -/
def formType : TypeRef :=
  .declared "Form" .record ["title"] none false (.builtin .object)

/-- A type of drafts, which are forms that may have members beside their title. -/
def draftType : TypeRef :=
  .declared "Draft" .plain [] none true formType

/-- Someone looks at drafts, with given entries as their spec.  The notes of all drafts without
one are a dash. -/
def draftViewing (entries : List Value) : Viewing :=
  let w := Viewing.ofType draftType entries [("note", .text "-")]
  { w with env := w.env.withDerivedRecords }

def draft (note : Value) : Value :=
  .entity 0 draftType [("title", .int 1), ("note", note)]

end Drafts

end Redaction
end AccessPolicy
