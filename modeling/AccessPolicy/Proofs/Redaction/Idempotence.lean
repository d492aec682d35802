import AccessPolicy.Proofs.Redaction.Frame

/-!
# Redaction done twice

Redaction of a redacted copy gives the copy back.

**One entry a field.**  A spec that names each field at most once takes the value of a field
through one step only (`getText?_of_collect`), so what the copy has in a field is what one entry
put there.

**Second pass.**  An entry finds in the copy what it put there itself, and does the same to it
again (`applyEntry_again`): the marker is put in place of the marker, and a part that was
redacted is redacted to itself.  So the updates of the second pass are among those of the first
(`collect_again`), and putting them into the copy changes nothing (`mergeFields_again`).

**Parts.**  That parts are redacted to themselves is what is to be shown for the next depth;
`Settles` says it of an operation, and goes through delegation and lists.
-/

namespace AccessPolicy

namespace Entries

/-- Setting a name to the value that it has changes nothing. -/
theorem set_eq_self
    {key value : Value}
    {n : String}
    (hkey : key.text? = some n)
    {es : Entries}
    (h : getText? es n = some value) :
    Entries.set es key value = es := by
  induction es with
  | nil =>
      simp [getText?, get?] at h
  | cons e es ih =>
      obtain ⟨k, v⟩ := e
      rw [getText?_cons] at h
      rw [set_cons hkey]
      by_cases hk : k.text? = some n
      · rw [if_pos hk] at h ⊢
        rw [Option.some.inj h]
      · rw [if_neg hk] at h ⊢
        rw [ih h]

/-- The values of some entries are those of others. -/
def Within (less more : Entries) : Prop :=
  ∀ n y, getText? less n = some y → getText? more n = some y

theorem Within.set
    {less more : Entries}
    (h : Within less more)
    {key : Value}
    {n : String}
    (hkey : key.text? = some n)
    (value : Value) :
    Within (Entries.set less key value) (Entries.set more key value) := by
  intro m y hy
  rw [getText?_set hkey] at hy ⊢
  split
  · rename_i hm
    rw [if_pos hm] at hy
    exact hy
  · rename_i hm
    rw [if_neg hm] at hy
    exact h m y hy

theorem Within.set_right
    {less more : Entries}
    (h : Within less more)
    {key : Value}
    {n : String}
    (hkey : key.text? = some n)
    (hfresh : getText? less n = none)
    (value : Value) :
    Within less (Entries.set more key value) := by
  intro m y hy
  rw [getText?_set hkey, if_neg]
  · exact h m y hy
  · rintro rfl
    rw [hfresh] at hy
    cases hy

/-- Putting entries into others that have their values changes nothing. -/
theorem merge_eq_self
    {P : String → Prop}
    {more es : Entries}
    (hmore : IsNamed P more)
    (h : Within more es) :
    merge es more = es := by
  induction more with
  | nil =>
      rfl
  | cons e more ih =>
      obtain ⟨k, v⟩ := e
      obtain ⟨m, hm, _, hnot, hrest⟩ := isNamed_cons_iff.mp hmore
      have hstep : merge es ((k, v) :: more) = merge (Entries.set es k v) more := rfl
      have hvalue : getText? es m = some v := h m v (by rw [getText?_cons, if_pos hm])
      rw [hstep, set_eq_self hm hvalue]
      refine ih hrest ?_
      intro n y hy
      refine h n y ?_
      rw [getText?_cons, if_neg ?_, hy]
      rintro hk
      rw [hm] at hk
      cases hk
      exact hnot (mem_names_iff.mpr (by rw [hy]; rfl))

end Entries

namespace Redaction

namespace Entry

mutual

/-- Whether the specs inside of an entry name each field at most once. -/
def NamesOnce : Entry → Prop
  | .nested _ spec => AllNameOnce spec
  | _ => True

/-- Whether a spec and all those inside of it name each field at most once. -/
def AllNameOnce : List Entry → Prop
  | [] => True
  | e :: rest =>
      (∀ n, e.subject? = some n → n ∉ rest.filterMap subject?) ∧ NamesOnce e ∧ AllNameOnce rest

end

theorem mem_subjects_cons_iff
    {e : Entry}
    {spec : Spec}
    {n : String} :
    n ∈ (e :: spec).filterMap subject?
      ↔
    e.subject? = some n ∨ n ∈ spec.filterMap subject? := by
  simp only [List.mem_filterMap, List.exists_mem_cons_iff]

end Entry

/-- Whether the specs that callbacks give name each field at most once. -/
def Viewing.CallbacksNameOnce (w : Viewing) : Prop :=
  ∀ v spec, (w.specOf v).outcome = .ok spec → Entry.AllNameOnce spec

/-- Whether no spec that a callback gives is about the member through which it is asked. -/
def Viewing.CallbacksStay (w : Viewing) : Prop :=
  ∀ v spec, (w.specOf v).outcome = .ok spec → callbackName ∉ spec.filterMap Entry.subject?

/-- A value of the same type that can be asked gives the same spec, if specs depend on types
only. -/
theorem Viewing.SpecsByType.specOf_eq_ok
    {w : Viewing}
    (hspecs : w.SpecsByType)
    {v v' : Value}
    (htype : v'.typeOf = v.typeOf)
    (hhides : hidesCallback w.env v' = false)
    {spec : Spec}
    (h : (w.specOf v).outcome = .ok spec) :
    (w.specOf v').outcome = .ok spec := by
  rw [← Viewing.callbackSpec_eq hhides, hspecs v v' htype, Viewing.callbackSpec_of_specOf h]

/-- An operation that gives its results back if it is done to them, and keeps types and
items. -/
structure Settles (f : Value → Run Value) : Prop where
  again : ∀ x y, (f x).outcome = .ok y → (f y).outcome = .ok y
  typeOf_eq : ∀ x y, (f x).outcome = .ok y → y.typeOf = x.typeOf
  items?_eq : ∀ x y, (f x).outcome = .ok y → y.items? = x.items?

section Parts

/-- An operation on each item gives its results back if the operation on an item does. -/
theorem redactEach_again
    {f : Value → Run Value}
    (hf : Settles f)
    {x y : Value}
    (h : (redactEach f x).outcome = .ok y) :
    (redactEach f y).outcome = .ok y := by
  have hitems :
      ∀ xs ys, (Run.forEach f xs).outcome = .ok ys → (Run.forEach f ys).outcome = .ok ys := by
    intro xs ys h
    rw [Run.outcome_forEach_eq_ok_iff] at h ⊢
    induction h with
    | nil =>
        exact .nil
    | cons hab _ ih =>
        exact .cons (hf.again _ _ hab) ih
  cases x with
  | list xs =>
      obtain ⟨ys, hys, rfl⟩ := Run.outcome_map_eq_ok_iff.mp h
      exact Run.outcome_map_eq_ok_iff.mpr ⟨ys, hitems xs ys hys, rfl⟩
  | tuple xs =>
      obtain ⟨ys, hys, rfl⟩ := Run.outcome_map_eq_ok_iff.mp h
      exact Run.outcome_map_eq_ok_iff.mpr ⟨ys, hitems xs ys hys, rfl⟩
  | _ =>
      have hnone := hf.items?_eq _ _ h
      have hsame : redactEach f y = f y := by
        cases y with
        | list ys =>
            cases hnone
        | tuple ys =>
            cases hnone
        | _ =>
            rfl
      rw [hsame]
      exact hf.again _ _ h

variable {w : Viewing} {again : Spec → Value → Run Value}

/-- What is left to callbacks settles if specs depend on types only, and if what callbacks were
asked about can be asked again. -/
theorem settles_delegateItem
    (hspecs : w.SpecsByType)
    (hcallbacks : w.CallbacksNameFields)
    (honce : w.CallbacksNameOnce)
    (hstays :
      ∀ x y spec, (w.specOf x).outcome = .ok spec → (again spec x).outcome = .ok y →
        hidesCallback w.env y = false)
    (hagain : ∀ spec, Entry.AllNameFields spec → Entry.AllNameOnce spec → Settles (again spec))
    (key : Value)
    (type : TypeRef) :
    Settles (delegateItem w again key type) := by
  have hsettles :
      ∀ x spec, (w.specOf x).outcome = .ok spec → Settles (again spec) := by
    intro x spec hspec
    exact hagain spec (hcallbacks x spec hspec) (honce x spec hspec)
  refine ⟨?_, ?_, ?_⟩
  · intro x y h
    rw [delegateItem_eq_ok_iff]
    rcases delegateItem_eq_ok_iff.mp h with ⟨hskip, rfl⟩ | ⟨_, htype, spec, hspec, hy⟩
    · exact Or.inl ⟨hskip, rfl⟩
    · have hsame := (hsettles x spec hspec).typeOf_eq x y hy
      cases hskip : isSkipped y with
      | true =>
          exact Or.inl ⟨rfl, rfl⟩
      | false =>
          refine Or.inr ⟨rfl, ?_, spec, ?_, (hsettles x spec hspec).again x y hy⟩
          · rw [Value.isInstance, hsame]
            exact htype
          · exact hspecs.specOf_eq_ok hsame (hstays x y spec hspec hy) hspec
  · intro x y h
    rcases delegateItem_eq_ok_iff.mp h with ⟨_, rfl⟩ | ⟨_, _, spec, hspec, hy⟩
    · rfl
    · exact (hsettles x spec hspec).typeOf_eq x y hy
  · intro x y h
    rcases delegateItem_eq_ok_iff.mp h with ⟨_, rfl⟩ | ⟨_, _, spec, hspec, hy⟩
    · rfl
    · exact (hsettles x spec hspec).items?_eq x y hy

end Parts

/-- What a copy of an object has under a name after some updates: the new value, or else
something that is skipped if that of the object is. -/
structure CopyReads (w : Viewing) (v r : Value) (updates : Entries) (n : String) : Prop where
  updated : ∀ y, Entries.getText? updates n = some y → w.read? r n = some y
  kept : Entries.getText? updates n = none →
    (w.read? r n).map isSkipped = (w.read? v n).map isSkipped

theorem CopyReads.of_getText?_eq
    {w : Viewing}
    {v r : Value}
    {updates updates' : Entries}
    {n : String}
    (h : CopyReads w v r updates n)
    (hsame : Entries.getText? updates n = Entries.getText? updates' n) :
    CopyReads w v r updates' n where
  updated := by
    rw [← hsame]
    exact h.updated
  kept := by
    rw [← hsame]
    exact h.kept

/-- A copy of an object has the values that were put into it. -/
theorem copyReads_withSlots
    {w : Viewing}
    [w.env.HandlesUsually]
    {v : Value}
    {updates : Entries}
    (hfields : v.hasFields = true)
    (hupdates : Entries.IsNamed IsFieldName updates)
    (n : String) :
    CopyReads w v (v.withSlots (Entries.merge v.slots updates)) updates n := by
  have hcopy : (v.withSlots (Entries.merge v.slots updates)).hasFields = true := by
    rw [Value.hasFields_withSlots, hfields]
  have hread := w.read?_eq_or hcopy n
  rw [field?_of_apply hfields hupdates] at hread
  constructor
  · intro y hy
    rw [hread, hy]
    rfl
  · intro hnone
    rw [hread, hnone, w.read?_eq_or hfields, Option.none_or, Option.map_or, Option.map_or,
      Value.map_isSkipped_typeMember?_withSlots]

section Entries

variable {w : Viewing} {again : Spec → Value → Run Value} {v r : Value}
variable [w.env.HandlesUsually]
variable {updates updates' result : Entries}

/-- An entry changes the update of no field but its own. -/
theorem getText?_of_applyEntry
    {e : Entry}
    (hnames : e.NamesFields)
    {n : String}
    (hne : e.subject? ≠ some n)
    (h : (applyEntry w again v updates e).outcome = .ok result) :
    Entries.getText? result n = Entries.getText? updates n := by
  cases e with
  | hide field =>
      rw [applyEntry_hide_eq_ok h]
      split
      · rw [Entries.getText?_set rfl, if_neg]
        rintro rfl
        exact hne rfl
      · rfl
  | nested key spec =>
      obtain ⟨⟨m, hkey, _⟩, _⟩ := hnames
      refine getText?_of_sets hkey (sets_of_redactField hkey h).1 ?_
      rintro rfl
      exact hne hkey
  | delegate key type =>
      obtain ⟨m, hkey, _⟩ := hnames
      refine getText?_of_sets hkey (sets_of_redactField hkey h).1 ?_
      rintro rfl
      exact hne hkey
  | malformed failure =>
      cases h

/-- A spec changes the updates of no fields but those that it names. -/
theorem getText?_of_collect
    {spec : Spec}
    (hnames : Entry.AllNameFields spec)
    {n : String}
    (hne : n ∉ spec.filterMap Entry.subject?)
    (h : (collect w again v updates spec).outcome = .ok result) :
    Entries.getText? result n = Entries.getText? updates n := by
  induction spec generalizing updates with
  | nil =>
      cases h
      rfl
  | cons e spec ih =>
      obtain ⟨between, hentry, hrest⟩ := collect_cons_eq_ok h
      obtain ⟨he, hspec⟩ := not_or.mp (mt Entry.mem_subjects_cons_iff.mpr hne)
      rw [ih hnames.2 hspec hrest, getText?_of_applyEntry hnames.1 he hentry]

/-- Reworking the field of a copy sets it to what it was set to before, or leaves it alone. -/
theorem redactField_again
    {key : Value}
    {n : String}
    (hkey : key.text? = some n)
    {f : Value → Run Value}
    (hf : ∀ x y, (redactEach f x).outcome = .ok y → (redactEach f y).outcome = .ok y)
    (hfresh : Entries.getText? updates n = none)
    (hwithin : Entries.Within updates' updates)
    (h : (redactField w v updates key f).outcome = .ok result)
    (hreads : CopyReads w v r result n) :
    ∃ result', (redactField w r updates' key f).outcome = .ok result' ∧
      Entries.Within result' result := by
  have hfresh' : Entries.getText? updates' n = none := by
    cases hvalue : Entries.getText? updates' n with
    | none =>
        rfl
    | some y =>
        rw [hwithin n y hvalue] at hfresh
        cases hfresh
  have hcurrent : current? w v updates n = w.read? v n := by
    rw [current?, hfresh, Option.none_or]
  have hfound : fieldValue w r updates' key = .ok (w.read? r n) := by
    rw [fieldValue_of_text? hkey, current?, hfresh', Option.none_or]
  have hstep :
      ∀ {result'}, FieldStep f updates' key (w.read? r n) result' →
        (redactField w r updates' key f).outcome = .ok result' := by
    intro result' hstep
    exact redactField_eq_ok_iff.mpr ⟨Value.isKey_of_text? hkey, _, hfound, hstep⟩
  rcases redactField_eq_ok hkey h with ⟨rfl, hskip⟩ | ⟨x, y, hx, hskip, hy, rfl⟩
  · -- The field of the object was left alone, and so is that of the copy.
    refine ⟨updates', hstep ?_, hwithin⟩
    have hkept := hreads.kept hfresh
    rw [hcurrent] at hskip
    cases hread : w.read? r n with
    | none =>
        exact .absent
    | some x =>
        rw [hread] at hkept
        obtain ⟨x', hx', hsame⟩ := Option.map_eq_some_iff.mp hkept.symm
        exact .skipped (hsame ▸ hskip x' hx')
  · -- The copy has what the field was set to.
    have hread : w.read? r n = some y := by
      refine hreads.updated y ?_
      rw [Entries.getText?_set hkey, if_pos rfl]
    rw [hread] at hstep
    cases hskipped : isSkipped y with
    | true =>
        exact ⟨updates', hstep (.skipped hskipped), hwithin.set_right hkey hfresh' y⟩
    | false =>
        exact ⟨_, hstep (.replaced hskipped (hf x y hy)), hwithin.set hkey y⟩

variable (hspecs : w.SpecsByType) (hcallbacks : w.CallbacksNameFields)
variable (honce : w.CallbacksNameOnce)
variable (hstays : ∀ x y spec, (w.specOf x).outcome = .ok spec → (again spec x).outcome = .ok y →
  hidesCallback w.env y = false)
variable (hagain : ∀ spec, Entry.AllNameFields spec → Entry.AllNameOnce spec → Settles (again spec))
include hspecs hcallbacks honce hstays hagain

/-- An entry does to a copy what it did to the object, as far as it is still to be done. -/
theorem applyEntry_again
    {e : Entry}
    (hnames : e.NamesFields)
    (hnamesOnce : e.NamesOnce)
    (hfresh : ∀ n, e.subject? = some n → Entries.getText? updates n = none)
    (hwithin : Entries.Within updates' updates)
    (h : (applyEntry w again v updates e).outcome = .ok result)
    (hreads : ∀ n, e.subject? = some n → CopyReads w v r result n) :
    ∃ result', (applyEntry w again r updates' e).outcome = .ok result' ∧
      Entries.Within result' result := by
  cases e with
  | hide field =>
      have hcopy := hreads field rfl
      rw [outcome_applyEntry_hide] at h
      refine ⟨_, outcome_applyEntry_hide updates' field, ?_⟩
      cases hread : w.read? v field with
      | none =>
          rw [hread] at h
          cases h
          have hnone : w.read? r field = none := by
            simpa [hread] using hcopy.kept (hfresh field rfl)
          rw [hnone]
          exact hwithin
      | some x =>
          rw [hread] at h
          cases h
          have hmarker : w.read? r field = some w.marker := by
            refine hcopy.updated w.marker ?_
            have htext : (Value.text field).text? = some field := rfl
            rw [Option.isSome_some, if_pos rfl, Entries.getText?_set htext, if_pos rfl]
          rw [hmarker]
          exact hwithin.set rfl w.marker
  | nested key spec =>
      obtain ⟨⟨n, hkey, _⟩, hspec⟩ := hnames
      exact redactField_again hkey (fun _ _ => redactEach_again (hagain spec hspec hnamesOnce))
        (hfresh n hkey) hwithin h (hreads n hkey)
  | delegate key type =>
      obtain ⟨n, hkey, _⟩ := hnames
      have hsettles := settles_delegateItem hspecs hcallbacks honce hstays hagain key type
      exact redactField_again hkey (fun _ _ => redactEach_again hsettles)
        (hfresh n hkey) hwithin h (hreads n hkey)
  | malformed failure =>
      cases h

/-- A spec that names each field once does to a copy what it did to the object, as far as it is
still to be done. -/
theorem collect_again
    {spec : Spec}
    (hnames : Entry.AllNameFields spec)
    (hnamesOnce : Entry.AllNameOnce spec)
    (hfresh : ∀ n ∈ spec.filterMap Entry.subject?, Entries.getText? updates n = none)
    (hwithin : Entries.Within updates' updates)
    (h : (collect w again v updates spec).outcome = .ok result)
    (hreads : ∀ n, CopyReads w v r result n) :
    ∃ result', (collect w again r updates' spec).outcome = .ok result' ∧
      Entries.Within result' result := by
  induction spec generalizing updates updates' with
  | nil =>
      cases h
      exact ⟨updates', rfl, hwithin⟩
  | cons e spec ih =>
      obtain ⟨hother, he, hspec⟩ := hnamesOnce
      obtain ⟨between, hentry, hrest⟩ := collect_cons_eq_ok h
      have hfresh' :
          ∀ n ∈ spec.filterMap Entry.subject?, Entries.getText? between n = none := by
        intro n hn
        rw [getText?_of_applyEntry hnames.1 (fun hsubject => hother n hsubject hn) hentry]
        exact hfresh n (Entry.mem_subjects_cons_iff.mpr (Or.inr hn))
      have hcopy : ∀ n, e.subject? = some n → CopyReads w v r between n := by
        intro n hsubject
        exact (hreads n).of_getText?_eq
          (getText?_of_collect hnames.2 (hother n hsubject) hrest)
      obtain ⟨between', hentry', hbetween⟩ :=
        applyEntry_again hspecs hcallbacks honce hstays hagain hnames.1 he
          (fun n hsubject => hfresh n (Entry.mem_subjects_cons_iff.mpr (Or.inl hsubject)))
          hwithin hentry hcopy
      obtain ⟨result', hrest', hresult⟩ := ih hnames.2 hspec hfresh' hbetween hrest
      refine ⟨result', ?_, hresult⟩
      rw [collect]
      exact Run.outcome_bind_eq_ok_iff.mpr ⟨between', hentry', hrest'⟩

end Entries

section Copies

/-- A name that can be set for one value can be set for any. -/
theorem setMember_eq_ok_of_isFieldName
    {fields result : Fields}
    {name : String}
    {value : Value}
    (hname : IsFieldName name)
    (h : Fields.setMember fields name value = .ok result)
    (fields' : Fields)
    (value' : Value) :
    Fields.setMember fields' name value' = .ok (Fields.set fields' name value') := by
  unfold Fields.setMember at h ⊢
  split at h
  · cases h
  · exact absurd rfl hname
  · exact absurd rfl hname
  · cases h
  · split
    · contradiction
    · exact absurd rfl hname
    · exact absurd rfl hname
    · contradiction
    · rfl

/-- Members whose names were set before can be set again. -/
theorem foldlM_setMember_again
    {named named' fields result : Fields}
    (hnamed : ∀ u ∈ named, IsFieldName u.1)
    (h : named.foldlM (fun fs u => Fields.setMember fs u.1 u.2) fields = .ok result)
    (hsub : ∀ u' ∈ named', ∃ u ∈ named, u.1 = u'.1)
    (fields' : Fields) :
    named'.foldlM (fun fs u => Fields.setMember fs u.1 u.2) fields' =
      .ok (Fields.merge fields' named') := by
  have hset :
      ∀ u ∈ named, ∀ fs y, Fields.setMember fs u.1 y = .ok (Fields.set fs u.1 y) := by
    clear hsub
    induction named generalizing fields with
    | nil =>
        simp
    | cons u named ih =>
        rw [List.foldlM_cons, except_bind_eq_ok_iff] at h
        obtain ⟨between, hu, hrest⟩ := h
        intro u' hu'
        rcases List.mem_cons.mp hu' with rfl | hu'
        · exact setMember_eq_ok_of_isFieldName (hnamed u' List.mem_cons_self) hu
        · exact ih (fun u hu => hnamed u (List.mem_cons_of_mem _ hu)) hrest u' hu'
  clear h
  induction named' generalizing fields' with
  | nil =>
      rfl
  | cons u' named' ih =>
      obtain ⟨u, hu, hname⟩ := hsub u' List.mem_cons_self
      have hstep := hset u hu fields' u'.2
      rw [hname] at hstep
      rw [List.foldlM_cons, hstep]
      exact ih (fun u hu => hsub u (List.mem_cons_of_mem _ hu)) _

/-- A named update is an update of its name. -/
theorem getText?_of_mem_namedUpdates
    {P : String → Prop}
    {updates : Entries}
    (hupdates : Entries.IsNamed P updates)
    {u : String × Value}
    (hu : u ∈ namedUpdates updates) :
    Entries.getText? updates u.1 = some u.2 := by
  obtain ⟨e, he, hn⟩ := List.mem_filterMap.mp hu
  obtain ⟨n, htext, heq⟩ := Option.map_eq_some_iff.mp hn
  cases heq
  exact Entries.getText?_of_mem hupdates.nodup he htext

variable {v r : Value} {updates updates' : Entries}

/-- Putting updates into a copy that has them already gives the copy back. -/
theorem mergeFields_again
    (hfields : v.hasFields = true)
    (hupdates : Entries.IsNamed IsFieldName updates)
    (hupdates' : Entries.IsNamed IsFieldName updates')
    (hwithin : Entries.Within updates' updates)
    (h : mergeFields v updates = .ok r) :
    mergeFields r updates' = .ok r := by
  have hr := mergeFields_eq_ok hfields hupdates h
  have hslots : Entries.Within updates' r.slots := by
    intro n y hy
    rw [hr, Value.getText?_slots_withSlots hfields, Entries.getText?_merge hupdates,
      hwithin n y hy]
    rfl
  have hmerge : Entries.merge r.slots updates' = r.slots :=
    Entries.merge_eq_self hupdates' hslots
  have hnamed :
      ∀ fields, r.slots = Value.textEntries fields →
        Fields.merge fields (namedUpdates updates') = fields := by
    intro fields hslotsEq
    have hsame := congrArg namedUpdates hmerge
    rw [namedUpdates_merge hupdates', hslotsEq, namedUpdates_textEntries] at hsame
    exact hsame
  cases v with
  | map t entries =>
      cases h
      exact congrArg (fun es => Except.ok (Value.map t es)) hmerge
  | object t fields =>
      unfold mergeFields at h
      simp only at h
      split at h
      · cases h
      · cases h
        have hdeclared :
            (namedUpdates updates').any
              (fun u => (Fields.get? (Fields.merge fields (namedUpdates updates)) u.1).isNone) =
              false := by
          rw [List.any_eq_false]
          intro u hu
          have hvalue := hslots u.1 u.2 (getText?_of_mem_namedUpdates hupdates' hu)
          rw [Value.slots, getText?_textEntries] at hvalue
          simp [hvalue]
        unfold mergeFields
        simp only [hdeclared, Bool.and_false, Bool.false_eq_true, if_false]
        rw [hnamed _ rfl]
  | entity i t fields =>
      obtain ⟨fields', hset, rfl⟩ := except_map_eq_ok_iff.mp h
      have hsub :
          ∀ u' ∈ namedUpdates updates', ∃ u ∈ namedUpdates updates, u.1 = u'.1 := by
        intro u' hu'
        have hvalue := hwithin u'.1 u'.2 (getText?_of_mem_namedUpdates hupdates' hu')
        rw [← get?_namedUpdates] at hvalue
        obtain ⟨u, hfind, _⟩ := Option.map_eq_some_iff.mp hvalue
        exact ⟨u, List.mem_of_find?_eq_some hfind, by simpa using List.find?_some hfind⟩
      have hagain :=
        foldlM_setMember_again
          (fun u hu => isFieldName_of_mem_namedUpdates hupdates hu) hset hsub fields'
      refine except_map_eq_ok_iff.mpr ⟨fields', ?_, rfl⟩
      rw [hagain, hnamed _ rfl]
  | module r' members =>
      have hform : r'.form = .objectForm := by
        simpa [Value.hasFields] using hfields
      unfold mergeFields at h
      simp only [hform] at h
      cases h
      unfold mergeFields
      simp only [hform]
      rw [hnamed _ rfl]
  | _ =>
      cases hfields

end Copies

section Asking

/-- Putting values into slots puts no member in the place of a callback, unless one is for it. -/
theorem hidesCallback_withSlots
    {env : Environment}
    {v : Value}
    {updates : Entries}
    (hfields : v.hasFields = true)
    (hupdates : Entries.IsNamed IsFieldName updates)
    (hnone : Entries.getText? updates callbackName = none) :
    hidesCallback env (v.withSlots (Entries.merge v.slots updates)) = hidesCallback env v := by
  have hmembers :
      ∀ fields : Fields,
        Fields.get? (namedUpdates (Entries.merge (Value.textEntries fields) updates))
            callbackName =
          Fields.get? fields callbackName := by
    intro fields
    rw [get?_namedUpdates, Entries.getText?_merge hupdates, hnone, Option.none_or,
      getText?_textEntries]
  cases v with
  | map t es =>
      rfl
  | object t fields =>
      exact congrArg ((ownCallback? env t).isSome && ·.isSome) (hmembers fields)
  | entity i t fields =>
      exact congrArg ((ownCallback? env t).isSome && ·.isSome) (hmembers fields)
  | module r members =>
      exact congrArg
        (fun x : Option Value =>
          (ownCallback? env (Value.module r members).typeOf).isSome &&
            (r.form == .objectForm && x.isSome))
        (hmembers members)
  | _ =>
      cases hfields

/-- A spec that is not about the member in the place of a callback does not put one there. -/
theorem hidesCallback_of_apply
    {w : Viewing}
    [w.env.HandlesUsually]
    {depth : Nat}
    {spec : Spec}
    {v r : Value}
    (hnames : Entry.AllNameFields spec)
    (hstays : callbackName ∉ spec.filterMap Entry.subject?)
    (h : (apply w depth spec v).outcome = .ok r) :
    hidesCallback w.env r = hidesCallback w.env v := by
  obtain ⟨_, updates, _, hcollect, hupdates, hr⟩ := apply_eq_ok hnames h
  rw [hr]
  split
  · rename_i hfields
    exact hidesCallback_withSlots hfields hupdates (getText?_of_collect hnames hstays hcollect)
  · rfl

end Asking

section Twice

variable {w : Viewing}
variable [w.env.HandlesUsually]
variable (hspecs : w.SpecsByType) (hcallbacks : w.CallbacksNameFields)
variable (honce : w.CallbacksNameOnce) (hstay : w.CallbacksStay)
include hcallbacks hstay

/-- An object that was redacted by its callback can be asked again. -/
theorem hidesCallback_of_specOf_apply
    {depth : Nat}
    {x y : Value}
    {spec : Spec}
    (hspec : (w.specOf x).outcome = .ok spec)
    (h : (apply w depth spec x).outcome = .ok y) :
    hidesCallback w.env y = false := by
  rw [hidesCallback_of_apply (hcallbacks x spec hspec) (hstay x spec hspec) h]
  exact Viewing.hidesCallback_of_specOf hspec

include hspecs honce

/-- Applying a spec settles if applying specs one level further down does. -/
theorem settles_apply_succ
    {d : Nat}
    (hagain :
      ∀ spec, Entry.AllNameFields spec → Entry.AllNameOnce spec → Settles (apply w d spec))
    {spec : Spec}
    (hnames : Entry.AllNameFields spec)
    (hnamesOnce : Entry.AllNameOnce spec) :
    Settles (apply w (d + 1) spec) := by
  refine ⟨?_, fun x y h => (typeOf_of_apply hnames h).1, fun x y h => (typeOf_of_apply hnames h).2⟩
  intro v r h
  obtain ⟨updates, hcollect, hresult⟩ := apply_succ_eq_ok h
  have hupdates := (collect_keeps hnames Entries.isNamed_nil hcollect).1
  rcases hresult with ⟨_, rfl⟩ | hreplace
  · exact h
  · cases hfields : v.hasFields with
    | false =>
        rw [mergeFields_of_not_hasFields hfields hreplace] at h ⊢
        exact h
    | true =>
        have hreads : ∀ n, CopyReads w v r updates n := by
          rw [mergeFields_eq_ok hfields hupdates hreplace]
          exact copyReads_withSlots hfields hupdates
        obtain ⟨updates', hcollect', hwithin⟩ :=
          collect_again hspecs hcallbacks honce
            (fun x y spec => hidesCallback_of_specOf_apply hcallbacks hstay) hagain hnames
            hnamesOnce (fun _ _ => rfl) (fun _ _ h => h) hcollect hreads
        have hupdates' := (collect_keeps hnames Entries.isNamed_nil hcollect').1
        rw [apply]
        refine Run.outcome_bind_eq_ok_iff.mpr ⟨updates', hcollect', ?_⟩
        cases hempty : updates'.isEmpty with
        | true =>
            rfl
        | false =>
            exact (replaceFields_eq_mergeFields r updates').trans
              (mergeFields_again hfields hupdates hupdates' hwithin hreplace)

theorem settles_apply
    (depth : Nat)
    {spec : Spec}
    (hnames : Entry.AllNameFields spec)
    (hnamesOnce : Entry.AllNameOnce spec) :
    Settles (apply w depth spec) := by
  induction depth generalizing spec with
  | zero =>
      have hzero : ∀ x y, ¬ (apply w 0 spec x).outcome = .ok y := by
        intro x y h
        cases h
      exact
        ⟨fun x y h => absurd h (hzero x y), fun x y h => absurd h (hzero x y),
          fun x y h => absurd h (hzero x y)⟩
  | succ d ih =>
      exact settles_apply_succ hspecs hcallbacks honce hstay (fun _ => ih) hnames hnamesOnce

/-- Redaction of one object by its callback settles. -/
theorem settles_redactObject
    (depth : Nat) :
    Settles (redactObject w depth) := by
  have hsettles :
      ∀ x y, (redactObject w depth x).outcome = .ok y →
        ∃ spec, (w.specOf x).outcome = .ok spec ∧ Settles (apply w depth spec) ∧
          (apply w depth spec x).outcome = .ok y := by
    intro x y h
    obtain ⟨spec, hspec, happly⟩ := redactObject_eq_ok h
    exact ⟨spec, hspec,
      settles_apply hspecs hcallbacks honce hstay depth (hcallbacks x spec hspec)
        (honce x spec hspec),
      happly⟩
  refine ⟨?_, ?_, ?_⟩
  · intro x y h
    obtain ⟨spec, hspec, hsettle, happly⟩ := hsettles x y h
    refine Run.outcome_bind_eq_ok_iff.mpr ⟨spec, ?_, hsettle.again x y happly⟩
    exact hspecs.specOf_eq_ok (hsettle.typeOf_eq x y happly)
      (hidesCallback_of_specOf_apply hcallbacks hstay hspec happly) hspec
  · intro x y h
    obtain ⟨spec, _, hsettle, happly⟩ := hsettles x y h
    exact hsettle.typeOf_eq x y happly
  · intro x y h
    obtain ⟨spec, _, hsettle, happly⟩ := hsettles x y h
    exact hsettle.items?_eq x y happly

end Twice

section Orders

/-- A type of buyers, who keep their email to themselves. -/
def buyerType : TypeRef :=
  .declared "Buyer" .plain ["name", "email"] none true (.builtin .object)

/-- A type of orders, which hide the card, the addresses of the parcels, and what the buyer
hides. -/
def orderType : TypeRef :=
  .declared "Order" .plain ["card", "buyer", "parcels"] none true (.builtin .object)

/-- What buyers give as their spec. -/
def buyerEntries : Value :=
  .list [.text "email"]

/-- What orders give as their spec. -/
def orderEntries : Value :=
  .list
    [.text "card",
      .tuple [.text "buyer", .type buyerType],
      .tuple [.text "parcels", .list [.text "address"]]]

/-- A packer looks at orders and their buyers. -/
def packerViewing : Viewing where
  env :=
    { apply := fun _ _ => .error .wrongType
      importable := []
      classMembers := fun _ => []
      callback := fun t =>
        if t = buyerType then some fun _ => .ok buyerEntries
        else if t = orderType then some fun _ => .ok orderEntries
        else none }
  subject := .text "packer"
  options := .null
  marker := Value.redacted
  registry := none

instance : packerViewing.env.HandlesUsually :=
  Environment.handlesUsually_of_classMembers (fun _ => rfl) (fun _ => rfl) (fun _ => rfl)

def parcel (address : String) (weight : Int) : Value :=
  .map (.builtin .map) [(.text "address", .text address), (.text "weight", .int weight)]

/-- An order of two parcels. -/
def order : Value :=
  .object orderType
    [("card", .int 4711),
      ("buyer", .object buyerType [("name", .text "Ada"), ("email", .text "ada")]),
      ("parcels", .list [parcel "Mill Lane" 3, parcel "High Street" 5])]

theorem packerViewing_gives :
    packerViewing.Gives fun given => given = buyerEntries ∨ given = orderEntries := by
  refine ⟨rfl, ?_⟩
  intro t run h
  simp only [packerViewing] at h
  split at h
  · cases h
    exact ⟨buyerEntries, Or.inl rfl, fun _ => rfl⟩
  · split at h
    · cases h
      exact ⟨orderEntries, Or.inr rfl, fun _ => rfl⟩
    · cases h

theorem packerViewing_specs
    {v : Value}
    {spec : Spec}
    (h : (packerViewing.specOf v).outcome = .ok spec) :
    Entry.AllNameFields spec ∧ Entry.AllNameOnce spec ∧
      callbackName ∉ spec.filterMap Entry.subject? := by
  obtain ⟨given, items, hgiven, hparts, rfl⟩ := packerViewing_gives.of_specOf h
  rcases hgiven with rfl | rfl
  · cases hparts
    simp [Entry.ofList, Entry.ofValue, Entry.AllNameFields, Entry.NamesFields, IsFieldName,
      Entry.AllNameOnce, Entry.NamesOnce, Entry.subject?, callbackName]
  · cases hparts
    simp [Entry.ofList, Entry.ofValue, Entry.ofTarget, Entry.AllNameFields, Entry.NamesFields,
      IsFieldName, Value.text?, Entry.AllNameOnce, Entry.NamesOnce, Entry.subject?,
      callbackName]

end Orders

section Boxes

/-- A type of objects that hide the member through which their callback is asked. -/
def shyType : TypeRef :=
  .declared "Shy" .plain [] none true (.builtin .object)

def shyViewing : Viewing :=
  Viewing.ofType shyType [.text callbackName] []

end Boxes

end Redaction
end AccessPolicy
