import AccessPolicy.Proofs.Redaction.Copies
import AccessPolicy.Proofs.TextEntries

/-!
# The fields of an object

Maps, objects with fields and entities are redacted alike: each has entries or fields of its
own, its *slots*, and a redacted copy differs from it in the slots only.  This module says
what reading a field and replacing fields come to in terms of slots.

**Reading.**  A field of an object is in a slot of its own, or else is shared by all instances
of its type (`Environment.field?`).  Reading by name finds it (`readField_of_text?`).

**Replacing.**  A copy with some fields replaced has the old slots with the new values put
into them (`mergeFields_eq_ok`).  A value that has no fields comes back as it is.

**Names.**  One name does not stand for a field.  Setting `__dict__` replaces all fields of an
entity at once, so it is left out of what is said here.
-/

namespace AccessPolicy

namespace Value

/-- The items of a list or tuple. -/
def items? : Value → Option (List Value)
  | .list xs => some xs
  | .tuple xs => some xs
  | _ => none

/-- Whether a value has fields that a copy of it may have other values in. -/
def hasFields : Value → Bool
  | .map _ _ => true
  | .object _ _ => true
  | .entity _ _ _ => true
  | .module r _ => r.form == .objectForm
  | _ => false

/-- The entries or fields of a value of its own, in order. -/
def slots : Value → Entries
  | .map _ entries => entries
  | .object _ fields => textEntries fields
  | .entity _ _ fields => textEntries fields
  | .module _ members => textEntries members
  | _ => []

/-- The same object with other slots. -/
def withSlots : Value → Entries → Value
  | .map t _, es => .map t es
  | .object t _, es => .object t (Redaction.namedUpdates es)
  | .entity i t _, es => .entity i t (Redaction.namedUpdates es)
  | .module r _, es => .module r (Redaction.namedUpdates es)
  | v, _ => v

@[simp] theorem hasFields_withSlots
    (v : Value)
    (es : Entries) :
    (v.withSlots es).hasFields = v.hasFields := by
  cases v <;> rfl

@[simp] theorem typeOf_withSlots
    (v : Value)
    (es : Entries) :
    (v.withSlots es).typeOf = v.typeOf := by
  cases v with
  | tag t =>
      cases t <;> rfl
  | _ =>
      rfl

@[simp] theorem isNotLoaded_withSlots
    (v : Value)
    (es : Entries) :
    (v.withSlots es).isNotLoaded = v.isNotLoaded := by
  cases v <;> rfl

@[simp] theorem items?_withSlots
    (v : Value)
    (es : Entries) :
    (v.withSlots es).items? = v.items? := by
  cases v <;> rfl

theorem getText?_slots_withSlots
    {v : Value}
    (hfields : v.hasFields = true)
    (es : Entries)
    (n : String) :
    Entries.getText? (v.withSlots es).slots n = Entries.getText? es n := by
  cases v with
  | map t entries =>
      rfl
  | object t fields =>
      rw [withSlots, slots, getText?_textEntries, Redaction.get?_namedUpdates]
  | entity i t fields =>
      rw [withSlots, slots, getText?_textEntries, Redaction.get?_namedUpdates]
  | module r members =>
      rw [withSlots, slots, getText?_textEntries, Redaction.get?_namedUpdates]
  | _ =>
      cases hfields

/-- An object is told by its slots and what has them. -/
theorem withSlots_slots
    (v : Value) :
    v.withSlots v.slots = v := by
  cases v <;> simp [withSlots, slots, Redaction.namedUpdates_textEntries]

@[simp] theorem withSlots_withSlots
    (v : Value)
    (es es' : Entries) :
    (v.withSlots es).withSlots es' = v.withSlots es' := by
  cases v <;> rfl

/-- A copy is told by the slots that it has. -/
theorem withSlots_slots_withSlots
    (v : Value)
    (es : Entries) :
    v.withSlots (v.withSlots es).slots = v.withSlots es := by
  have h := (v.withSlots es).withSlots_slots
  rw [withSlots_withSlots] at h
  exact h

/-- A copy has the slots that it was given, though fields may spell the keys in another way. -/
theorem slots_withSlots
    {v : Value}
    (hfields : v.hasFields = true)
    (es : Entries) :
    (v.withSlots es).slots = es ∨
      (v.withSlots es).slots = textEntries (Redaction.namedUpdates es) := by
  cases v with
  | map t entries =>
      exact Or.inl rfl
  | object t fields =>
      exact Or.inr rfl
  | entity i t fields =>
      exact Or.inr rfl
  | module r members =>
      exact Or.inr rfl
  | _ =>
      cases hfields

/-- A field that is set in a copy is set in the slots that the copy was given. -/
theorem withSlots_set_slots
    {v : Value}
    (hfields : v.hasFields = true)
    {key : Value}
    {n : String}
    (hkey : key.text? = some n)
    (es : Entries)
    (value : Value) :
    v.withSlots (Entries.set (v.withSlots es).slots key value) =
      v.withSlots (Entries.set es key value) := by
  have hnamed :
      Redaction.namedUpdates
          (Entries.set (textEntries (Redaction.namedUpdates es)) key value) =
        Redaction.namedUpdates (Entries.set es key value) := by
    rw [Redaction.namedUpdates_set hkey, Redaction.namedUpdates_set hkey,
      Redaction.namedUpdates_textEntries]
  cases v with
  | map t entries =>
      rfl
  | object t fields =>
      exact congrArg (Value.object t) hnamed
  | entity i t fields =>
      exact congrArg (Value.entity i t) hnamed
  | module r members =>
      exact congrArg (Value.module r) hnamed
  | _ =>
      cases hfields

/-- What a name of an object stands for if it is not the name of a field. -/
def typeMember? : Value → String → Option Value
  | .map _ _, _ => none
  | v, name => v.givenMember? name

theorem map_isSkipped_commonData?_withSlots
    {v : Value}
    (hmap : ∀ t es, v ≠ .map t es)
    (es : Entries)
    (name : String) :
    ((v.withSlots es).commonData? name).map Redaction.isSkipped =
      (v.commonData? name).map Redaction.isSkipped := by
  cases v with
  | map t entries =>
      exact absurd rfl (hmap t entries)
  | object t fields =>
      unfold commonData? withSlots
      split
      · rfl
      · cases t <;> rfl
      all_goals rfl
  | entity i t fields =>
      unfold commonData? withSlots
      split <;> rfl
  | module r members =>
      unfold commonData? withSlots
      split
      · rfl
      · rfl
      · rfl
      · simp only [fieldMap?]
        cases r.form <;> rfl
      all_goals rfl
  | _ =>
      rfl

theorem map_isSkipped_numberData?_withSlots
    (v : Value)
    (es : Entries)
    (name : String) :
    ((v.withSlots es).numberData? name).map Redaction.isSkipped =
      (v.numberData? name).map Redaction.isSkipped := by
  unfold numberData? isInstance
  simp only [typeOf_withSlots]
  split
  · rfl
  · split
    · cases v <;> rfl
    · rfl
    · split
      · cases v <;> rfl
      · rfl
    · rfl
    · rfl

theorem namingData?_withSlots
    {v : Value}
    (hmap : ∀ t es, v ≠ .map t es)
    (es : Entries)
    (name : String) :
    (v.withSlots es).namingData? name = v.namingData? name := by
  cases v with
  | map t entries =>
      exact absurd rfl (hmap t entries)
  | module r members =>
      unfold withSlots namingData?
      split <;> simp_all
  | _ =>
      rfl

/-- Whether a name stands for something that is no field, and whether that is skipped, does not
depend on the fields. -/
theorem map_isSkipped_typeMember?_withSlots
    (v : Value)
    (es : Entries)
    (name : String) :
    ((v.withSlots es).typeMember? name).map Redaction.isSkipped =
      (v.typeMember? name).map Redaction.isSkipped := by
  have hchoice :
      ∀ (data : Option Value) (callable : Bool) (u : Value),
        (if data.isSome then data else if callable then some (.method u name) else none).map
            Redaction.isSkipped =
          (data.map Redaction.isSkipped).or (if callable then some false else none) := by
    intro data callable u
    cases data <;> cases callable <;> rfl
  have hgiven :
      (∀ t es, v ≠ .map t es) →
      ((v.withSlots es).givenMember? name).map Redaction.isSkipped =
        (v.givenMember? name).map Redaction.isSkipped := by
    intro hmap
    unfold givenMember?
    rw [hchoice, hchoice]
    simp only [Option.map_or]
    rw [map_isSkipped_commonData?_withSlots hmap, map_isSkipped_numberData?_withSlots,
      namingData?_withSlots hmap]
    cases v <;> rfl
  cases v with
  | map t entries =>
      rfl
  | object t fields =>
      exact hgiven (by simp)
  | entity i t fields =>
      exact hgiven (by simp)
  | module r members =>
      exact hgiven (by simp)
  | _ =>
      rfl

/-- Whether a name stands for something that is no field does not depend on the fields. -/
theorem isSome_typeMember?_withSlots
    (v : Value)
    (es : Entries)
    (name : String) :
    ((v.withSlots es).typeMember? name).isSome = (v.typeMember? name).isSome := by
  have h := congrArg Option.isSome (v.map_isSkipped_typeMember?_withSlots es name)
  simpa only [Option.isSome_map] using h

theorem items?_of_hasFields
    {v : Value}
    (h : v.hasFields = true) :
    v.items? = none := by
  cases v with
  | list xs =>
      cases h
  | tuple xs =>
      cases h
  | _ =>
      rfl

end Value

namespace Environment

variable (env : Environment)

/-- A field that an object has from its type. -/
def sharedField? : Value → String → Option Value
  | .object t _, name => env.classMember? t name
  | .entity _ t _, name => env.classMember? t name
  | _, _ => none

/-- A field of an object: its own, or else one that it has from its type. -/
def field? (v : Value) (name : String) : Option Value :=
  if v.hasFields then (Entries.getText? v.slots name).or (env.sharedField? v name) else none

theorem hasFields_of_field?
    {v x : Value}
    {name : String}
    (h : env.field? v name = some x) :
    v.hasFields = true := by
  unfold field? at h
  split at h
  · assumption
  · cases h

theorem field?_of_items?
    {v : Value}
    {xs : List Value}
    (h : v.items? = some xs)
    (name : String) :
    env.field? v name = none := by
  unfold field?
  split
  · rename_i hfields
    rw [Value.items?_of_hasFields hfields] at h
    cases h
  · rfl

@[simp] theorem sharedField?_withSlots
    (v : Value)
    (es : Entries)
    (name : String) :
    env.sharedField? (v.withSlots es) name = env.sharedField? v name := by
  cases v <;> rfl

theorem field?_withSlots
    {v : Value}
    (hfields : v.hasFields = true)
    (es : Entries)
    (name : String) :
    env.field? (v.withSlots es) name =
      (Entries.getText? es name).or (env.sharedField? v name) := by
  unfold field?
  rw [Value.hasFields_withSlots, if_pos hfields, Value.getText?_slots_withSlots hfields,
    sharedField?_withSlots]

end Environment

namespace Redaction

@[simp] theorem isSkipped_withSlots
    (v : Value)
    (es : Entries) :
    isSkipped (v.withSlots es) = isSkipped v := by
  cases v <;> rfl

/-- Whether a name stands for a field: all names but that of all fields at once do. -/
def IsFieldName (name : String) : Prop :=
  name ≠ "__dict__"

namespace Viewing

variable (w : Viewing)

/-- What reading a name gives. -/
def read? (v : Value) (name : String) : Option Value :=
  match v with
  | .map _ entries => Entries.getText? entries name
  | v => w.env.member? v name

theorem readField_of_text?
    [w.env.HandlesUsually]
    {key : Value}
    {name : String}
    (hkey : key.text? = some name)
    (v : Value) :
    w.readField v key = .ok (w.read? v name) := by
  unfold readField read?
  cases v with
  | map t entries =>
      simp only [Value.isKey_of_text? hkey, Entries.get?_of_text? hkey, if_true,
        w.env.handlingOf_eq, Option.none_or]
  | _ =>
      simp only [hkey]

/-- Reading a name of an object gives its field of that name, or else what the name stands for
in all objects of the type. -/
theorem read?_eq_or
    [w.env.HandlesUsually]
    {v : Value}
    (hfields : v.hasFields = true)
    (name : String) :
    w.read? v name = (w.env.field? v name).or (v.typeMember? name) := by
  unfold read? Environment.field?
  rw [if_pos hfields]
  cases v with
  | map t es =>
      simp [Value.slots, Environment.sharedField?, Value.typeMember?]
  | object t fields =>
      simp [Value.slots, getText?_textEntries, Environment.sharedField?, Environment.member?,
        Environment.declaredMember?, Value.typeMember?, w.env.handlingOf_eq]
  | entity i t fields =>
      simp [Value.slots, getText?_textEntries, Environment.sharedField?, Environment.member?,
        Environment.declaredMember?, Value.typeMember?, w.env.handlingOf_eq]
  | module r members =>
      have hform : r.form = .objectForm := by
        simpa [Value.hasFields] using hfields
      simp [Value.slots, getText?_textEntries, Environment.sharedField?, Environment.member?,
        Environment.declaredMember?, Value.typeMember?, hform]
  | _ =>
      cases hfields

theorem read?_of_field?
    [w.env.HandlesUsually]
    {v x : Value}
    {name : String}
    (h : w.env.field? v name = some x) :
    w.read? v name = some x := by
  rw [w.read?_eq_or (w.env.hasFields_of_field? h), h]
  rfl

end Viewing

section Replacing

theorem setMember_eq_ok
    {fields result : Fields}
    {name : String}
    {value : Value}
    (hname : IsFieldName name)
    (h : Fields.setMember fields name value = .ok result) :
    result = Fields.set fields name value := by
  unfold Fields.setMember at h
  split at h
  · cases h
  · exact absurd rfl hname
  · exact absurd rfl hname
  · cases h
  · exact (Except.ok.inj h).symm

/-- Members of an entity can be set if none of them says what the entity is. -/
theorem exists_foldlM_setMember_iff
    {named fields : Fields}
    (hnamed : ∀ u ∈ named, IsFieldName u.1) :
    (∃ result, named.foldlM (fun fs u => Fields.setMember fs u.1 u.2) fields = .ok result)
      ↔
    ∀ u ∈ named, u.1 ≠ "__class__" ∧ u.1 ≠ "__weakref__" := by
  induction named generalizing fields with
  | nil =>
      simp [pure, Except.pure]
  | cons u named ih =>
      obtain ⟨hu, hrest⟩ := List.forall_mem_cons.mp hnamed
      have hset :
          (∃ fields', Fields.setMember fields u.1 u.2 = .ok fields') ↔
            u.1 ≠ "__class__" ∧ u.1 ≠ "__weakref__" := by
        unfold Fields.setMember
        split
        · simp_all
        · exact absurd ‹_› hu
        · exact absurd ‹_› hu
        · simp_all
        · simp_all
      simp only [List.foldlM_cons, except_bind_eq_ok_iff, List.forall_mem_cons]
      rw [← hset]
      constructor
      · rintro ⟨result, fields', hfields', hresult⟩
        exact ⟨⟨fields', hfields'⟩, (ih hrest).mp ⟨result, hresult⟩⟩
      · rintro ⟨⟨fields', hfields'⟩, hothers⟩
        obtain ⟨result, hresult⟩ := (ih hrest).mpr hothers
        exact ⟨result, fields', hfields', hresult⟩

/-- Setting members of an entity one by one is setting the fields of their names. -/
theorem foldlM_setMember_eq_ok
    {named fields result : Fields}
    (hnamed : ∀ u ∈ named, IsFieldName u.1)
    (h : named.foldlM (fun fs u => Fields.setMember fs u.1 u.2) fields = .ok result) :
    result = Fields.merge fields named := by
  induction named generalizing fields with
  | nil =>
      exact (Except.ok.inj h).symm
  | cons u named ih =>
      rw [List.foldlM_cons, except_bind_eq_ok_iff] at h
      obtain ⟨fields', hset, hrest⟩ := h
      rw [setMember_eq_ok (hnamed u List.mem_cons_self) hset] at hrest
      exact ih (fun u' hu' => hnamed u' (List.mem_cons_of_mem _ hu')) hrest

theorem isFieldName_of_mem_namedUpdates
    {updates : Entries}
    (hupdates : Entries.IsNamed IsFieldName updates)
    {u : String × Value}
    (hu : u ∈ namedUpdates updates) :
    IsFieldName u.1 := by
  unfold namedUpdates at hu
  obtain ⟨e, he, hn⟩ := List.mem_filterMap.mp hu
  obtain ⟨n, htext, hname⟩ := hupdates.texts e he
  rw [htext] at hn
  cases hn
  exact hname

/-- A copy of an object with some fields replaced has the new values in its slots. -/
theorem mergeFields_eq_ok
    {v r : Value}
    {updates : Entries}
    (hfields : v.hasFields = true)
    (hupdates : Entries.IsNamed IsFieldName updates)
    (h : mergeFields v updates = .ok r) :
    r = v.withSlots (Entries.merge v.slots updates) := by
  have hmerge :
      ∀ fields : Fields,
        namedUpdates (Entries.merge (Value.textEntries fields) updates) =
          Fields.merge fields (namedUpdates updates) := by
    intro fields
    rw [namedUpdates_merge hupdates, namedUpdates_textEntries]
  cases v with
  | map t entries =>
      exact (Except.ok.inj h).symm
  | object t fields =>
      rw [Value.slots, Value.withSlots, hmerge]
      unfold mergeFields at h
      simp only at h
      split at h
      · cases h
      · exact (Except.ok.inj h).symm
  | entity i t fields =>
      rw [Value.slots, Value.withSlots, hmerge]
      obtain ⟨fields', hset, rfl⟩ := except_map_eq_ok_iff.mp h
      rw [foldlM_setMember_eq_ok (fun u hu => isFieldName_of_mem_namedUpdates hupdates hu) hset]
  | module r' members =>
      rw [Value.slots, Value.withSlots, hmerge]
      have hform : r'.form = .objectForm := by
        simpa [Value.hasFields] using hfields
      unfold mergeFields at h
      simp only [hform] at h
      exact (Except.ok.inj h).symm
  | _ =>
      cases hfields

theorem mem_names_iff_namedUpdates
    {updates : Entries}
    {n : String} :
    n ∈ Entries.names updates ↔ ∃ u ∈ namedUpdates updates, u.1 = n := by
  constructor
  · intro h
    obtain ⟨e, he, hn⟩ := List.mem_filterMap.mp h
    exact ⟨(n, e.2), List.mem_filterMap.mpr ⟨e, he, by simp [hn]⟩, rfl⟩
  · rintro ⟨u, hu, rfl⟩
    obtain ⟨e, he, hu⟩ := List.mem_filterMap.mp hu
    obtain ⟨n, hn, rfl⟩ := Option.map_eq_some_iff.mp hu
    exact Entries.mem_names_of_mem he hn

/-- Whether a copy of an object can have another value in a field: an object with a fixed set of
fields has no others, and two names of an entity say what it is. -/
def Admits (v : Value) (n : String) : Prop :=
  match v with
  | .object t fields => t.isClosed = true → (Fields.get? fields n).isSome = true
  | .entity _ _ _ => n ≠ "__class__" ∧ n ≠ "__weakref__"
  | _ => True

/-- Replacing fields succeeds exactly if each one can be replaced. -/
theorem mergeFields_eq_ok_iff
    {v r : Value}
    {updates : Entries}
    (hfields : v.hasFields = true)
    (hupdates : Entries.IsNamed IsFieldName updates) :
    mergeFields v updates = .ok r
      ↔
    (∀ n ∈ Entries.names updates, Admits v n) ∧
      r = v.withSlots (Entries.merge v.slots updates) := by
  have hsucceeds :
      (∃ r, mergeFields v updates = .ok r) ↔ ∀ n ∈ Entries.names updates, Admits v n := by
    have hnames :
        ∀ P : String → Prop,
          (∀ n ∈ Entries.names updates, P n) ↔ ∀ u ∈ namedUpdates updates, P u.1 := by
      intro P
      simp only [mem_names_iff_namedUpdates]
      exact ⟨fun h u hu => h u.1 ⟨u, hu, rfl⟩, fun h n ⟨u, hu, hn⟩ => hn ▸ h u hu⟩
    rw [hnames]
    cases v with
    | map t entries =>
        simp [mergeFields, Admits]
    | object t fields =>
        cases hclosed : t.isClosed with
        | false =>
            simp [mergeFields, Admits, hclosed]
        | true =>
            have hall :
                (∀ u ∈ namedUpdates updates, Admits (.object t fields) u.1) ↔
                  ¬ (namedUpdates updates).any fun u => (Fields.get? fields u.1).isNone := by
              simp [Admits, hclosed, Option.isSome_iff_ne_none]
            rw [hall]
            simp only [mergeFields, hclosed, Bool.true_and]
            split
            · rename_i hany
              simp [hany]
            · rename_i hany
              exact ⟨fun _ => hany, fun _ => ⟨_, rfl⟩⟩
    | entity i t fields =>
        have hnamed : ∀ u ∈ namedUpdates updates, IsFieldName u.1 :=
          fun u hu => isFieldName_of_mem_namedUpdates hupdates hu
        have hmap :
            ∀ x : Except Failure Fields,
              (∃ r, x.map (Value.entity i t) = .ok r) ↔ ∃ fs, x = .ok fs := by
          intro x
          simp [except_map_eq_ok_iff]
        exact (hmap _).trans (exists_foldlM_setMember_iff hnamed)
    | module r' members =>
        have hform : r'.form = .objectForm := by
          simpa [Value.hasFields] using hfields
        simp [mergeFields, Admits, hform]
    | _ =>
        cases hfields
  rw [← hsucceeds]
  constructor
  · intro h
    exact ⟨⟨r, h⟩, mergeFields_eq_ok hfields hupdates h⟩
  · rintro ⟨⟨r', h⟩, rfl⟩
    rw [h, mergeFields_eq_ok hfields hupdates h]

theorem replaceNothing_eq_ok
    {v r : Value}
    {isLocked : String → Bool}
    {updates : Fields}
    (h : replaceNothing v isLocked updates = .ok r) :
    r = v := by
  unfold replaceNothing at h
  split at h
  · cases h
  · exact (Except.ok.inj h).symm

/-- A value without fields has no copy other than itself. -/
theorem mergeFields_of_not_hasFields
    {v r : Value}
    {updates : Entries}
    (hfields : v.hasFields = false)
    (h : mergeFields v updates = .ok r) :
    r = v := by
  cases v with
  | map t entries =>
      cases hfields
  | object t fields =>
      cases hfields
  | entity i t fields =>
      cases hfields
  | module r' members =>
      have hform : r'.form ≠ .objectForm := by
        simpa [Value.hasFields] using hfields
      unfold mergeFields at h
      simp only at h
      split at h
      · contradiction
      · cases h
      · exact (Except.ok.inj h).symm
  | type t =>
      cases t with
      | declared =>
          exact (Except.ok.inj h).symm
      | builtin b =>
          cases h
      | schema m =>
          cases h
  | _ =>
      unfold mergeFields at h
      exact replaceNothing_eq_ok h

/-- A copy differs from the object in its slots only, whatever the fields that are replaced. -/
theorem exists_withSlots_of_mergeFields
    {v r : Value}
    {updates : Entries}
    (h : mergeFields v updates = .ok r) :
    ∃ es, r = v.withSlots es := by
  cases hfields : v.hasFields with
  | false =>
      rw [mergeFields_of_not_hasFields hfields h]
      exact ⟨v.slots, v.withSlots_slots.symm⟩
  | true =>
      have hslots : ∀ fields : Fields, fields = namedUpdates (Value.textEntries fields) :=
        fun fields => (namedUpdates_textEntries fields).symm
      cases v with
      | map t es =>
          cases h
          exact ⟨_, rfl⟩
      | object t fields =>
          unfold mergeFields at h
          simp only at h
          split at h
          · cases h
          · cases h
            exact ⟨_, congrArg (Value.object t) (hslots _)⟩
      | entity i t fields =>
          obtain ⟨fields', _, rfl⟩ := except_map_eq_ok_iff.mp h
          exact ⟨_, congrArg (Value.entity i t) (hslots _)⟩
      | module r' members =>
          have hform : r'.form = .objectForm := by
            simpa [Value.hasFields] using hfields
          unfold mergeFields at h
          simp only [hform] at h
          cases h
          exact ⟨_, congrArg (Value.module r') (hslots _)⟩
      | _ =>
          cases hfields

end Replacing

end Redaction
end AccessPolicy
