import AccessPolicy.Proofs.CheckModules
import AccessPolicy.Proofs.Redaction.Activation

/-!
# Redaction ends

Redaction follows specs that callbacks give on the way, and goes into values that earlier entries
have put in place of fields.  It ends nevertheless, because it goes down in the value: it is never
nested more deeply than the value is, plus one (`redact_nests_within_height`).

**Heights.**  `Value.height` counts how deeply lists, tuples and objects are nested.  What is put in
place of a field is lower than the object, be it the marker or what redaction made of the field, so
that a redacted object is no higher than the object itself (`height_le_of_apply`).

**Rows.**  What an application applies in turn is applied to a lower value
(`height_lt_of_activates`), so that a row of nested applications is no longer than the value is high
(`nesting_add_height_le`).

**Limits.**  `redactOver` is redaction with anything at all in place of what is nested too deeply.
All limits above the height come to the same, whatever that is: it is never reached.
-/

namespace AccessPolicy

namespace Value

mutual

/-- How deeply lists, tuples and objects are nested in a value.  Redaction goes into nothing else,
which counts as without height. -/
def height : Value → Nat
  | .list xs => itemsHeight xs + 1
  | .tuple xs => itemsHeight xs + 1
  | .map _ entries => entriesHeight entries + 1
  | .object _ fields => fieldsHeight fields + 1
  | .entity _ _ fields => fieldsHeight fields + 1
  | .module _ members => fieldsHeight members + 1
  | _ => 0

/-- The height of the highest item. -/
def itemsHeight : List Value → Nat
  | [] => 0
  | v :: rest => max (height v) (itemsHeight rest)

/-- The height of the highest value of an entry. -/
def entriesHeight : List (Value × Value) → Nat
  | [] => 0
  | (_, v) :: rest => max (height v) (entriesHeight rest)

/-- The height of the highest field. -/
def fieldsHeight : List (String × Value) → Nat
  | [] => 0
  | (_, v) :: rest => max (height v) (fieldsHeight rest)

end

section Heights

variable {k : Nat} {v x a : Value}

theorem itemsHeight_le_iff
    {xs : List Value} :
    itemsHeight xs ≤ k ↔ ∀ x ∈ xs, x.height ≤ k := by
  induction xs with
  | nil =>
      simp [itemsHeight]
  | cons x xs ih =>
      rw [itemsHeight, Nat.max_le, ih, List.forall_mem_cons]

theorem entriesHeight_le_iff
    {es : Entries} :
    entriesHeight es ≤ k ↔ ∀ e ∈ es, e.2.height ≤ k := by
  induction es with
  | nil =>
      simp [entriesHeight]
  | cons e es ih =>
      rw [entriesHeight, Nat.max_le, ih, List.forall_mem_cons]

theorem fieldsHeight_le_iff
    {fs : Fields} :
    fieldsHeight fs ≤ k ↔ ∀ f ∈ fs, f.2.height ≤ k := by
  induction fs with
  | nil =>
      simp [fieldsHeight]
  | cons f fs ih =>
      rw [fieldsHeight, Nat.max_le, ih, List.forall_mem_cons]

/-- What an object has in its slots is lower than the object. -/
theorem height_lt_of_mem_slots
    {e : Value × Value}
    (he : e ∈ v.slots) :
    e.2.height < v.height := by
  have hfields :
      ∀ fields : Fields, e ∈ textEntries fields → e.2.height < fieldsHeight fields + 1 := by
    intro fields he
    obtain ⟨f, hf, rfl⟩ := List.mem_map.mp he
    exact Nat.lt_succ_of_le (fieldsHeight_le_iff.mp (Nat.le_refl _) f hf)
  cases v with
  | map t es =>
      exact Nat.lt_succ_of_le (entriesHeight_le_iff.mp (Nat.le_refl _) e he)
  | object t fields =>
      exact hfields fields he
  | entity i t fields =>
      exact hfields fields he
  | module r members =>
      exact hfields members he
  | _ =>
      cases he

theorem height_of_items?
    {xs : List Value}
    (hxs : x.items? = some xs) :
    x.height = itemsHeight xs + 1 := by
  cases x with
  | list ys =>
      cases hxs
      rfl
  | tuple ys =>
      cases hxs
      rfl
  | _ =>
      cases hxs

/-- The items of a list or tuple are no higher than it is. -/
theorem height_le_of_mem_itemsOrSelf
    (ha : a ∈ x.itemsOrSelf) :
    a.height ≤ x.height := by
  cases hitems : x.items? with
  | none =>
      rw [Redaction.itemsOrSelf_of_items?_eq_none hitems, List.mem_singleton] at ha
      exact Nat.le_of_eq (congrArg height ha)
  | some xs =>
      rw [Redaction.mem_itemsOrSelf_of_items? hitems] at ha
      rw [height_of_items? hitems]
      exact Nat.le_succ_of_le (itemsHeight_le_iff.mp (Nat.le_refl _) a ha)

theorem height_of_isScalar
    (h : v.isScalar = true) :
    v.height = 0 := by
  cases v <;> first | rfl | cases h

end Heights
end Value

section Merging

variable {P : Value → Prop}

/-- What holds of the values of fields and of one more value still holds when this is set. -/
theorem Fields.forall_set
    {fs : Fields}
    (hfs : ∀ f ∈ fs, P f.2)
    (name : String)
    {value : Value}
    (hvalue : P value) :
    ∀ f ∈ Fields.set fs name value, P f.2 := by
  induction fs with
  | nil =>
      simpa [Fields.set] using hvalue
  | cons f fs ih =>
      obtain ⟨hf, hrest⟩ := List.forall_mem_cons.mp hfs
      rw [Fields.set]
      split
      · exact List.forall_mem_cons.mpr ⟨hvalue, hrest⟩
      · exact List.forall_mem_cons.mpr ⟨hf, ih hrest⟩

theorem Fields.forall_merge
    {fs more : Fields}
    (hfs : ∀ f ∈ fs, P f.2)
    (hmore : ∀ f ∈ more, P f.2) :
    ∀ f ∈ Fields.merge fs more, P f.2 := by
  induction more generalizing fs with
  | nil =>
      exact hfs
  | cons u more ih =>
      obtain ⟨hu, hrest⟩ := List.forall_mem_cons.mp hmore
      exact ih (Fields.forall_set hfs u.1 hu) hrest

end Merging

namespace Redaction

/-- All values of updates are lower than some height. -/
def Below (h : Nat) (updates : Entries) : Prop :=
  ∀ u ∈ updates, u.2.height < h

section Copies

variable {h : Nat} {v r : Value} {updates : Entries}

theorem Below.namedUpdates
    (hupdates : Below h updates) :
    ∀ u ∈ namedUpdates updates, u.2.height < h := by
  intro u hu
  obtain ⟨e, he, hu⟩ := List.mem_filterMap.mp hu
  obtain ⟨n, _, rfl⟩ := Option.map_eq_some_iff.mp hu
  exact hupdates e he

/-- Setting a member of an entity to a lower value leaves all its fields lower. -/
theorem setMember_below
    {fields result : Fields}
    (hfields : ∀ f ∈ fields, f.2.height < h)
    {name : String}
    {value : Value}
    (hvalue : value.height < h)
    (hset : Fields.setMember fields name value = .ok result) :
    ∀ f ∈ result, f.2.height < h := by
  unfold Fields.setMember at hset
  split at hset
  · cases hset
  · -- The entries of a map that takes the place of all fields are lower than the map.
    rename_i t entries
    cases hset
    intro f hf
    obtain ⟨e, he, hf⟩ := List.mem_filterMap.mp hf
    obtain ⟨n, _, rfl⟩ := Option.map_eq_some_iff.mp hf
    have hentry : e.2.height < (Value.map t entries).height := Value.height_lt_of_mem_slots he
    exact Nat.lt_trans hentry hvalue
  · cases hset
  · cases hset
  · cases hset
    exact Fields.forall_set (P := fun x => x.height < h) hfields name hvalue

theorem foldlM_setMember_below
    {named fields result : Fields}
    (hfields : ∀ f ∈ fields, f.2.height < h)
    (hnamed : ∀ u ∈ named, u.2.height < h)
    (hset : named.foldlM (fun fs u => Fields.setMember fs u.1 u.2) fields = .ok result) :
    ∀ f ∈ result, f.2.height < h := by
  induction named generalizing fields with
  | nil =>
      cases hset
      exact hfields
  | cons u named ih =>
      obtain ⟨hu, hrest⟩ := List.forall_mem_cons.mp hnamed
      rw [List.foldlM_cons, except_bind_eq_ok_iff] at hset
      obtain ⟨fields', hfirst, hset⟩ := hset
      exact ih (setMember_below hfields hu hfirst) hrest hset

/-- A copy with lower values in some fields is no higher than the object. -/
theorem height_le_of_mergeFields
    (hupdates : Below v.height updates)
    (hreplace : mergeFields v updates = .ok r) :
    r.height ≤ v.height := by
  have hcopy :
      ∀ fields result : Fields, v.height = Value.fieldsHeight fields + 1 →
        ((∀ f ∈ fields, f.2.height < v.height) → ∀ f ∈ result, f.2.height < v.height) →
        Value.fieldsHeight result + 1 ≤ v.height := by
    intro fields result hv hresult
    have hfields : ∀ f ∈ fields, f.2.height < v.height := by
      intro f hf
      rw [hv]
      exact Nat.lt_succ_of_le (Value.fieldsHeight_le_iff.mp (Nat.le_refl _) f hf)
    rw [hv, Nat.add_le_add_iff_right, Value.fieldsHeight_le_iff]
    intro f hf
    have hlt := hresult hfields f hf
    omega
  cases hhas : v.hasFields with
  | false =>
      exact Nat.le_of_eq (congrArg Value.height (mergeFields_of_not_hasFields hhas hreplace))
  | true =>
      cases v with
      | map t es =>
          cases hreplace
          refine Nat.succ_le_succ (Value.entriesHeight_le_iff.mpr ?_)
          intro e he
          have hslots : ∀ e ∈ es, e.2.height < (Value.map t es).height :=
            fun e he => Value.height_lt_of_mem_slots (v := .map t es) he
          have hlt := Entries.forall_merge (P := fun x => x.height < _) hslots hupdates e he
          exact Nat.le_of_lt_succ hlt
      | object t fields =>
          unfold mergeFields at hreplace
          simp only at hreplace
          split at hreplace
          · cases hreplace
          · cases hreplace
            exact hcopy fields _ rfl fun hfields =>
              Fields.forall_merge (P := fun x => x.height < _) hfields hupdates.namedUpdates
      | entity i t fields =>
          unfold mergeFields at hreplace
          obtain ⟨result, hset, rfl⟩ := except_map_eq_ok_iff.mp hreplace
          exact hcopy fields result rfl fun hfields =>
            foldlM_setMember_below hfields hupdates.namedUpdates hset
      | module r' members =>
          have hform : r'.form = .objectForm := by
            simpa [Value.hasFields] using hhas
          unfold mergeFields at hreplace
          simp only [hform] at hreplace
          cases hreplace
          exact hcopy members _ rfl fun hfields =>
            Fields.forall_merge (P := fun x => x.height < _) hfields hupdates.namedUpdates
      | _ =>
          cases hhas

end Copies

section Descent

variable {w : Viewing} {v key : Value} {updates : Entries} {spec : Spec}

theorem ReadsSlot.height_lt
    (hslot : ReadsSlot w v key)
    {x : Value}
    (hx : w.readField v key = .ok (some x)) :
    x.height < v.height := by
  obtain ⟨e, he, rfl⟩ := hslot x hx
  exact Value.height_lt_of_mem_slots he

/-- What stands in a field, be it put there by an update, is lower than the object. -/
theorem height_lt_of_fieldValue
    (hupdates : Below v.height updates)
    (hslot : ReadsSlot w v key)
    {x : Value}
    (hx : fieldValue w v updates key = .ok (some x)) :
    x.height < v.height :=
  hslot.of_fieldValue (P := fun x => x.height < v.height)
    (fun _ he => Value.height_lt_of_mem_slots he) hupdates hx

/-- What is made of a value is no higher than the value if the same holds of its items. -/
theorem height_le_of_redactEach
    {f : Value → Run Value}
    {x y : Value}
    (hf : ∀ a ∈ x.itemsOrSelf, ∀ b, (f a).outcome = .ok b → b.height ≤ a.height)
    (h : (redactEach f x).outcome = .ok y) :
    y.height ≤ x.height := by
  rcases redactEach_eq_ok h with ⟨hnone, hy⟩ | ⟨xs, ys, hxs, hys, _, hall⟩
  · refine hf x ?_ y hy
    rw [itemsOrSelf_of_items?_eq_none hnone]
    exact List.mem_singleton_self x
  · rw [Value.height_of_items? hxs, Value.height_of_items? hys, Nat.add_le_add_iff_right,
      Value.itemsHeight_le_iff]
    intro b hb
    obtain ⟨a, ha, hab⟩ := exists_of_mem_right hall hb
    have hle := hf a ((mem_itemsOrSelf_of_items? hxs).mpr ha) b hab
    exact Nat.le_trans hle (Value.itemsHeight_le_iff.mp (Nat.le_refl _) a ha)

variable [w.env.HandlesUsually]

/-- Updates are lower than the object, provided that results of applications further down are no
higher than what they are made of. -/
theorem below_of_collect
    (hmarker : w.marker.isScalar = true)
    {d : Nat}
    (hagain : ∀ inner a b, Activates w spec v inner a → (apply w d inner a).outcome = .ok b →
      b.height ≤ a.height)
    {before after : Spec}
    (hspec : spec = before ++ after)
    (hown : ReadsOwn w spec v)
    (h : (collect w (apply w d) v [] before).outcome = .ok updates) :
    Below v.height updates := by
  refine forall_of_collect (P := fun x => x.height < v.height) ?_ ?_ h
  · intro field hfield hread
    obtain ⟨x, hx⟩ := Option.isSome_iff_exists.mp hread
    have hslot : ReadsSlot w v (.text field) :=
      hown.readsSlot (e := .hide field) (by simp [hspec, hfield])
    have htext : (Value.text field).text? = some field := rfl
    have hlt := hslot.height_lt ((w.readField_of_text? htext v).trans (congrArg _ hx))
    rw [Value.height_of_isScalar hmarker]
    exact Nat.lt_of_le_of_lt (Nat.zero_le _) hlt
  · intro first e rest between hsplit hfirst hforall f x y hf hx hskip hy
    have hsplit' : spec = first ++ e :: (rest ++ after) := by
      rw [hspec, hsplit, List.append_assoc, List.cons_append]
    have hslot : ReadsSlot w v e.key := hown.readsSlot (by simp [hsplit'])
    refine Nat.lt_of_le_of_lt ?_ (height_lt_of_fieldValue hforall hslot hx)
    refine height_le_of_redactEach ?_ hy
    intro a ha b hb
    rcases eq_or_activates_of_work? hsplit' hfirst hf hx hskip ha hb with rfl | ⟨inner, hact, hb⟩
    · exact Nat.le_refl _
    · exact hagain inner a b hact hb

/-- A redacted object is no higher than the object. -/
theorem height_le_of_apply
    (hmarker : w.marker.isScalar = true)
    {d : Nat}
    {r : Value}
    (hown : ReadsOwn w spec v)
    (h : (apply w d spec v).outcome = .ok r) :
    r.height ≤ v.height := by
  induction d generalizing spec v r with
  | zero =>
      cases h
  | succ d ih =>
      obtain ⟨updates, hcollect, ⟨_, rfl⟩ | hreplace⟩ := apply_succ_eq_ok h
      · exact Nat.le_refl _
      · have hupdates :=
          below_of_collect hmarker (fun _ _ _ hact hb => ih (hown.inside hact) hb)
            (List.append_nil spec).symm hown hcollect
        exact height_le_of_mergeFields hupdates hreplace

/-- What an application applies in turn is applied to a lower value. -/
theorem height_lt_of_activates
    (hmarker : w.marker.isScalar = true)
    (hown : ReadsOwn w spec v)
    {inner : Spec}
    {a : Value}
    (h : Activates w spec v inner a) :
    a.height < v.height := by
  obtain ⟨before, e, after, d, updates, x, hspec, hbefore, hx, ha⟩ := h.exists_fieldValue
  have hslot : ReadsSlot w v e.key := hown.readsSlot (by simp [hspec])
  have hupdates :=
    below_of_collect hmarker (fun _ _ _ hact hb => height_le_of_apply hmarker (hown.inside hact) hb)
      hspec hown hbefore
  exact Nat.lt_of_le_of_lt (Value.height_le_of_mem_itemsOrSelf ha)
    (height_lt_of_fieldValue hupdates hslot hx)

/-- As many applications as are nested, by as much is the last value lower than the first. -/
theorem nesting_add_height_le
    (hmarker : w.marker.isScalar = true)
    (hown : ReadsOwn w spec v)
    {k : Nat}
    {last : Spec}
    {b : Value}
    (h : Nesting w k spec v last b) :
    k + b.height ≤ v.height + 1 := by
  induction h with
  | here =>
      omega
  | inside hactivates _ ih =>
      have hlt := height_lt_of_activates hmarker hown hactivates
      have hle := ih (hown.inside hactivates)
      omega

end Descent

section Congruence

variable {w : Viewing} {f g : Value → Run Value} {v : Value} {updates : Entries}

theorem redactEach_congr
    {x : Value}
    (h : ∀ a ∈ x.itemsOrSelf, f a = g a) :
    redactEach f x = redactEach g x := by
  cases hitems : x.items? with
  | none =>
      rw [redactEach_of_items?_eq_none hitems, redactEach_of_items?_eq_none hitems]
      refine h x ?_
      rw [itemsOrSelf_of_items?_eq_none hitems]
      exact List.mem_singleton_self x
  | some xs =>
      have hxs : ∀ a ∈ xs, f a = g a :=
        fun a ha => h a ((mem_itemsOrSelf_of_items? hitems).mpr ha)
      cases x with
      | list ys =>
          cases hitems
          exact congrArg (Value.list <$> ·) (Run.forEach_congr hxs)
      | tuple ys =>
          cases hitems
          exact congrArg (Value.tuple <$> ·) (Run.forEach_congr hxs)
      | _ =>
          cases hitems

/-- Reworking a field is told by what is done to the items of what stands in it. -/
theorem redactField_congr
    {key : Value}
    (h : ∀ x, fieldValue w v updates key = .ok (some x) → isSkipped x = false →
      ∀ a ∈ x.itemsOrSelf, f a = g a) :
    redactField w v updates key f = redactField w v updates key g := by
  rw [redactField_eq, redactField_eq]
  split
  · refine Run.bind_congr ?_
    intro found hfound
    cases found with
    | none =>
        rfl
    | some x =>
        rw [Option.elim_some, Option.elim_some]
        split
        · rfl
        · rename_i hskip
          rw [redactEach_congr (h x hfound (by simpa using hskip))]
  · rfl

theorem delegateItem_congr
    {again again' : Spec → Value → Run Value}
    {key a : Value}
    {type : TypeRef}
    (h : isSkipped a = false → a.isInstance type = true →
      ∀ spec, (w.specOf a).outcome = .ok spec → again spec a = again' spec a) :
    delegateItem w again key type a = delegateItem w again' key type a := by
  unfold delegateItem
  split
  · rfl
  · split
    · rfl
    · rename_i hskip htype
      exact Run.bind_congr (h (by simpa using hskip) (by simpa using htype))

/-- The updates of a spec are told entry by entry. -/
theorem collect_congr
    {again again' : Spec → Value → Run Value}
    {spec : Spec}
    (h : ∀ before e after updates, spec = before ++ e :: after →
      (collect w again' v [] before).outcome = .ok updates →
      applyEntry w again v updates e = applyEntry w again' v updates e) :
    collect w again v [] spec = collect w again' v [] spec := by
  have hrest :
      ∀ after before updates, spec = before ++ after →
        (collect w again' v [] before).outcome = .ok updates →
        collect w again v updates after = collect w again' v updates after := by
    intro after
    induction after with
    | nil =>
        intro before updates _ _
        rfl
    | cons e after ih =>
        intro before updates hspec hbefore
        rw [collect, collect, h before e after updates hspec hbefore]
        refine Run.bind_congr ?_
        intro between hbetween
        refine ih (before ++ [e]) between (by simp [hspec]) ?_
        rw [collect_append, hbefore]
        exact Run.outcome_bind_of_ok hbetween _
  exact hrest spec [] [] rfl rfl

end Congruence

section Limits

variable (w : Viewing) (beyond : Spec → Value → Run Value)

/-- Application of a spec, with something else done to what is nested more deeply than a limit. -/
def applyOver : Nat → Spec → Value → Run Value
  | 0, spec, object => beyond spec object
  | depth + 1, spec, object => do
      let updates ← collect w (applyOver depth) object [] spec
      if updates.isEmpty then .result object
      else .ofExcept (replaceFields w.env object updates)

/-- Redaction, with something else done to what is nested more deeply than a limit. -/
def redactOver (limit : Nat) : Value → Run Value
  | .null => .result .null
  | v => do
      let _ ← Run.ofExcept w.optionMap
      redactEach (fun object => do
        let spec ← w.specOf object
        applyOver w beyond limit spec object) v

/-- What is nested too deeply fails. -/
def tooDeep : Spec → Value → Run Value :=
  fun _ _ => .fail .tooDeep

theorem apply_eq_applyOver
    (d : Nat) :
    apply w d = applyOver w tooDeep d := by
  induction d with
  | zero =>
      rfl
  | succ d ih =>
      funext spec object
      rw [apply, applyOver, ih]

theorem redact_eq_redactOver
    (v : Value) :
    redact w v = redactOver w tooDeep depthLimit v := by
  have hobject :
      redactObject w depthLimit = fun object =>
        w.specOf object >>= fun spec => applyOver w tooDeep depthLimit spec object := by
    funext object
    rw [redactObject, apply_eq_applyOver]
  cases v with
  | null =>
      rfl
  | _ =>
      exact congrArg (fun f => Run.ofExcept w.optionMap >>= fun _ => redactEach f _) hobject

variable {w beyond}
variable [w.env.HandlesUsually] (hmarker : w.marker.isScalar = true)
include hmarker

/-- An application within a limit above the height of the value comes to the same as one within the
height plus one. -/
theorem applyOver_eq_apply
    {limit : Nat}
    {spec : Spec}
    {v : Value}
    (hown : ReadsOwn w spec v)
    (hlimit : v.height < limit) :
    applyOver w beyond limit spec v = apply w (v.height + 1) spec v := by
  induction hheight : v.height using Nat.strongRecOn generalizing beyond limit spec v with
  | ind height ih =>
      obtain ⟨d, rfl⟩ : ∃ d, limit = d + 1 := ⟨limit - 1, by omega⟩
      -- Within both limits, all that is applied in turn comes to what its own height needs.
      have hinner :
          ∀ inner a, Activates w spec v inner a →
            applyOver w beyond d inner a = apply w height inner a := by
        intro inner a hactivates
        have hlt := height_lt_of_activates hmarker hown hactivates
        have hinside := hown.inside hactivates
        rw [apply_eq_applyOver, ih a.height (by omega) hinside (by omega) rfl,
          ih a.height (by omega) hinside (by omega) rfl]
      have hcollect :
          collect w (applyOver w beyond d) v [] spec = collect w (apply w height) v [] spec := by
        refine collect_congr ?_
        intro before e after updates hspec hbefore
        cases e with
        | nested key inner =>
            refine redactField_congr ?_
            intro x hx hskip a ha
            exact hinner inner a (.nested hspec hbefore hx hskip ha)
        | delegate key type =>
            refine redactField_congr ?_
            intro x hx hskip a ha
            refine delegateItem_congr ?_
            intro hloaded htype own hown
            exact hinner own a (.delegate hspec hbefore hx hskip ha hloaded htype hown)
        | _ =>
            rfl
      rw [applyOver, apply, hcollect]

end Limits

section Staff

/-- A type of employees, each with a deputy and a boss. -/
def employeeType : TypeRef :=
  .declared "Employee" .plain ["deputy", "boss"] none true (.builtin .object)

/-- Employees hide who their deputies are, and so do their bosses. -/
def employeeEntries : Value :=
  .list [.text "deputy", .tuple [.text "boss", .type employeeType]]

/-- A visitor looks at employees and sees nothing in place of what is hidden. -/
def staffViewing : Viewing where
  env :=
    { apply := fun _ _ => .error .wrongType
      importable := []
      classMembers := fun _ => []
      callback := fun t => if t = employeeType then some fun _ => .ok employeeEntries else none }
  subject := .text "visitor"
  options := .null
  marker := .null
  registry := none

instance : staffViewing.env.HandlesUsually :=
  Environment.handlesUsually_of_classMembers (fun _ => rfl) (fun _ => rfl) (fun _ => rfl)

def employee (deputy boss : Value) : Value :=
  .object employeeType [("deputy", deputy), ("boss", boss)]

theorem staffViewing_gives :
    staffViewing.Gives fun given => given = employeeEntries := by
  refine ⟨rfl, ?_⟩
  intro t run h
  simp only [staffViewing] at h
  split at h
  · cases h
    exact ⟨employeeEntries, rfl, fun _ => rfl⟩
  · cases h

theorem givenMember?_null
    {n : String}
    (hn : n ∉ universalNames)
    (hbool : n ≠ "__bool__") :
    Value.null.givenMember? n = none := by
  have hhash : n ≠ "__hash__" := by
    rintro rfl
    exact hn (by simp [universalNames])
  have hcallable : (TypeRef.builtin .null).hasCallable n = false := by
    have hobject : n ∉ Builtin.object.memberNames :=
      fun h => hn (memberNames_subset h)
    have hnull : Builtin.null.memberNames = ["__bool__"] := by
      decide +kernel
    simp [TypeRef.hasCallable, hhash, TypeRef.lineage, Builtin.bases, hobject, hnull, hbool]
  have hnumber : Value.null.numberData? n = none := rfl
  have hnaming : Value.null.namingData? n = none := rfl
  simp [Value.givenMember?, commonData?_of_not_mem hn, hnumber, hnaming, hcallable, Value.typeOf]

theorem read?_null
    {n : String}
    (hn : n ∈ ["deputy", "boss"]) :
    staffViewing.read? .null n = none := by
  have hgiven : Value.null.givenMember? n = none := by
    refine givenMember?_null ?_ ?_
    · rcases List.mem_pair.mp hn with rfl | rfl <;> decide
    · rintro rfl
      simp at hn
  show staffViewing.env.member? .null n = none
  rw [Environment.member?, hgiven, Option.or_none]
  rfl

/-- Specs of employees are about their deputies and bosses. -/
theorem staffViewing_speaks :
    staffViewing.Speaks (· ∈ ["deputy", "boss"]) where
  callbacks := by
    intro v spec hspec
    obtain ⟨_, items, rfl, hparts, rfl⟩ := staffViewing_gives.of_specOf hspec
    cases hparts
    simp [Entry.ofList, Entry.ofValue, Entry.ofTarget, Entry.AllName, Entry.Names, Value.text?]
  isFieldName := by
    simp [IsFieldName]
  marker := fun _ => read?_null

theorem ownNamed_null :
    OwnNamed staffViewing (· ∈ ["deputy", "boss"]) .null :=
  ownNamed_of_no_parts (fun _ => read?_null) rfl rfl

theorem ownNamed_employee
    {deputy boss : Value}
    (hdeputy : OwnNamed staffViewing (· ∈ ["deputy", "boss"]) deputy)
    (hboss : OwnNamed staffViewing (· ∈ ["deputy", "boss"]) boss) :
    OwnNamed staffViewing (· ∈ ["deputy", "boss"]) (employee deputy boss) := by
  refine ownNamed_of_parts ?_ ?_ ?_
  · intro n hn
    obtain ⟨x, hx⟩ : ∃ x, Entries.getText? (employee deputy boss).slots n = some x := by
      rcases List.mem_pair.mp hn with rfl | rfl <;>
        simp [employee, Value.slots, getText?_textEntries, Fields.get?]
    refine (staffViewing.read?_of_field? ?_).trans hx.symm
    rw [Environment.field?, if_pos (show (employee deputy boss).hasFields = true from rfl), hx]
    rfl
  · intro e he
    rcases List.mem_pair.mp he with rfl | rfl
    · exact hdeputy
    · exact hboss
  · intro xs hxs
    cases hxs

/-- An employee whose deputy and boss are employees without any. -/
def teamLeader : Value :=
  employee (employee .null .null) (employee .null .null)

end Staff

section Boxes

/-- A visitor looks at boxes and sees nothing in place of what is hidden. -/
def visitedBoxes : Viewing :=
  { boxViewing [] with marker := .null }

/-- A box with something as its label that has no parts. -/
def labelledBox : Value :=
  box [("label", .function ⟨"label", 0⟩)]

theorem visitedBoxes_speaks :
    visitedBoxes.Speaks (· ∈ ["content", "label"]) where
  callbacks := by
    intro v spec hspec
    have hbox : ((boxViewing []).specOf v).outcome = .ok spec := hspec
    rw [Viewing.specOf_ofType hbox]
    trivial
  isFieldName := by
    simp [IsFieldName]
  marker := by
    intro n hn
    have hgiven : Value.null.givenMember? n = none := by
      refine givenMember?_null ?_ ?_
      · rcases List.mem_pair.mp hn with rfl | rfl <;> decide
      · rintro rfl
        simp at hn
    show visitedBoxes.env.member? .null n = none
    rw [Environment.member?, hgiven, Option.or_none]
    rfl

theorem ownNamed_crated
    {content : Value}
    (hcontent : OwnNamed visitedBoxes (· ∈ ["content", "label"]) content) :
    OwnNamed visitedBoxes (· ∈ ["content", "label"]) (crate content .null) := by
  have hnull : OwnNamed visitedBoxes (· ∈ ["content", "label"]) .null :=
    ownNamed_of_no_parts visitedBoxes_speaks.marker rfl rfl
  refine ownNamed_of_parts ?_ ?_ ?_
  · intro n hn
    rcases List.mem_pair.mp hn with rfl | rfl <;>
      simp [crate, Value.slots, getText?_textEntries, Fields.get?] <;> rfl
  · intro e he
    rcases List.mem_pair.mp he with rfl | rfl
    · exact hcontent
    · exact hnull
  · intro xs hxs
    cases hxs

theorem ownNamed_labelledBox :
    OwnNamed visitedBoxes (· ∈ ["content", "label"]) labelledBox := by
  have hlabel :
      ∀ n ∈ ["content", "label"], visitedBoxes.read? (.function ⟨"label", 0⟩) n = none := by
    have hall : ∀ n ∈ ["content", "label"],
        (visitedBoxes.read? (.function ⟨"label", 0⟩) n).isNone = true := by
      decide +kernel
    exact fun n hn => Option.isNone_iff_eq_none.mp (hall n hn)
  have hcontent : (visitedBoxes.read? labelledBox "content").isNone = true := by
    decide +kernel
  refine ownNamed_of_parts ?_ ?_ ?_
  · intro n hn
    rcases List.mem_pair.mp hn with rfl | rfl
    · rw [Option.isNone_iff_eq_none.mp hcontent]
      simp [labelledBox, box, Value.slots, getText?_textEntries, Fields.get?]
    · simp [labelledBox, box, Value.slots, getText?_textEntries, Fields.get?]
      rfl
  · intro e he
    obtain rfl := List.mem_singleton.mp he
    exact ownNamed_of_no_parts hlabel rfl rfl
  · intro xs hxs
    cases hxs

end Boxes

end Redaction
end AccessPolicy
