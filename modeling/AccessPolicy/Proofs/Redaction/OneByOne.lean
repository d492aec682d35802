import AccessPolicy.Proofs.Redaction.Course

/-!
# Entries applied one by one

Applying a spec collects the updates of all its entries and copies the object once at the end.
That is the same as applying each entry as a spec of its own to the result of the one before it,
with a copy for each (`apply_iff_applyEach`), so that a spec may be cut in two anywhere.

**Copies.**  After some entries the copy has the updates so far in its slots
(`Value.updated`).  One more update of the copy is one more update of the object
(`updated_set`), reading the copy finds what collecting finds (`read?_updated`), and the copy
admits the same fields (`admits_updated`).

**Steps.**  `replacement?` is what an entry puts in place of what it finds.  It is the same for
both ways, since both find the same.

**Names.**  A name may stand for something else than a field, and for a method it stands for one
that is bound to the very object.  The copy has another one then.  So what an entry is to rework
is a field, or at least does not depend on fields (`Value.Shares`).
-/

namespace AccessPolicy

/-- Whether what a name stands for beside the fields of an object is the same in all objects that
differ from it in fields only. -/
def Value.Shares (v : Value) (n : String) : Prop :=
  ∀ es, (v.withSlots es).typeMember? n = v.typeMember? n

theorem Value.commonData?_withSlots
    {v : Value}
    {n : String}
    (hmap : ∀ t es, v ≠ .map t es)
    (hname : n ≠ "__dict__")
    (es : Entries) :
    (v.withSlots es).commonData? n = v.commonData? n := by
  have htype : (v.withSlots es).typeOf = v.typeOf := v.typeOf_withSlots es
  cases v with
  | map t entries =>
      exact absurd rfl (hmap t entries)
  | object t fields =>
      unfold commonData? withSlots
      split
      · rfl
      · cases t <;> rfl
      · rfl
      · exact absurd rfl hname
      all_goals rfl
  | entity i t fields =>
      unfold commonData? withSlots
      split
      · rfl
      · rfl
      · rfl
      · exact absurd rfl hname
      all_goals rfl
  | module r members =>
      unfold commonData? withSlots
      split
      · rfl
      · rfl
      · rfl
      · exact absurd rfl hname
      all_goals rfl
  | _ =>
      rfl

/-- A name is shared unless it is that of a method, of a part of a number or of all fields. -/
theorem Value.shares_of_hasCallable_eq_false
    {v : Value}
    {n : String}
    (hfields : v.hasFields = true)
    (hname : n ≠ "__dict__")
    (hnumber : v.numberData? n = none)
    (hcallable : v.typeOf.hasCallable n = false) :
    v.Shares n := by
  intro es
  have hnumber' : (v.withSlots es).numberData? n = none := by
    have h := v.map_isSkipped_numberData?_withSlots es n
    rw [hnumber] at h
    simpa using h
  have hcallable' : (v.withSlots es).typeOf.hasCallable n = false := by
    rw [typeOf_withSlots, hcallable]
  have hgiven :
      (∀ t entries, v ≠ .map t entries) →
      (v.withSlots es).givenMember? n = v.givenMember? n := by
    intro hmap
    unfold givenMember?
    rw [commonData?_withSlots hmap hname, hnumber, hnumber', namingData?_withSlots hmap]
    cases v with
    | module r members =>
        have hform : r.form = .objectForm := by
          simpa [hasFields] using hfields
        simp_all [withSlots]
    | _ =>
        simp_all [withSlots]
  cases v with
  | map t entries =>
      rfl
  | object t fields =>
      exact hgiven (by simp)
  | entity i t fields =>
      exact hgiven (by simp)
  | module r members =>
      exact hgiven (by simp)
  | _ =>
      rfl

theorem Value.Shares.withSlots
    {v : Value}
    {n : String}
    (h : v.Shares n)
    (es : Entries) :
    (v.withSlots es).Shares n := by
  intro es'
  rw [withSlots_withSlots, h, h]

/-- A copy of an object with some updates in its slots. -/
def Value.updated (v : Value) (updates : Entries) : Value :=
  v.withSlots (Entries.merge v.slots updates)

namespace Redaction

/-- What nested and delegated entries of a spec find in an object is a field of it, or else does
not depend on its fields. -/
def ReadsShared (w : Viewing) (spec : Spec) (v : Value) : Prop :=
  ∀ e ∈ spec, ∀ n, e.reworked? = some n → (w.env.field? v n).isSome = true ∨ v.Shares n

/-- Names of which none is that of a method find nothing that depends on fields. -/
theorem readsShared_of_hasCallable_eq_false
    {w : Viewing}
    {spec : Spec}
    {v : Value}
    (hfields : v.hasFields = true)
    (hnames : ∀ e ∈ spec, e.NamesField)
    (hmethod : ∀ e ∈ spec, ∀ n, e.reworked? = some n →
      v.numberData? n = none ∧ v.typeOf.hasCallable n = false) :
    ReadsShared w spec v := by
  intro e he n hn
  obtain ⟨hnumber, hcallable⟩ := hmethod e he n hn
  have hname : IsFieldName n := by
    rcases (hnames e he).exists_subject with ⟨failure, rfl⟩ | ⟨m, hm, hname⟩
    · cases hn
    · obtain rfl : m = n := by
        simpa [hm] using Entry.subject?_of_reworked? hn
      exact hname
  exact Or.inr (Value.shares_of_hasCallable_eq_false hfields hname hnumber hcallable)

/-- Applies the entries of a spec one by one, each to the result of the one before. -/
def applyEach (w : Viewing) (depth : Nat) : Spec → Value → Run Value
  | [], v => .result v
  | e :: rest, v => do
      let between ← apply w depth [e] v
      applyEach w depth rest between

namespace Entry

/-- The key that an entry sets. -/
def key : Entry → Value
  | .hide field => .text field
  | .nested key _ => key
  | .delegate key _ => key
  | .malformed _ => .null

theorem text?_key
    (e : Entry) :
    e.key.text? = e.subject? := by
  cases e <;> rfl

end Entry

/-- What an entry puts in place of what is found for its name, if anything. -/
def replacement? (w : Viewing) (again : Spec → Value → Run Value) :
    Entry → Option Value → Except Failure (Option Value)
  | .malformed failure, _ => .error failure
  | _, none => .ok none
  | .hide _, some _ => .ok (some w.marker)
  | .nested _ spec, some x => reworked (again spec) x
  | .delegate key type, some x => reworked (delegateItem w again key type) x

section Copies

variable {w : Viewing} {v : Value} {updates : Entries} {n : String}

@[simp] theorem updated_nil
    (v : Value) :
    v.updated [] = v :=
  v.withSlots_slots

@[simp] theorem hasFields_updated
    (v : Value)
    (updates : Entries) :
    (v.updated updates).hasFields = v.hasFields :=
  v.hasFields_withSlots _

/-- One more update of a copy is one more update of the object. -/
theorem updated_set
    (hfields : v.hasFields = true)
    (hupdates : Entries.IsNamed IsFieldName updates)
    {key : Value}
    (hkey : key.text? = some n)
    (value : Value) :
    (v.updated updates).updated [(key, value)] = v.updated (Entries.set updates key value) := by
  have hone : ∀ es : Entries, Entries.merge es [(key, value)] = Entries.set es key value :=
    fun _ => rfl
  unfold Value.updated
  rw [Value.withSlots_withSlots, hone, Value.withSlots_set_slots hfields hkey,
    Entries.merge_set hkey hupdates]

theorem field?_updated
    (hfields : v.hasFields = true)
    (hupdates : Entries.IsNamed IsFieldName updates)
    (n : String) :
    w.env.field? (v.updated updates) n =
      (Entries.getText? updates n).or (w.env.field? v n) :=
  field?_of_apply hfields hupdates n

/-- A copy admits the fields that the object admits, as updates add no others. -/
theorem admits_updated
    (hupdates : Entries.IsNamed IsFieldName updates)
    (hadmits : ∀ m ∈ Entries.names updates, Admits v m) :
    Admits (v.updated updates) n ↔ Admits v n := by
  cases v with
  | object t fields =>
      have hget :
          Fields.get? (namedUpdates (Entries.merge (Value.textEntries fields) updates)) n =
            (Entries.getText? updates n).or (Fields.get? fields n) := by
        rw [get?_namedUpdates, Entries.getText?_merge hupdates, getText?_textEntries]
      show (t.isClosed = true → (Fields.get? (namedUpdates
          (Entries.merge (Value.textEntries fields) updates)) n).isSome = true) ↔
        (t.isClosed = true → (Fields.get? fields n).isSome = true)
      rw [hget, Option.isSome_or, Bool.or_eq_true, ← Entries.mem_names_iff]
      constructor
      · intro h hclosed
        rcases h hclosed with hmem | hfield
        · exact hadmits n hmem hclosed
        · exact hfield
      · intro h hclosed
        exact Or.inr (h hclosed)
  | _ =>
      exact Iff.rfl

variable [w.env.HandlesUsually]

/-- What reading a copy finds is there if an update sets it or the object has it. -/
theorem isSome_read?_updated
    (hfields : v.hasFields = true)
    (hupdates : Entries.IsNamed IsFieldName updates)
    (n : String) :
    (w.read? (v.updated updates) n).isSome = (current? w v updates n).isSome := by
  have hupdated : (v.updated updates).hasFields = true := by
    rw [hasFields_updated, hfields]
  have htype : ((v.updated updates).typeMember? n).isSome = (v.typeMember? n).isSome :=
    v.isSome_typeMember?_withSlots _ n
  rw [current?, w.read?_eq_or hfields, w.read?_eq_or hupdated, field?_updated hfields hupdates]
  simp only [Option.isSome_or, htype, Bool.or_assoc]

/-- Reading a copy finds what is found behind the updates. -/
theorem read?_updated
    (hfields : v.hasFields = true)
    (hupdates : Entries.IsNamed IsFieldName updates)
    (hshared : (w.env.field? v n).isSome = true ∨ v.Shares n) :
    w.read? (v.updated updates) n = current? w v updates n := by
  have hupdated : (v.updated updates).hasFields = true := by
    rw [hasFields_updated, hfields]
  rw [current?, w.read?_eq_or hfields, w.read?_eq_or hupdated, field?_updated hfields hupdates,
    Option.or_assoc]
  rcases hshared with hfield | hshares
  · rw [Option.or_of_isSome hfield, Option.or_of_isSome hfield]
  · have htype : (v.updated updates).typeMember? n = v.typeMember? n := hshares _
    rw [htype]

end Copies

section Steps

variable {w : Viewing} {again : Spec → Value → Run Value} {v : Value} {updates result : Entries}
variable {e : Entry} {n : String}

/-- An entry that only asks whether there is a field puts the same in its place whatever it is. -/
theorem replacement?_congr
    {found found' : Option Value}
    (hsome : found'.isSome = found.isSome)
    (hsame : ∀ n, e.reworked? = some n → found' = found)
    (hsubject : e.subject? = some n) :
    replacement? w again e found' = replacement? w again e found := by
  cases e with
  | hide field =>
      cases found <;> cases found' <;> first | rfl | cases hsome
  | nested key spec =>
      rw [hsame n hsubject]
  | delegate key type =>
      rw [hsame n hsubject]
  | malformed failure =>
      cases hsubject

theorem isSome_of_replacement?
    {found : Option Value}
    {y : Value}
    (h : replacement? w again e found = .ok (some y)) :
    found.isSome = true := by
  cases found with
  | none =>
      cases e <;> cases h
  | some x =>
      rfl

variable [w.env.HandlesUsually]

/-- Collecting sets what an entry puts in place of what is found for its name. -/
theorem outcome_applyEntry
    (hsubject : e.subject? = some n)
    (hfound : (current? w v updates n).isSome = (w.read? v n).isSome) :
    (applyEntry w again v updates e).outcome =
      (replacement? w again e (current? w v updates n)).map fun y? =>
        y?.elim updates (Entries.set updates e.key) := by
  cases e with
  | hide field =>
      cases hsubject
      rw [outcome_applyEntry_hide, ← hfound]
      cases current? w v updates n <;> rfl
  | nested key spec =>
      refine (outcome_redactField hsubject (again spec)).trans ?_
      cases current? w v updates n <;> rfl
  | delegate key type =>
      refine (outcome_redactField hsubject (delegateItem w again key type)).trans ?_
      cases current? w v updates n <;> rfl
  | malformed failure =>
      cases hsubject

end Steps

section Copying

variable {w : Viewing} {d : Nat} {v r : Value}
variable [w.env.HandlesUsually]

/-- Applying a spec to an object succeeds exactly if its entries do and the object admits all
fields that they set. -/
theorem apply_eq_ok_iff
    (hfields : v.hasFields = true)
    {spec : Spec}
    (hnames : ∀ e ∈ spec, e.NamesField) :
    (apply w (d + 1) spec v).outcome = .ok r
      ↔
    ∃ updates, (collect w (apply w d) v [] spec).outcome = .ok updates ∧
      (∀ n ∈ Entries.names updates, Admits v n) ∧ r = v.updated updates := by
  rw [apply, Run.outcome_bind_eq_ok_iff]
  refine exists_congr fun updates => and_congr_right fun hcollect => ?_
  have hupdates := isNamed_of_collect hnames Entries.isNamed_nil hcollect
  cases updates with
  | nil =>
      simp [Entries.names, eq_comm]
  | cons u updates =>
      show replaceFields w.env v (u :: updates) = .ok r ↔ _
      rw [replaceFields_eq_mergeFields]
      exact mergeFields_eq_ok_iff hfields hupdates

/-- A single entry puts its replacement of what it reads into a copy. -/
theorem apply_single_eq_ok_iff
    (hfields : v.hasFields = true)
    {e : Entry}
    (hnames : e.NamesField)
    {n : String}
    (hsubject : e.subject? = some n) :
    (apply w (d + 1) [e] v).outcome = .ok r
      ↔
    ∃ y?, replacement? w (apply w d) e (w.read? v n) = .ok y? ∧
      (y?.isSome = true → Admits v n) ∧ r = v.updated (y?.elim [] fun y => [(e.key, y)]) := by
  have hkey : e.key.text? = some n := e.text?_key.trans hsubject
  have hcollect :
      (collect w (apply w d) v [] [e]).outcome =
        (replacement? w (apply w d) e (w.read? v n)).map fun y? =>
          y?.elim [] fun y => [(e.key, y)] := by
    have hread : current? w v [] n = w.read? v n := rfl
    have hentry :
        (applyEntry w (apply w d) v [] e).outcome =
          (replacement? w (apply w d) e (w.read? v n)).map fun y? =>
            y?.elim [] (Entries.set [] e.key) := by
      rw [← hread]
      exact outcome_applyEntry hsubject rfl
    rw [collect, Run.outcome_bind, hentry]
    cases replacement? w (apply w d) e (w.read? v n) <;> rfl
  rw [apply_eq_ok_iff hfields (by simpa using hnames), hcollect]
  cases replacement? w (apply w d) e (w.read? v n) with
  | error failure =>
      simp [Except.map]
  | ok y? =>
      cases y? with
      | none =>
          simp [Except.map, Entries.names]
      | some y =>
          simp [Except.map, Entries.names, hkey]

end Copying

/-- What holds of the updates that some entries have collected: they set fields that the object
has and admits. -/
structure Collected (w : Viewing) (v : Value) (updates : Entries) : Prop where
  named : Entries.IsNamed IsFieldName updates
  found : ∀ n ∈ Entries.names updates, (w.read? v n).isSome = true
  admits : ∀ n ∈ Entries.names updates, Admits v n

section Runs

variable {w : Viewing} {d : Nat} {v r : Value} {updates : Entries} {e : Entry} {spec : Spec}

theorem collected_nil :
    Collected w v [] where
  named := Entries.isNamed_nil
  found := by
    simp [Entries.names]
  admits := by
    simp [Entries.names]

/-- What is found behind the updates is there exactly if the object has it. -/
theorem Collected.isSome_current?
    (h : Collected w v updates)
    (n : String) :
    (current? w v updates n).isSome = (w.read? v n).isSome := by
  rw [current?, Option.isSome_or]
  cases hget : (Entries.getText? updates n).isSome with
  | false =>
      rfl
  | true =>
      rw [h.found n (Entries.mem_names_iff.mpr hget)]
      rfl

/-- One more update of a field that the object has and admits. -/
theorem Collected.set
    (h : Collected w v updates)
    {key : Value}
    {n : String}
    (hkey : key.text? = some n)
    (hname : IsFieldName n)
    (hfound : (w.read? v n).isSome = true)
    {value : Value}
    (hadmits : ∀ m ∈ Entries.names (Entries.set updates key value), Admits v m) :
    Collected w v (Entries.set updates key value) where
  named := h.named.set hkey hname value
  found := (Entries.forall_mem_names_set hkey).mpr ⟨h.found, hfound⟩
  admits := hadmits

theorem applyEach_append
    (depth : Nat)
    (before after : Spec)
    (v : Value) :
    (applyEach w depth (before ++ after) v).outcome =
      (applyEach w depth before v).outcome >>= fun between =>
        (applyEach w depth after between).outcome := by
  induction before generalizing v with
  | nil =>
      rfl
  | cons e before ih =>
      rw [List.cons_append, applyEach, applyEach, Run.outcome_bind, Run.outcome_bind]
      cases (apply w depth [e] v).outcome with
      | error failure =>
          rfl
      | ok between =>
          exact ih between

/-- What entries find in an object they find in a copy of it, too. -/
theorem ReadsShared.updated
    (h : ReadsShared w spec v)
    (hfields : v.hasFields = true)
    (hupdates : Entries.IsNamed IsFieldName updates) :
    ReadsShared w spec (v.updated updates) := by
  intro e he n hn
  rcases h e he n hn with hfield | hshares
  · left
    rw [field?_updated hfields hupdates, Option.isSome_or, hfield, Bool.or_true]
  · exact Or.inr (hshares.withSlots _)

variable [w.env.HandlesUsually]

theorem Collected.applyEntry
    (h : Collected w v updates)
    (hnames : e.NamesField)
    {next : Entries}
    (hentry : (Redaction.applyEntry w (apply w d) v updates e).outcome = .ok next)
    (hadmits : ∀ m ∈ Entries.names next, Admits v m) :
    Collected w v next := by
  rcases hnames.exists_subject with ⟨failure, rfl⟩ | ⟨n, hsubject, hname⟩
  · cases hentry
  · have hkey : e.key.text? = some n := e.text?_key.trans hsubject
    rw [outcome_applyEntry hsubject (h.isSome_current? n)] at hentry
    cases hy : replacement? w (apply w d) e (current? w v updates n) with
    | error failure =>
        rw [hy] at hentry
        cases hentry
    | ok y? =>
        rw [hy] at hentry
        cases y? with
        | none =>
            cases hentry
            exact h
        | some y =>
            cases hentry
            have hfound : (w.read? v n).isSome = true := by
              rw [← h.isSome_current? n]
              exact isSome_of_replacement? hy
            exact h.set hkey hname hfound hadmits

/-- An entry applied to a copy takes it where collecting takes the updates, or else fails where
collecting fails or the object does not admit the field. -/
theorem apply_single_updated_iff
    (hfields : v.hasFields = true)
    (hupdates : Collected w v updates)
    (hnames : e.NamesField)
    (hshared : ∀ n, e.reworked? = some n → (w.env.field? v n).isSome = true ∨ v.Shares n) :
    (apply w (d + 1) [e] (v.updated updates)).outcome = .ok r
      ↔
    ∃ next, (applyEntry w (apply w d) v updates e).outcome = .ok next ∧
      (∀ n ∈ Entries.names next, Admits v n) ∧ r = v.updated next := by
  have hfields' : (v.updated updates).hasFields = true := by
    rw [hasFields_updated, hfields]
  rcases hnames.exists_subject with ⟨failure, rfl⟩ | ⟨n, hsubject, hname⟩
  · constructor
    · intro h
      cases h
    · rintro ⟨next, h, _⟩
      cases h
  · have hkey : e.key.text? = some n := e.text?_key.trans hsubject
    have hread :
        replacement? w (apply w d) e (w.read? (v.updated updates) n) =
          replacement? w (apply w d) e (current? w v updates n) := by
      refine replacement?_congr (isSome_read?_updated hfields hupdates.named n) ?_ hsubject
      intro m hm
      obtain rfl : m = n := by
        simpa [hsubject] using (Entry.subject?_of_reworked? hm).symm
      exact read?_updated hfields hupdates.named (hshared m hm)
    rw [apply_single_eq_ok_iff hfields' hnames hsubject, hread,
      outcome_applyEntry hsubject (hupdates.isSome_current? n)]
    cases replacement? w (apply w d) e (current? w v updates n) with
    | error failure =>
        simp [Except.map]
    | ok y? =>
        cases y? with
        | none =>
            have hadmits := hupdates.admits
            simp_all [Except.map]
        | some y =>
            simp only [Except.map, Except.ok.injEq, exists_eq_left', Option.elim_some,
              Option.isSome_some, forall_const]
            rw [updated_set hfields hupdates.named hkey, Entries.forall_mem_names_set hkey,
              admits_updated hupdates.named hupdates.admits, and_iff_right hupdates.admits]

/-- Names that are set stay among those of the updates. -/
theorem names_subset_of_collect
    (hnames : ∀ e ∈ spec, e.NamesField)
    {again : Spec → Value → Run Value}
    {result : Entries}
    (h : (collect w again v updates spec).outcome = .ok result) :
    Entries.names updates ⊆ Entries.names result := by
  induction spec generalizing updates with
  | nil =>
      cases h
      exact List.Subset.refl _
  | cons e spec ih =>
      obtain ⟨he, hspec⟩ := List.forall_mem_cons.mp hnames
      obtain ⟨between, hentry, hrest⟩ := collect_cons_eq_ok h
      obtain ⟨key, n, _, hkey, _, hsets⟩ := sets_of_applyEntry he hentry
      refine List.Subset.trans ?_ (ih hspec hrest)
      rcases hsets with rfl | ⟨y, rfl⟩
      · exact List.Subset.refl _
      · exact (Entries.forall_mem_names_set hkey).mp (fun _ hm => hm) |>.1

/-- Entries applied one by one to a copy take it where collecting takes the updates. -/
theorem applyEach_updated_iff
    (hfields : v.hasFields = true)
    (hupdates : Collected w v updates)
    (hnames : ∀ e ∈ spec, e.NamesField)
    (hshared : ReadsShared w spec v) :
    (applyEach w (d + 1) spec (v.updated updates)).outcome = .ok r
      ↔
    ∃ result, (collect w (apply w d) v updates spec).outcome = .ok result ∧
      (∀ n ∈ Entries.names result, Admits v n) ∧ r = v.updated result := by
  induction spec generalizing updates with
  | nil =>
      constructor
      · intro h
        cases h
        exact ⟨updates, rfl, hupdates.admits, rfl⟩
      · rintro ⟨result, h, _, rfl⟩
        cases h
        rfl
  | cons e spec ih =>
      obtain ⟨he, hspec⟩ := List.forall_mem_cons.mp hnames
      obtain ⟨hshares, hrest⟩ := List.forall_mem_cons.mp hshared
      rw [applyEach, Run.outcome_bind_eq_ok_iff]
      simp only [apply_single_updated_iff hfields hupdates he hshares, collect,
        Run.outcome_bind_eq_ok_iff]
      constructor
      · rintro ⟨_, ⟨next, hentry, hadmits, rfl⟩, hafter⟩
        obtain ⟨result, hcollect, hresult⟩ :=
          (ih (hupdates.applyEntry he hentry hadmits) hspec hrest).mp hafter
        exact ⟨result, ⟨next, hentry, hcollect⟩, hresult⟩
      · rintro ⟨result, ⟨next, hentry, hcollect⟩, hadmits, hr⟩
        have hadmits' : ∀ n ∈ Entries.names next, Admits v n :=
          fun n hn => hadmits n (names_subset_of_collect hspec hcollect hn)
        exact ⟨v.updated next, ⟨next, hentry, hadmits', rfl⟩,
          (ih (hupdates.applyEntry he hentry hadmits') hspec hrest).mpr
            ⟨result, hcollect, hadmits, hr⟩⟩

/-- Applying a spec and applying its entries one by one come to the same. -/
theorem apply_iff_applyEach
    (hfields : v.hasFields = true)
    (hnames : ∀ e ∈ spec, e.NamesField)
    (hshared : ReadsShared w spec v) :
    (apply w (d + 1) spec v).outcome = .ok r ↔ (applyEach w (d + 1) spec v).outcome = .ok r := by
  have hrun := applyEach_updated_iff (d := d) (r := r) hfields collected_nil hnames hshared
  rw [updated_nil] at hrun
  rw [hrun, apply_eq_ok_iff hfields hnames]

end Runs

section Articles

/-- What an editor is shown of an article: authors are named twice, once before the title and once
behind it. -/
def editorSpec : Spec :=
  [.nested (.text "authors") [.hide "phone"], .hide "title",
    .nested (.text "authors") [.hide "email"]]

end Articles

section Boxes

/-- Whether a method that was put into a field of a box belongs to a box whose label is a number. -/
def ownerHasNumber (w : Viewing) (r : Value) : Bool :=
  match w.read? r callbackName with
  | some (.method owner _) => (w.read? owner "label").any (·.isInstance (.builtin .int))
  | _ => false

end Boxes

end Redaction
end AccessPolicy
