import AccessPolicy.Proofs.Redaction.Frame

/-!
# The course of a field

A spec takes the value of a field through one step for each entry about the field, in the order
of the entries, and all other entries leave it alone (`frameRun_of_apply`).

**Names.**  Nothing is asked of the object but that it has the field, and nothing of the spec but
that its own entries name fields by texts.  What stands inside of nested entries may name
anything.
-/

namespace AccessPolicy
namespace Redaction

namespace Entry

/-- Whether an entry itself names a field by a text, whatever is inside of it. -/
def NamesField : Entry → Prop
  | .hide field => IsFieldName field
  | .nested key _ => ∃ n, key.text? = some n ∧ IsFieldName n
  | .delegate key _ => ∃ n, key.text? = some n ∧ IsFieldName n
  | .malformed _ => True

theorem NamesFields.namesField
    {e : Entry}
    (h : e.NamesFields) :
    e.NamesField := by
  cases e with
  | nested key spec =>
      exact h.1
  | _ =>
      exact h

theorem AllNameFields.namesField
    {spec : Spec}
    (h : AllNameFields spec) :
    ∀ e ∈ spec, e.NamesField :=
  fun _ he => (namesFields_of_mem h he).namesField

/-- An entry is about a field, unless it is malformed. -/
theorem NamesField.exists_subject
    {e : Entry}
    (h : e.NamesField) :
    (∃ failure, e = .malformed failure) ∨ ∃ n, e.subject? = some n ∧ IsFieldName n := by
  cases e with
  | hide field =>
      exact Or.inr ⟨field, rfl, h⟩
  | nested key spec =>
      exact Or.inr h
  | delegate key type =>
      exact Or.inr h
  | malformed failure =>
      exact Or.inl ⟨failure, rfl⟩

theorem subject?_of_reworked?
    {e : Entry}
    {n : String}
    (h : e.reworked? = some n) :
    e.subject? = some n := by
  cases e with
  | hide field =>
      cases h
  | malformed failure =>
      cases h
  | _ =>
      exact h

end Entry

/-- What becomes of a value that is to be redacted, unless it is skipped. -/
def reworked (f : Value → Run Value) (x : Value) : Except Failure (Option Value) :=
  if isSkipped x then .ok none else (redactEach f x).outcome.map some

section Updates

variable {w : Viewing} {again : Spec → Value → Run Value} {v : Value} {updates result : Entries}
variable [w.env.HandlesUsually]

/-- Reworking a field sets what becomes of the value that is found for it. -/
theorem outcome_redactField
    {key : Value}
    {n : String}
    (hkey : key.text? = some n)
    (f : Value → Run Value) :
    (redactField w v updates key f).outcome =
      ((current? w v updates n).elim (.ok none) (reworked f)).map fun y? =>
        y?.elim updates (Entries.set updates key) := by
  rw [redactField_eq, if_pos (Value.isKey_of_text? hkey), fieldValue_of_text? hkey,
    Run.outcome_bind]
  cases current? w v updates n with
  | none =>
      rfl
  | some x =>
      cases hskip : isSkipped x with
      | true =>
          simp [reworked, hskip, Except.map, bind, Except.bind]
      | false =>
          have hrest :
              (redactEach f x >>= fun y => pure (Entries.set updates key y)).outcome =
                (redactEach f x).outcome.map (Entries.set updates key) := by
            rw [Run.outcome_bind]
            cases (redactEach f x).outcome <;> rfl
          simp only [Run.outcome_ofExcept, bind, Except.bind, Option.elim_some, reworked, hskip]
          refine hrest.trans ?_
          cases (redactEach f x).outcome <;> rfl

/-- An entry leaves updates as they are, or sets the field that it is about. -/
theorem sets_of_applyEntry
    {e : Entry}
    (hnames : e.NamesField)
    (h : (applyEntry w again v updates e).outcome = .ok result) :
    ∃ key n, e.subject? = some n ∧ key.text? = some n ∧ IsFieldName n ∧
      Sets key updates result := by
  cases e with
  | hide field =>
      refine ⟨.text field, field, rfl, rfl, hnames, ?_⟩
      rw [applyEntry_hide_eq_ok h]
      split
      · exact Or.inr ⟨w.marker, rfl⟩
      · exact Or.inl rfl
  | nested key spec =>
      obtain ⟨n, hkey, hn⟩ := hnames
      exact ⟨key, n, hkey, hkey, hn, (sets_of_redactField hkey h).1⟩
  | delegate key type =>
      obtain ⟨n, hkey, hn⟩ := hnames
      exact ⟨key, n, hkey, hkey, hn, (sets_of_redactField hkey h).1⟩
  | malformed failure =>
      cases h

theorem isNamed_of_applyEntry
    {e : Entry}
    (hnames : e.NamesField)
    (hupdates : Entries.IsNamed IsFieldName updates)
    (h : (applyEntry w again v updates e).outcome = .ok result) :
    Entries.IsNamed IsFieldName result := by
  obtain ⟨key, n, _, hkey, hn, hsets⟩ := sets_of_applyEntry hnames h
  exact isNamed_of_sets hkey hsets hn hupdates

theorem isNamed_of_collect
    {spec : Spec}
    (hnames : ∀ e ∈ spec, e.NamesField)
    (hupdates : Entries.IsNamed IsFieldName updates)
    (h : (collect w again v updates spec).outcome = .ok result) :
    Entries.IsNamed IsFieldName result := by
  induction spec generalizing updates with
  | nil =>
      cases h
      exact hupdates
  | cons e spec ih =>
      obtain ⟨he, hspec⟩ := List.forall_mem_cons.mp hnames
      obtain ⟨between, hentry, hrest⟩ := collect_cons_eq_ok h
      exact ih hspec (isNamed_of_applyEntry he hupdates hentry) hrest

/-- An entry about another field leaves what is found for a field as it is. -/
theorem current?_of_applyEntry
    {e : Entry}
    (hnames : e.NamesField)
    {n : String}
    (hne : e.subject? ≠ some n)
    (h : (applyEntry w again v updates e).outcome = .ok result) :
    current? w v result n = current? w v updates n := by
  obtain ⟨key, m, hsubject, hkey, _, hsets⟩ := sets_of_applyEntry hnames h
  unfold current?
  rw [getText?_of_sets hkey hsets]
  rintro rfl
  exact hne hsubject

theorem current?_of_collect
    {spec : Spec}
    (hnames : ∀ e ∈ spec, e.NamesField)
    {n : String}
    (hne : ∀ e ∈ spec, e.subject? ≠ some n)
    (h : (collect w again v updates spec).outcome = .ok result) :
    current? w v result n = current? w v updates n := by
  induction spec generalizing updates with
  | nil =>
      cases h
      rfl
  | cons e spec ih =>
      obtain ⟨he, hspec⟩ := List.forall_mem_cons.mp hnames
      obtain ⟨hother, hothers⟩ := List.forall_mem_cons.mp hne
      obtain ⟨between, hentry, hrest⟩ := collect_cons_eq_ok h
      rw [ih hspec hothers hrest, current?_of_applyEntry he hother hentry]

end Updates

section Steps

variable {w : Viewing} {again : Spec → Value → Run Value} {v : Value} {updates result : Entries}
variable [w.env.HandlesUsually]
variable {n : String} {x : Value}

/-- What applying a spec makes of a part of an object. -/
def Makes (again : Spec → Value → Run Value) (spec : Spec) (a b : Value) : Prop :=
  (again spec a).outcome = .ok b

/-- Reworking a field takes its value one step further if what is done to it is a step. -/
theorem frameStep_of_redactField
    {e : Entry}
    (he : ∀ field, e ≠ .hide field)
    {key : Value}
    (hkey : key.text? = some n)
    {f : Value → Run Value}
    (hstep : ∀ y, isSkipped x = false → (redactEach f x).outcome = .ok y →
      FrameStep w (Makes again) e x y)
    (hx : current? w v updates n = some x)
    (h : (redactField w v updates key f).outcome = .ok result) :
    ∃ y, current? w v result n = some y ∧ FrameStep w (Makes again) e x y := by
  rcases redactField_eq_ok hkey h with ⟨rfl, hskip⟩ | ⟨x', y, hx', hskip, hy, rfl⟩
  · exact ⟨x, hx, .skipped he (hskip x hx)⟩
  · rw [hx] at hx'
    cases hx'
    exact ⟨y, by rw [current?_set hkey, if_pos rfl], hstep y hskip hy⟩

/-- An entry about a field takes its value one step further. -/
theorem frameStep_of_applyEntry
    {e : Entry}
    (hsubject : e.subject? = some n)
    (hread : (w.read? v n).isSome = true)
    (hx : current? w v updates n = some x)
    (h : (applyEntry w again v updates e).outcome = .ok result) :
    ∃ y, current? w v result n = some y ∧ FrameStep w (Makes again) e x y := by
  cases e with
  | hide field =>
      cases hsubject
      have htext : (Value.text n).text? = some n := rfl
      have hresult := applyEntry_hide_eq_ok h
      rw [hread, if_pos rfl] at hresult
      refine ⟨w.marker, ?_, .hide n x⟩
      rw [hresult, current?_set htext, if_pos rfl]
  | nested key spec =>
      refine frameStep_of_redactField (by simp) hsubject ?_ hx h
      intro y hskip hy
      exact .nested hskip (each_of_redactEach (fun _ _ hab => hab) hy)
  | delegate key type =>
      refine frameStep_of_redactField (by simp) hsubject ?_ hx h
      intro y hskip hy
      have hdelegated : ∀ a b, (delegateItem w again key type a).outcome = .ok b →
          Delegated w (Makes again) type a b :=
        fun _ _ hab => delegateItem_eq_ok_iff.mp hab
      exact .delegate hskip (each_of_redactEach hdelegated hy)
  | malformed failure =>
      cases hsubject

/-- The entries of a spec take the value of a field through the run of those about it. -/
theorem frameRun_of_current?
    {spec : Spec}
    (hnames : ∀ e ∈ spec, e.NamesField)
    (hread : (w.read? v n).isSome = true)
    (hx : current? w v updates n = some x)
    (h : (collect w again v updates spec).outcome = .ok result) :
    ∃ y, current? w v result n = some y ∧ FrameRun w (Makes again) (about spec n) x y := by
  induction spec generalizing updates x with
  | nil =>
      cases h
      exact ⟨x, hx, rfl⟩
  | cons e spec ih =>
      obtain ⟨he, hspec⟩ := List.forall_mem_cons.mp hnames
      obtain ⟨between, hentry, hrest⟩ := collect_cons_eq_ok h
      by_cases hsubject : e.subject? = some n
      · obtain ⟨z, hz, hstep⟩ := frameStep_of_applyEntry hsubject hread hx hentry
        obtain ⟨y, hy, hrun⟩ := ih hspec hz hrest
        have habout : about (e :: spec) n = e :: about spec n := by
          simp [about, hsubject]
        rw [habout]
        exact ⟨y, hy, z, hstep, hrun⟩
      · have habout : about (e :: spec) n = about spec n := by
          simp [about, hsubject]
        rw [habout]
        exact ih hspec (by rw [current?_of_applyEntry he hsubject hentry, hx]) hrest

end Steps

section Applying

variable {w : Viewing} {d : Nat} {spec : Spec} {v r : Value}
variable [w.env.HandlesUsually]

/-- A result is the object with the updates in its slots, and a value without fields is its own
result. -/
theorem exists_updates_of_apply
    (hnames : ∀ e ∈ spec, e.NamesField)
    (h : (apply w (d + 1) spec v).outcome = .ok r) :
    ∃ updates, (collect w (apply w d) v [] spec).outcome = .ok updates ∧
      Entries.IsNamed IsFieldName updates ∧
      r = if v.hasFields then v.withSlots (Entries.merge v.slots updates) else v := by
  obtain ⟨updates, hcollect, hresult⟩ := apply_succ_eq_ok h
  have hupdates := isNamed_of_collect hnames Entries.isNamed_nil hcollect
  refine ⟨updates, hcollect, hupdates, ?_⟩
  rcases hresult with ⟨rfl, rfl⟩ | hreplace
  · have hslots : r.withSlots (Entries.merge r.slots []) = r := r.withSlots_slots
    rw [hslots, ite_self]
  · split
    · rename_i hfields
      exact mergeFields_eq_ok hfields hupdates hreplace
    · rename_i hfields
      exact mergeFields_of_not_hasFields (by simpa using hfields) hreplace

/-- A field of a result is what the entries about it make of the field of the object. -/
theorem frameRun_of_apply
    (hnames : ∀ e ∈ spec, e.NamesField)
    {n : String}
    {x : Value}
    (hx : w.env.field? v n = some x)
    (h : (apply w (d + 1) spec v).outcome = .ok r) :
    ∃ y, w.env.field? r n = some y ∧ FrameRun w (Makes (apply w d)) (about spec n) x y := by
  obtain ⟨updates, hcollect, hupdates, hr⟩ := exists_updates_of_apply hnames h
  have hread := w.read?_of_field? hx
  have hcurrent : current? w v [] n = some x := hread
  obtain ⟨y, hy, hrun⟩ :=
    frameRun_of_current? hnames (by rw [hread]; rfl) hcurrent hcollect
  refine ⟨y, ?_, hrun⟩
  rw [hr, if_pos (w.env.hasFields_of_field? hx), field?_eq_current? hupdates hx, hy]

end Applying

end Redaction
end AccessPolicy
