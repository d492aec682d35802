import AccessPolicy.Proofs.Redaction.Fields

/-!
# What the entries of a spec do to a field

Applying a spec collects updates, and each entry may put a new value in place of a field or
of what an earlier entry put there.  So the value of a field goes through a row of steps, one
for each entry that names it, and is left alone by all others.

**Steps.**  `Reworks` is what one entry makes of the value of a field.  A property of values
that every step keeps is a property of what the whole spec makes of a field
(`collect_keeps`).

**Result.**  The result of applying a spec is the object with the collected updates put into
its slots (`apply_eq_ok`).
-/

namespace AccessPolicy
namespace Redaction

namespace Entry

mutual

/-- Whether an entry and all those inside of it name fields by texts. -/
def NamesFields : Entry → Prop
  | .hide field => IsFieldName field
  | .nested key spec => (∃ n, key.text? = some n ∧ IsFieldName n) ∧ AllNameFields spec
  | .delegate key _ => ∃ n, key.text? = some n ∧ IsFieldName n
  | .malformed _ => True

/-- Whether all entries of a spec and all those inside of them name fields by texts. -/
def AllNameFields : List Entry → Prop
  | [] => True
  | e :: rest => NamesFields e ∧ AllNameFields rest

end

theorem allNameFields_append
    (before after : Spec) :
    AllNameFields (before ++ after) ↔ AllNameFields before ∧ AllNameFields after := by
  induction before with
  | nil =>
      simp [AllNameFields]
  | cons e before ih =>
      simp [AllNameFields, ih, and_assoc]

theorem namesFields_of_mem
    {spec : Spec}
    (hspec : AllNameFields spec)
    {e : Entry}
    (he : e ∈ spec) :
    NamesFields e := by
  obtain ⟨before, after, rfl⟩ := List.append_of_mem he
  exact ((allNameFields_append before (e :: after)).mp hspec).2.1

end Entry

/-- Whether the specs that callbacks give name fields by texts. -/
def Viewing.CallbacksNameFields (w : Viewing) : Prop :=
  ∀ v spec, (w.specOf v).outcome = .ok spec → Entry.AllNameFields spec

/-- An object that can be asked has the spec that its callback gives. -/
theorem Viewing.specValues_eq
    {w : Viewing}
    {v : Value}
    (hhides : hidesCallback w.env v = false) :
    w.specValues v = w.callbackValues v := by
  unfold specValues
  rw [hhides, callbackValues]
  cases w.optionMap <;> rfl

/-- An object that gives a spec has nothing of its own in the place of its callback. -/
theorem Viewing.hidesCallback_of_specOf
    {w : Viewing}
    {v : Value}
    {spec : Spec}
    (h : (w.specOf v).outcome = .ok spec) :
    hidesCallback w.env v = false := by
  unfold specOf specValues at h
  obtain ⟨items, hitems, _⟩ := Run.outcome_bind_eq_ok_iff.mp h
  obtain ⟨_, _, hitems⟩ := Run.outcome_bind_eq_ok_iff.mp hitems
  cases hhides : hidesCallback w.env v with
  | false =>
      rfl
  | true =>
      rw [hhides] at hitems
      cases hitems

/-- The spec of an object is what its callback gives, read entry by entry. -/
theorem Viewing.specOf_eq_ok
    {w : Viewing}
    {v : Value}
    {spec : Spec}
    (h : (w.specOf v).outcome = .ok spec) :
    ∃ c options given items,
      callbackOf? w.env w.registry v = some c ∧ w.optionMap = .ok options ∧
        c.run [v, w.subject, options] = .ok given ∧ given.parts? = some items ∧
        spec = Entry.ofList items := by
  have hhides := hidesCallback_of_specOf h
  unfold specOf at h
  rw [specValues_eq hhides] at h
  obtain ⟨items, hitems, hspec⟩ := Run.outcome_bind_eq_ok_iff.mp h
  unfold callbackValues at hitems
  obtain ⟨options, hoptions, hitems⟩ := Run.outcome_bind_eq_ok_iff.mp hitems
  cases hcallback : callbackOf? w.env w.registry v with
  | none =>
      rw [hcallback] at hitems
      cases hitems
  | some c =>
      rw [hcallback] at hitems
      obtain ⟨given, hgiven, hparts⟩ := except_bind_eq_ok_iff.mp hitems
      split at hparts
      · rename_i items' hitems'
        cases hparts
        exact ⟨c, options, given, items, rfl, hoptions, hgiven, hitems',
          (Except.ok.inj hspec).symm⟩
      · cases hparts

/-- Whether types bring callbacks that give the same whatever they are asked, each a value with
some property. -/
structure Viewing.Gives (w : Viewing) (P : Value → Prop) : Prop where
  registry : w.registry = none
  callback : ∀ t run, w.env.callback t = some run →
    ∃ given, P given ∧ ∀ args, run args = .ok given

section Gives

variable {w : Viewing} {P : Value → Prop} {v : Value}

theorem Viewing.Gives.run
    (h : w.Gives P)
    {c : Callback}
    (hcallback : callbackOf? w.env w.registry v = some c) :
    ∃ given, P given ∧ ∀ args, c.run args = .ok given := by
  unfold callbackOf? ownCallback? at hcallback
  rw [h.registry, Option.bind_none, Option.or_none] at hcallback
  obtain ⟨t, _, ht⟩ := List.exists_of_findSome?_eq_some hcallback
  obtain ⟨run, hrun, rfl⟩ := Option.map_eq_some_iff.mp ht
  exact h.callback t run hrun

theorem Viewing.Gives.of_specOf
    (h : w.Gives P)
    {spec : Spec}
    (hspec : (w.specOf v).outcome = .ok spec) :
    ∃ given items, P given ∧ given.parts? = some items ∧ spec = Entry.ofList items := by
  obtain ⟨c, options, given, items, hcallback, _, hgiven, hparts, heq⟩ := specOf_eq_ok hspec
  obtain ⟨given', hP, hrun⟩ := h.run hcallback
  rw [hrun] at hgiven
  cases hgiven
  exact ⟨given, items, hP, hparts, heq⟩

end Gives

/-- What is done to a single value is done to each item of a list or tuple. -/
theorem redactEach_eq_ok
    {f : Value → Run Value}
    {x y : Value}
    (h : (redactEach f x).outcome = .ok y) :
    (x.items? = none ∧ (f x).outcome = .ok y) ∨
      ∃ xs ys, x.items? = some xs ∧ y.items? = some ys ∧ y.typeOf = x.typeOf ∧
        List.Forall₂ (fun a b => (f a).outcome = .ok b) xs ys := by
  unfold redactEach at h
  split at h
  · rename_i xs
    obtain ⟨ys, hys, rfl⟩ := Run.outcome_map_eq_ok_iff.mp h
    exact Or.inr ⟨xs, ys, rfl, rfl, rfl, Run.outcome_forEach_eq_ok_iff.mp hys⟩
  · rename_i xs
    obtain ⟨ys, hys, rfl⟩ := Run.outcome_map_eq_ok_iff.mp h
    exact Or.inr ⟨xs, ys, rfl, rfl, rfl, Run.outcome_forEach_eq_ok_iff.mp hys⟩
  · rename_i hlist htuple
    left
    refine ⟨?_, h⟩
    unfold Value.items?
    split
    · exact absurd rfl (hlist _)
    · exact absurd rfl (htuple _)
    · rfl

theorem redactEach_of_items?_eq_none
    {x : Value}
    (hitems : x.items? = none)
    (f : Value → Run Value) :
    redactEach f x = f x := by
  cases x <;> first | rfl | cases hitems

section Steps

variable (w : Viewing) (again : Spec → Value → Run Value) (v : Value)

/-- The value of a field after some updates. -/
def current? (updates : Entries) (name : String) : Option Value :=
  (Entries.getText? updates name).or (w.read? v name)

/-- The value that is found for a key: that of an update, or that of the field. -/
def fieldValue (updates : Entries) (key : Value) : Except Failure (Option Value) :=
  (Entries.get? updates key).elim (w.readField v key) fun x => .ok (some x)

/-- What becomes of the updates if some value is found for a key. -/
inductive FieldStep (f : Value → Run Value) (updates : Entries) (key : Value) :
    Option Value → Entries → Prop
  | absent :
      FieldStep f updates key none updates
  | skipped
      {x : Value}
      (hskip : isSkipped x = true) :
      FieldStep f updates key (some x) updates
  | replaced
      {x y : Value}
      (hskip : isSkipped x = false)
      (h : (redactEach f x).outcome = .ok y) :
      FieldStep f updates key (some x) (Entries.set updates key y)

/-- What an entry may make of the value of a field: the marker, or what a spec or a callback
makes of it and of its items. -/
inductive Reworks : Value → Value → Prop
  | hide (x : Value) :
      Reworks x w.marker
  | nested
      {spec : Spec}
      {x y : Value}
      (hspec : Entry.AllNameFields spec)
      (hskip : isSkipped x = false)
      (h : (redactEach (again spec) x).outcome = .ok y) :
      Reworks x y
  | delegate
      {key : Value}
      {type : TypeRef}
      {x y : Value}
      (hskip : isSkipped x = false)
      (h : (redactEach (delegateItem w again key type) x).outcome = .ok y) :
      Reworks x y

end Steps

section Collecting

variable {w : Viewing}
variable {again : Spec → Value → Run Value} {v : Value}

/-- A value that is left to its callback is skipped, or its own spec is applied to it. -/
theorem delegateItem_eq_ok_iff
    {key : Value}
    {type : TypeRef}
    {x y : Value} :
    (delegateItem w again key type x).outcome = .ok y ↔
      (isSkipped x = true ∧ y = x) ∨
        (isSkipped x = false ∧ x.isInstance type = true ∧
          ∃ spec, (w.specOf x).outcome = .ok spec ∧ (again spec x).outcome = .ok y) := by
  unfold delegateItem
  cases isSkipped x with
  | true =>
      constructor
      · intro h
        cases h
        exact Or.inl ⟨rfl, rfl⟩
      · rintro (⟨_, rfl⟩ | ⟨h, _⟩)
        · rfl
        · cases h
  | false =>
      cases x.isInstance type with
      | true =>
          simp [Run.outcome_bind_eq_ok_iff]
      | false =>
          constructor
          · intro h
            cases h
          · rintro (⟨h, _⟩ | ⟨_, h, _⟩) <;> cases h

theorem current?_set
    {key : Value}
    {n : String}
    (hkey : key.text? = some n)
    (updates : Entries)
    (value : Value)
    (m : String) :
    current? w v (Entries.set updates key value) m =
      if m = n then some value else current? w v updates m := by
  unfold current?
  rw [Entries.getText?_set hkey]
  split
  · rfl
  · rfl

/-- Reworking a field, with what is found for its key taken apart from what is done to it. -/
theorem redactField_eq
    (updates : Entries)
    (key : Value)
    (f : Value → Run Value) :
    redactField w v updates key f =
      if key.isKey then
        Run.ofExcept (fieldValue w v updates key) >>= fun found =>
          found.elim (pure updates) fun x =>
            if isSkipped x then pure updates
            else redactEach f x >>= fun y => pure (Entries.set updates key y)
      else .fail .wrongType := by
  unfold redactField fieldValue
  cases key.isKey with
  | false =>
      rfl
  | true =>
      cases Entries.get? updates key with
      | none =>
          refine congrArg (Run.ofExcept (w.readField v key) >>= ·) (funext fun found => ?_)
          cases found with
          | none =>
              rfl
          | some x =>
              rfl
      | some x =>
          rfl

theorem fieldStep_iff
    {f : Value → Run Value}
    {updates result : Entries}
    {key : Value}
    {found : Option Value} :
    FieldStep f updates key found result ↔
      (found.elim (pure updates) fun x =>
        if isSkipped x then pure updates
        else redactEach f x >>= fun y => pure (Entries.set updates key y)
        : Run Entries).outcome = .ok result := by
  constructor
  · intro h
    cases h with
    | absent =>
        rfl
    | skipped hskip =>
        rw [Option.elim_some, if_pos hskip]
        rfl
    | replaced hskip hy =>
        rw [Option.elim_some, if_neg (by simp [hskip])]
        exact Run.outcome_bind_eq_ok_iff.mpr ⟨_, hy, rfl⟩
  · intro h
    cases found with
    | none =>
        cases h
        exact .absent
    | some x =>
        rw [Option.elim_some] at h
        split at h
        · rename_i hskip
          cases h
          exact .skipped hskip
        · rename_i hskip
          obtain ⟨y, hy, hset⟩ := Run.outcome_bind_eq_ok_iff.mp h
          cases hset
          exact .replaced (by simpa using hskip) hy

/-- Reworking a field takes the step for what is found for its key. -/
theorem redactField_eq_ok_iff
    {updates result : Entries}
    {key : Value}
    {f : Value → Run Value} :
    (redactField w v updates key f).outcome = .ok result ↔
      key.isKey = true ∧
        ∃ found, fieldValue w v updates key = .ok found ∧
          FieldStep f updates key found result := by
  rw [redactField_eq]
  cases hkey : key.isKey with
  | false =>
      simp [Run.fail]
  | true =>
      rw [if_pos rfl, Run.outcome_bind_eq_ok_iff]
      simp only [true_and]
      exact exists_congr fun found => and_congr_right fun _ => fieldStep_iff.symm

/-- Setting a field to what it is reworked to leaves all others alone. -/
theorem reworks_of_set
    {updates : Entries}
    (hupdates : Entries.IsNamed IsFieldName updates)
    {key : Value}
    {n : String}
    (hkey : key.text? = some n)
    (hn : IsFieldName n)
    {x y : Value}
    (hx : current? w v updates n = some x)
    (hxy : Reworks w again x y) :
    Entries.IsNamed IsFieldName (Entries.set updates key y) ∧
      ∀ m, current? w v (Entries.set updates key y) m = current? w v updates m ∨
        ∃ x' y', current? w v updates m = some x' ∧
          current? w v (Entries.set updates key y) m = some y' ∧ Reworks w again x' y' := by
  refine ⟨hupdates.set hkey hn y, ?_⟩
  intro m
  rw [current?_set hkey]
  by_cases hm : m = n
  · subst hm
    exact Or.inr ⟨x, y, hx, by simp, hxy⟩
  · exact Or.inl (by simp [hm])

theorem collect_append
    (updates : Entries)
    (before after : Spec) :
    (collect w again v updates (before ++ after)).outcome =
      (collect w again v updates before).outcome >>= fun updates' =>
        (collect w again v updates' after).outcome := by
  induction before generalizing updates with
  | nil =>
      rfl
  | cons e before ih =>
      rw [List.cons_append, collect, collect, Run.outcome_bind, Run.outcome_bind]
      cases (applyEntry w again v updates e).outcome with
      | error f =>
          rfl
      | ok updates' =>
          exact ih updates'

theorem collect_cons_eq_ok
    {updates updates' : Entries}
    {e : Entry}
    {spec : Spec}
    (h : (collect w again v updates (e :: spec)).outcome = .ok updates') :
    ∃ between, (applyEntry w again v updates e).outcome = .ok between ∧
      (collect w again v between spec).outcome = .ok updates' := by
  rw [collect] at h
  exact Run.outcome_bind_eq_ok_iff.mp h

variable [w.env.HandlesUsually]

/-- Hiding a field puts the marker in its place if there is such a field. -/
theorem outcome_applyEntry_hide
    (updates : Entries)
    (field : String) :
    (applyEntry w again v updates (.hide field)).outcome =
      .ok
        (if (w.read? v field).isSome then Entries.set updates (.text field) w.marker
        else updates) := by
  have htext : (Value.text field).text? = some field := rfl
  simp only [applyEntry, w.readField_of_text? htext]
  cases w.read? v field with
  | none =>
      rfl
  | some x =>
      rfl

theorem applyEntry_hide_eq_ok
    {updates updates' : Entries}
    {field : String}
    (h : (applyEntry w again v updates (.hide field)).outcome = .ok updates') :
    updates' =
      if (w.read? v field).isSome then Entries.set updates (.text field) w.marker
      else updates := by
  rw [outcome_applyEntry_hide] at h
  exact (Except.ok.inj h).symm

theorem fieldValue_of_text?
    {key : Value}
    {n : String}
    (hkey : key.text? = some n)
    (updates : Entries) :
    fieldValue w v updates key = .ok (current? w v updates n) := by
  unfold fieldValue current?
  rw [Entries.get?_of_text? hkey, w.readField_of_text? hkey]
  cases Entries.getText? updates n with
  | none =>
      rfl
  | some x =>
      rfl

/-- Reworking a field leaves a value to be skipped alone and replaces any other. -/
theorem redactField_eq_ok
    {updates updates' : Entries}
    {key : Value}
    {n : String}
    {f : Value → Run Value}
    (hkey : key.text? = some n)
    (h : (redactField w v updates key f).outcome = .ok updates') :
    (updates' = updates ∧ ∀ x, current? w v updates n = some x → isSkipped x = true) ∨
      ∃ x y, current? w v updates n = some x ∧ isSkipped x = false ∧
        (redactEach f x).outcome = .ok y ∧ updates' = Entries.set updates key y := by
  obtain ⟨_, found, hfound, hstep⟩ := redactField_eq_ok_iff.mp h
  rw [fieldValue_of_text? hkey] at hfound
  cases hstep with
  | absent =>
      left
      refine ⟨rfl, ?_⟩
      intro x hx
      rw [Except.ok.inj hfound] at hx
      cases hx
  | skipped hskip =>
      left
      refine ⟨rfl, ?_⟩
      intro x hx
      rw [Except.ok.inj hfound] at hx
      cases hx
      exact hskip
  | replaced hskip hy =>
      right
      exact ⟨_, _, Except.ok.inj hfound, hskip, hy, rfl⟩

/-- One entry reworks at most the field it names, and updates stay named. -/
theorem applyEntry_eq_ok
    {updates updates' : Entries}
    {e : Entry}
    (hnames : e.NamesFields)
    (hupdates : Entries.IsNamed IsFieldName updates)
    (h : (applyEntry w again v updates e).outcome = .ok updates') :
    Entries.IsNamed IsFieldName updates' ∧
      ∀ n, current? w v updates' n = current? w v updates n ∨
        ∃ x y, current? w v updates n = some x ∧ current? w v updates' n = some y ∧
          Reworks w again x y := by
  cases e with
  | hide field =>
      have hresult := applyEntry_hide_eq_ok h
      cases hread : w.read? v field with
      | none =>
          simp only [hread, Option.isSome_none, Bool.false_eq_true, if_false] at hresult
          subst hresult
          exact ⟨hupdates, fun n => Or.inl rfl⟩
      | some x =>
          simp only [hread, Option.isSome_some, if_true] at hresult
          subst hresult
          have hcurrent : ∃ x', current? w v updates field = some x' := by
            unfold current?
            rw [hread]
            cases Entries.getText? updates field with
            | none =>
                exact ⟨x, rfl⟩
            | some x' =>
                exact ⟨x', rfl⟩
          obtain ⟨x', hx'⟩ := hcurrent
          exact reworks_of_set hupdates rfl hnames hx' (.hide x')
  | nested key spec =>
      obtain ⟨⟨n, hkey, hn⟩, hspec⟩ := hnames
      rcases redactField_eq_ok hkey h with ⟨rfl, _⟩ | ⟨x, y, hx, hskip, hy, rfl⟩
      · exact ⟨hupdates, fun n => Or.inl rfl⟩
      · exact reworks_of_set hupdates hkey hn hx (.nested hspec hskip hy)
  | delegate key type =>
      obtain ⟨n, hkey, hn⟩ := hnames
      rcases redactField_eq_ok hkey h with ⟨rfl, _⟩ | ⟨x, y, hx, hskip, hy, rfl⟩
      · exact ⟨hupdates, fun n => Or.inl rfl⟩
      · exact reworks_of_set hupdates hkey hn hx (.delegate hskip hy)
  | malformed failure =>
      cases h

/-- What every step keeps of the value of a field, the whole spec keeps. -/
theorem collect_keeps
    {updates updates' : Entries}
    {spec : Spec}
    (hspec : Entry.AllNameFields spec)
    (hupdates : Entries.IsNamed IsFieldName updates)
    (h : (collect w again v updates spec).outcome = .ok updates') :
    Entries.IsNamed IsFieldName updates' ∧
      ∀ (Q : Value → Prop) (n : String) (x : Value),
        (∀ x y, Reworks w again x y → Q x → Q y) →
        current? w v updates n = some x →
        Q x →
        ∃ y, current? w v updates' n = some y ∧ Q y := by
  induction spec generalizing updates with
  | nil =>
      cases h
      exact ⟨hupdates, fun Q n x _ hx hQ => ⟨x, hx, hQ⟩⟩
  | cons e spec ih =>
      obtain ⟨between, hentry, hrest⟩ := collect_cons_eq_ok h
      obtain ⟨hbetween, hsteps⟩ := applyEntry_eq_ok hspec.1 hupdates hentry
      obtain ⟨hupdates', hkeeps⟩ := ih hspec.2 hbetween hrest
      refine ⟨hupdates', ?_⟩
      intro Q n x hQ hx hQx
      rcases hsteps n with hsame | ⟨x', y, hx', hy, hxy⟩
      · exact hkeeps Q n x hQ (hsame.trans hx) hQx
      · rw [hx] at hx'
        cases hx'
        exact hkeeps Q n y hQ hy (hQ x y hxy hQx)

end Collecting

section Applying

variable {w : Viewing}

/-- The fields of a result: those that were updated, and all others as they were. -/
theorem field?_of_apply
    {v : Value}
    {updates : Entries}
    (hfields : v.hasFields = true)
    (hupdates : Entries.IsNamed IsFieldName updates)
    (name : String) :
    w.env.field? (v.withSlots (Entries.merge v.slots updates)) name =
      (Entries.getText? updates name).or (w.env.field? v name) := by
  rw [w.env.field?_withSlots hfields, Entries.getText?_merge hupdates, Option.or_assoc]
  unfold Environment.field?
  rw [if_pos hfields]

/-- Redaction of anything redacts it, or the items of a list or tuple, by callbacks. -/
theorem exists_redactEach_of_redact
    {v r : Value}
    (hnull : v ≠ .null)
    (h : (redact w v).outcome = .ok r) :
    ∃ d, (redactEach (redactObject w d) v).outcome = .ok r := by
  unfold redact at h
  split at h
  · exact absurd rfl hnull
  · obtain ⟨_, _, heach⟩ := Run.outcome_bind_eq_ok_iff.mp h
    exact ⟨_, heach⟩

theorem redactObject_eq_ok
    {d : Nat}
    {v r : Value}
    (h : (redactObject w d v).outcome = .ok r) :
    ∃ spec, (w.specOf v).outcome = .ok spec ∧ (apply w d spec v).outcome = .ok r := by
  unfold redactObject at h
  exact Run.outcome_bind_eq_ok_iff.mp h

/-- Redaction of a single value redacts it by its callback. -/
theorem redact_eq_redactObject
    {v : Value}
    (hnull : v ≠ .null)
    (hitems : v.items? = none) :
    redact w v = redactObject w depthLimit v := by
  unfold redact
  split
  · exact absurd rfl hnull
  · rw [redactEach_of_items?_eq_none hitems]
    cases hoptions : w.optionMap with
    | ok options =>
        rfl
    | error e =>
        rw [redactObject, Viewing.specOf, Viewing.specValues, hoptions]
        rfl

/-- Redaction of a single value with a callback applies the spec that this gives. -/
theorem outcome_redact_of_specOf
    {spec : Spec}
    {v : Value}
    (hnull : v ≠ .null)
    (hitems : v.items? = none)
    (hspec : (w.specOf v).outcome = .ok spec) :
    (redact w v).outcome = (apply w depthLimit spec v).outcome := by
  rw [redact_eq_redactObject hnull hitems, redactObject, Run.outcome_bind_of_ok hspec]

/-- Redaction of an object applies its own spec. -/
theorem outcome_redact_of_hasFields
    {spec : Spec}
    {v : Value}
    (hfields : v.hasFields = true)
    (hspec : (w.specOf v).outcome = .ok spec) :
    (redact w v).outcome = (apply w depthLimit spec v).outcome := by
  have hnull : v ≠ .null := by
    rintro rfl
    cases hfields
  exact outcome_redact_of_specOf hnull (Value.items?_of_hasFields hfields) hspec

variable [w.env.HandlesUsually]

/-- Applying a spec puts the collected updates into the slots of an object, and gives a value
without fields back. -/
theorem apply_eq_ok
    {depth : Nat}
    {spec : Spec}
    {v r : Value}
    (hspec : Entry.AllNameFields spec)
    (h : (apply w depth spec v).outcome = .ok r) :
    ∃ d updates, depth = d + 1 ∧
      (collect w (apply w d) v [] spec).outcome = .ok updates ∧
      Entries.IsNamed IsFieldName updates ∧
      r = if v.hasFields then v.withSlots (Entries.merge v.slots updates) else v := by
  cases depth with
  | zero =>
      cases h
  | succ d =>
      rw [apply] at h
      obtain ⟨updates, hcollect, hresult⟩ := Run.outcome_bind_eq_ok_iff.mp h
      have hnamed := (collect_keeps hspec Entries.isNamed_nil hcollect).1
      refine ⟨d, updates, rfl, hcollect, hnamed, ?_⟩
      cases updates with
      | nil =>
          have hsame : r = v := (Except.ok.inj hresult).symm
          have hslots : v.withSlots (Entries.merge v.slots []) = v := v.withSlots_slots
          rw [hslots, hsame]
          simp
      | cons u updates =>
          have hreplace : mergeFields v (u :: updates) = .ok r :=
            (replaceFields_eq_mergeFields v (u :: updates)).symm.trans hresult
          split
          · rename_i hfields
            exact mergeFields_eq_ok hfields hnamed hreplace
          · rename_i hfields
            exact mergeFields_of_not_hasFields (by simpa using hfields) hreplace

/-- A result has the type and the items of the object. -/
theorem typeOf_of_apply
    {d : Nat}
    {spec : Spec}
    {v r : Value}
    (hspec : Entry.AllNameFields spec)
    (h : (apply w d spec v).outcome = .ok r) :
    r.typeOf = v.typeOf ∧ r.items? = v.items? := by
  obtain ⟨_, _, _, _, _, hr⟩ := apply_eq_ok hspec h
  rw [hr]
  split
  · exact ⟨Value.typeOf_withSlots _ _, Value.items?_withSlots _ _⟩
  · exact ⟨rfl, rfl⟩

end Applying

section Boxes

/-- Someone looks at the objects of one type, which alone brings a callback, the same for all of
them, and class-wide members. -/
def Viewing.ofType (t : TypeRef) (entries : List Value) (members : Fields) : Viewing where
  env :=
    { apply := fun _ _ => .error .wrongType
      importable := []
      classMembers := fun u => if u = t then members else []
      callback := fun u => if u = t then some fun _ => .ok (.list entries) else none }
  subject := .null
  options := .null
  marker := Value.redacted
  registry := none

theorem Viewing.ofType_gives
    (t : TypeRef)
    (entries : List Value)
    (members : Fields) :
    (Viewing.ofType t entries members).Gives (· = .list entries) := by
  refine ⟨rfl, ?_⟩
  intro u run h
  simp only [Viewing.ofType] at h
  split at h
  · cases h
    exact ⟨.list entries, rfl, fun _ => rfl⟩
  · cases h

theorem Viewing.specOf_ofType
    {t : TypeRef}
    {entries : List Value}
    {members : Fields}
    {v : Value}
    {spec : Spec}
    (h : ((Viewing.ofType t entries members).specOf v).outcome = .ok spec) :
    spec = Entry.ofList entries := by
  obtain ⟨given, items, rfl, hparts, rfl⟩ := (Viewing.ofType_gives t entries members).of_specOf h
  cases hparts
  rfl

instance Viewing.handlesUsually_ofType
    (t : TypeRef)
    (entries : List Value) :
    (Viewing.ofType t entries []).env.HandlesUsually := by
  have hmembers :
      ∀ u n, Fields.get? ((Viewing.ofType t entries []).env.classMembers u) n = none := by
    intro u n
    simp only [Viewing.ofType, ite_self]
    rfl
  exact Environment.handlesUsually_of_classMembers (fun _ => rfl) (hmembers · _) (hmembers · _)

/-- A type of crates, which are records of something and a label. -/
def crateType : TypeRef :=
  .declared "Crate" .record ["content", "label"] none false (.builtin .object)

/-- A type of boxes, which are copied by putting them into crates. -/
def boxType : TypeRef :=
  .declared "Box" .plain [] none true (.builtin .object)

/-- Someone looks at boxes, with given entries as their spec. -/
def boxViewing (entries : List Value) : Viewing :=
  Viewing.ofType boxType entries [("__copy__", .type crateType)]

def box (fields : Fields) : Value :=
  .entity 0 boxType fields

def crate (content label : Value) : Value :=
  .object crateType [("content", content), ("label", label)]

/-- A box that hides its label is redacted to a crate that holds the box as it was. -/
theorem redact_box
    (label : Value) :
    (redact (boxViewing [.text "label"]) (box [("label", label)])).outcome =
      .ok (crate (box [("label", label)]) Value.redacted) :=
  rfl

theorem boxViewing_callbacksNameFields :
    (boxViewing [.text "label"]).CallbacksNameFields := by
  intro v spec hspec
  rw [Viewing.specOf_ofType hspec]
  simp [Entry.ofList, Entry.ofValue, Entry.AllNameFields, Entry.NamesFields, IsFieldName]

end Boxes

end Redaction
end AccessPolicy
