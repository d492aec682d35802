import AccessPolicy.Proofs.CheckModules
import AccessPolicy.Proofs.Redaction.OneByOne

/-!
# Specs of plain entries

A spec that only hides names puts the marker in place of each of them that can be read of an object,
and leaves everything else as it can be read, whatever the kind of the object.

**Constants.**  A name can be read that is not a field: it may stand for a member that all objects
of a type share.  A copy of a record has no place for such a member (`Environment.IsConstant`), so
that hiding it fails; this is the only way in which a plain entry fails (`apply_hides_names`).

**Reading.**  `HidesNames` says what can be read of the result, name by name.  A name that stands
for something bound to the object itself, such as a method, stands for that of the copy there, and
all others are as they were (`Value.Shares`).
-/

namespace AccessPolicy

/-- A name that is not one of those that objects have by being objects of their type. -/
structure Value.IsOrdinary (v : Value) (n : String) : Prop where
  special : n ≠ "__class__" ∧ n ≠ "__dict__" ∧ n ≠ "__weakref__"
  typeMember? : v.typeMember? n = none

/-- A constant of a record: all records of the type share it, and it is no field of this one. -/
def Environment.IsConstant (env : Environment) (v : Value) (n : String) : Prop :=
  match v with
  | .object t fields =>
      t.isClosed = true ∧ Fields.get? fields n = none ∧
        (env.classMember? t n).isSome = true
  | _ => False

namespace Redaction

/-- What can be read of a copy of an object in which some names are hidden. -/
structure HidesNames (w : Viewing) (names : List String) (v r : Value) : Prop where
  hidden : ∀ n ∈ names, (w.read? v n).isSome = true → w.read? r n = some w.marker
  kept : ∀ n, n ∉ names ∨ w.read? v n = none →
    (w.env.field? v n).isSome = true ∨ v.Shares n → w.read? r n = w.read? v n
  isSome_eq : ∀ n, (w.read? r n).isSome = (w.read? v n).isSome

section Entries

variable {w : Viewing} {v : Value} {names : List String} {n : String}

/-- Replacing a field that a record does not have fails. -/
theorem mergeFields_of_not_admits
    {updates : Entries}
    (hconstant : w.env.IsConstant v n)
    (hn : n ∈ Entries.names updates) :
    mergeFields v updates = .error .wrongType := by
  cases v with
  | object t fields =>
      obtain ⟨hclosed, hown, _⟩ := hconstant
      obtain ⟨u, hu, rfl⟩ := mem_names_iff_namedUpdates.mp hn
      have hany :
          ((namedUpdates updates).any fun u => (Fields.get? fields u.1).isNone) = true :=
        List.any_eq_true.mpr ⟨u, hu, by rw [hown]; rfl⟩
      simp [mergeFields, hclosed, hany]
  | _ =>
      cases hconstant

variable [w.env.HandlesUsually]

/-- A name that can be read can be replaced unless it is that of a constant. -/
theorem admits_iff_not_isConstant
    (hfields : v.hasFields = true)
    (hname : v.IsOrdinary n) :
    ((w.read? v n).isSome = true → Admits v n) ↔ ¬ w.env.IsConstant v n := by
  rw [w.read?_eq_or hfields, hname.typeMember?, Option.or_none]
  cases v with
  | object t fields =>
      have hfield :
          w.env.field? (.object t fields) n =
            (Fields.get? fields n).or (w.env.classMember? t n) := by
        have hhas : (Value.object t fields).hasFields = true := rfl
        rw [Environment.field?, if_pos hhas, Value.slots, getText?_textEntries]
        rfl
      rw [hfield]
      cases hown : Fields.get? fields n with
      | none =>
          simp only [Admits, Environment.IsConstant, hown, Option.none_or, Option.isSome_none]
          grind
      | some x =>
          simp [Admits, Environment.IsConstant, hown]
  | entity i t fields =>
      simp only [Admits, Environment.IsConstant]
      exact ⟨fun _ h => h, fun _ _ => ⟨hname.special.1, hname.special.2.2⟩⟩
  | _ =>
      exact ⟨fun _ h => h, fun _ _ => trivial⟩

/-- Plain entries collect the marker for each name that can be read. -/
theorem exists_collect_hide
    (again : Spec → Value → Run Value)
    (names : List String)
    (updates : Entries) :
    ∃ result, (collect w again v updates (names.map .hide)).outcome = .ok result ∧
      ∀ n, Entries.getText? result n =
        if n ∈ names ∧ (w.read? v n).isSome = true then some w.marker
        else Entries.getText? updates n := by
  induction names generalizing updates with
  | nil =>
      exact ⟨updates, rfl, by simp⟩
  | cons m names ih =>
      obtain ⟨between, hbetween⟩ :
          ∃ between, (applyEntry w again v updates (.hide m)).outcome = .ok between :=
        ⟨_, outcome_applyEntry_hide updates m⟩
      obtain ⟨result, hresult, hget⟩ := ih between
      refine ⟨result, (Run.outcome_bind_of_ok hbetween _).trans hresult, ?_⟩
      intro n
      rw [hget, applyEntry_hide_eq_ok hbetween]
      cases hread : (w.read? v m).isSome with
      | true =>
          rw [if_pos rfl, Entries.getText?_set rfl]
          by_cases hn : n = m
          · simp [hn, hread]
          · simp [hn]
      | false =>
          rw [if_neg Bool.false_ne_true]
          by_cases hn : n = m
          · simp [hn, hread]
          · simp [hn]

theorem namesField_of_mem_hide
    (hnames : ∀ n ∈ names, v.IsOrdinary n) :
    ∀ e ∈ names.map Entry.hide, e.NamesField := by
  intro e he
  obtain ⟨n, hn, rfl⟩ := List.mem_map.mp he
  exact (hnames n hn).special.2.1

/-- The copy of an object in which plain entries put the marker. -/
theorem hidesNames_updated
    (hfields : v.hasFields = true)
    {updates : Entries}
    (hupdates : Entries.IsNamed IsFieldName updates)
    (hget : ∀ n, Entries.getText? updates n =
      if n ∈ names ∧ (w.read? v n).isSome = true then some w.marker else none) :
    HidesNames w names v (v.updated updates) where
  hidden := by
    intro n hn hread
    have hfield : w.env.field? (v.updated updates) n = some w.marker := by
      rw [field?_updated hfields hupdates, hget, if_pos ⟨hn, hread⟩]
      rfl
    exact w.read?_of_field? hfield
  kept := by
    intro n hn hshares
    have hnone : Entries.getText? updates n = none := by
      rw [hget, if_neg]
      rintro ⟨hmem, hread⟩
      rcases hn with hn | hn
      · exact hn hmem
      · rw [hn] at hread
        cases hread
    rw [read?_updated hfields hupdates hshares, current?, hnone, Option.none_or]
  isSome_eq := by
    intro n
    rw [isSome_read?_updated hfields hupdates, current?, hget]
    split
    · rename_i h
      exact h.2.symm
    · rfl

/-- **Plain entries.**  Hiding names of an object fails if one of them is that of a constant of a
record.  Otherwise it succeeds: those names that can be read then read the marker, and all others
what they read before. -/
theorem apply_hides_names
    (hfields : v.hasFields = true)
    (hnames : ∀ n ∈ names, v.IsOrdinary n)
    (d : Nat) :
    ((∃ n ∈ names, w.env.IsConstant v n) →
      (apply w (d + 1) (names.map .hide) v).outcome = .error .wrongType) ∧
    ((∀ n ∈ names, ¬ w.env.IsConstant v n) →
      ∃ r, (apply w (d + 1) (names.map .hide) v).outcome = .ok r ∧ HidesNames w names v r) := by
  obtain ⟨updates, hcollect, hget⟩ := exists_collect_hide (w := w) (v := v) (apply w d) names []
  have hnamesField := namesField_of_mem_hide hnames
  have hmem :
      ∀ n, n ∈ Entries.names updates ↔ n ∈ names ∧ (w.read? v n).isSome = true := by
    intro n
    rw [Entries.mem_names_iff, hget]
    split
    · simp_all
    · simp_all [Entries.getText?, Entries.get?]
  constructor
  · rintro ⟨n, hn, hconstant⟩
    have hread : (w.read? v n).isSome = true := by
      by_contra hread
      exact (admits_iff_not_isConstant hfields (hnames n hn)).mp (fun h => absurd h hread)
        hconstant
    have hin : n ∈ Entries.names updates := (hmem n).mpr ⟨hn, hread⟩
    have hnonempty : updates.isEmpty = false := by
      cases updates with
      | nil =>
          cases hin
      | cons u updates =>
          rfl
    rw [apply, Run.outcome_bind_of_ok hcollect, hnonempty, if_neg (by simp)]
    exact (replaceFields_eq_mergeFields v updates).trans (mergeFields_of_not_admits hconstant hin)
  · intro hnone
    have hadmits : ∀ n ∈ Entries.names updates, Admits v n := by
      intro n hn
      obtain ⟨hn, hread⟩ := (hmem n).mp hn
      exact (admits_iff_not_isConstant hfields (hnames n hn)).mpr (hnone n hn) hread
    have hupdates := isNamed_of_collect hnamesField Entries.isNamed_nil hcollect
    refine ⟨v.updated updates, ?_, hidesNames_updated hfields hupdates hget⟩
    exact (apply_eq_ok_iff hfields hnamesField).mpr ⟨updates, hcollect, hadmits, rfl⟩

end Entries

section Badges

/-- A type of records of which all have one level. -/
def badgeType : TypeRef :=
  .declared "Badge" .record ["holder", "code"] none true (.builtin .object)

/-- A guard looks at badges. -/
def guardViewing : Viewing where
  env :=
    { apply := fun _ _ => .error .wrongType
      importable := []
      classMembers := fun t => if t = badgeType then [("level", .int 5)] else []
      callback := fun _ => none }
  subject := .text "guard"
  options := .null
  marker := Value.redacted
  registry := none

instance : guardViewing.env.HandlesUsually := by
  refine Environment.handlesUsually_of_classMembers (fun _ => rfl) ?_ ?_
  all_goals
    intro t
    simp only [guardViewing]
    split <;> rfl

def badge : Value :=
  .object badgeType [("holder", .text "Ada"), ("code", .int 7)]

/-- What a badge has by being a badge is what every object has. -/
theorem isOrdinary_badge
    {n : String}
    (hn : n ∉ universalNames)
    (hcallback : n ≠ "redacted_fields")
    (hfields : Value.fieldData? badgeType n = none) :
    badge.IsOrdinary n where
  special := by
    refine ⟨?_, ?_, ?_⟩
    all_goals
      rintro rfl
      exact hn (by simp [universalNames])
  typeMember? := by
    have hhash : n ≠ "__hash__" := by
      rintro rfl
      exact hn (by simp [universalNames])
    have hcallable : badgeType.hasCallable n = false := by
      have hobject : n ∉ Builtin.object.memberNames :=
        fun h => hn (memberNames_subset h)
      simp [TypeRef.hasCallable, hhash, badgeType, TypeRef.lineage, Builtin.bases, hobject,
        hcallback]
    have hnumber : badge.numberData? n = none := rfl
    have hnaming : badge.namingData? n = none := rfl
    show badge.givenMember? n = none
    unfold badge at hnumber hnaming ⊢
    simp [Value.givenMember?, commonData?_of_not_mem hn, hnumber, hnaming, hfields, hcallable,
      Value.typeOf]

/-- The code of a badge can be hidden, which leaves the rest; its level cannot. -/
theorem badge_hides_code :
    (∃ r, (apply guardViewing 1 [.hide "code"] badge).outcome = .ok r ∧
      guardViewing.read? r "code" = some Value.redacted ∧
      guardViewing.read? r "holder" = guardViewing.read? badge "holder") ∧
    (apply guardViewing 1 [.hide "code", .hide "level"] badge).outcome = .error .wrongType := by
  have hcode : badge.IsOrdinary "code" :=
    isOrdinary_badge (by decide) (by decide) rfl
  have hlevel : badge.IsOrdinary "level" :=
    isOrdinary_badge (by decide) (by decide) rfl
  constructor
  · obtain ⟨r, hr, hhides⟩ :=
      (@apply_hides_names guardViewing badge ["code"] _ rfl (by simpa using hcode) 0).2
        (by simp [Environment.IsConstant, badge, Fields.get?])
    refine ⟨r, hr, hhides.hidden "code" (by simp) (by decide +kernel), ?_⟩
    exact hhides.kept "holder" (Or.inl (by simp)) (Or.inl (by decide +kernel))
  · refine (@apply_hides_names guardViewing badge ["code", "level"] _ rfl
      (by simpa using ⟨hcode, hlevel⟩) 0).1 ⟨"level", by simp, ?_⟩
    refine ⟨rfl, rfl, ?_⟩
    decide +kernel

end Badges

end Redaction
end AccessPolicy
