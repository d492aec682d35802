import AccessPolicy.Proofs.DuplicateRules
import AccessPolicy.Proofs.Redaction.Course

/-!
# Candidates that may be seen

Which fields of an object a subject may see can be asked without redacting it.  Of some names
those are left out that a plain entry of the object's spec hides; this looks at the spec alone,
and redaction looks at its entries one after another.  Both agree: a field is left out exactly if
the marker stands in its place in the redacted object (`unredactedFields_agree`).

**Runs.**  A plain entry makes a field the marker, and the marker stays what it is under all
entries that follow (`FrameRun.eq_marker`).  Entries of other kinds never make a field a text that
it was not before (`FrameRun.text?_eq`).  Thus the marker stands in a field after all entries
about it exactly if a plain one is among them.

**Names.**  The names that are left are in the order of first occurrence, each once (`LeftOf`).
-/

namespace AccessPolicy

/-- A value agrees with a text if it is that text. -/
theorem Value.agrees_of_text?
    {marker : Value}
    {s : String}
    (h : marker.text? = some s)
    (v : Value) :
    v.agrees marker = (v.text? == some s) := by
  rw [← Value.isSame_of_text? h, Value.isSame]
  cases v <;> cases marker <;> simp_all [Value.text?, Value.isSameNaN]

@[simp] theorem Value.text?_withSlots
    (v : Value)
    (es : Entries) :
    (v.withSlots es).text? = v.text? := by
  cases v <;> rfl

theorem Value.withSlots_of_text?
    {v : Value}
    {s : String}
    (h : v.text? = some s)
    (es : Entries) :
    v.withSlots es = v := by
  cases v <;> first | rfl | cases h

theorem Value.text?_of_items?
    {v : Value}
    {xs : List Value}
    (h : v.items? = some xs) :
    v.text? = none := by
  cases v <;> first | rfl | cases h

namespace Redaction

/-- Some names of a list, each once and in the order of first occurrence. -/
structure LeftOf (candidates kept : List String) : Prop where
  sublist : kept.Sublist candidates
  nodup : kept.Nodup
  inOrder : kept.Pairwise fun a b => candidates.idxOf a < candidates.idxOf b

section Names

/-- Texts are distinct as values if they are distinct as texts. -/
theorem distinct_map_text
    (names : List String) :
    Value.distinct (names.map .text) = (Duplicates.distinct names).map .text := by
  induction names with
  | nil =>
      rfl
  | cons n names ih =>
      have hsame :
          ((fun v => !(Value.text n).isSame v) ∘ Value.text) = fun m => decide (m ≠ n) := by
        funext m
        rw [Function.comp, Value.isSame_of_text? (n := m) rfl]
        by_cases hmn : m = n
        · simp [hmn, Value.text?]
        · simp [hmn, Value.text?, Ne.symm hmn]
      rw [List.map_cons, Value.distinct, Duplicates.distinct, ih, List.filter_map, hsame]
      rfl

theorem leftOf_filter_distinct
    (keep : String → Bool)
    (candidates : List String) :
    LeftOf candidates ((Duplicates.distinct candidates).filter keep) := by
  have horder := (Duplicates.pairwise_idxOf_distinct candidates).sublist
    (List.filter_sublist (p := keep))
  exact
    ⟨List.filter_sublist.trans (Duplicates.distinct_sublist candidates),
      Duplicates.nodup_of_pairwise_idxOf horder, horder⟩

/-- A value stands for a plain entry if it is a text. -/
theorem ofValue_eq_hide_iff
    {v : Value}
    {n : String} :
    Entry.ofValue v = .hide n ↔ v.text? = some n := by
  have htarget : ∀ key target, Entry.ofTarget key target ≠ .hide n := by
    intro key target
    cases target with
    | module r members =>
        unfold Entry.ofTarget
        split <;> simp
    | _ =>
        simp [Entry.ofTarget]
  unfold Entry.ofValue
  split
  all_goals try simp [Value.text?, htarget]
  split
  · split <;> simp
  · simp

/-- The names that are left out are those of the plain entries. -/
theorem mem_hiddenFields_iff
    {items : List Value}
    {n : String} :
    n ∈ hiddenFields items ↔ .hide n ∈ Entry.ofList items := by
  induction items with
  | nil =>
      simp [hiddenFields, Entry.ofList]
  | cons v items ih =>
      rw [Entry.ofList, List.mem_cons, ← ih, hiddenFields, List.filterMap_cons, eq_comm,
        ofValue_eq_hide_iff]
      cases htext : v.text? with
      | none =>
          simp [hiddenFields]
      | some m =>
          simp [hiddenFields, eq_comm]

end Names

section Runs

variable {w : Viewing} {d : Nat} {e : Entry} {entries : Spec} {x y : Value} {s : String}
variable [w.env.HandlesUsually]

/-- A result differs from the object in its slots only. -/
theorem exists_withSlots_of_apply
    {spec : Spec}
    {v r : Value}
    (h : (apply w d spec v).outcome = .ok r) :
    ∃ es, r = v.withSlots es := by
  cases d with
  | zero =>
      cases h
  | succ d =>
      obtain ⟨_, _, ⟨_, rfl⟩ | hreplace⟩ := apply_succ_eq_ok h
      · exact ⟨r.slots, r.withSlots_slots.symm⟩
      · exact exists_withSlots_of_mergeFields hreplace

/-- What is done to a value by other entries than a plain one leaves a list or tuple one, and
changes only the slots of anything else. -/
theorem FrameStep.cases_items?
    (h : FrameStep w (Makes (apply w d)) e x y)
    (he : ∀ field, e ≠ .hide field) :
    (∃ es, y = x.withSlots es) ∨ (x.items?.isSome = true ∧ y.items?.isSome = true) := by
  cases h with
  | hide field =>
      exact absurd rfl (he field)
  | skipped =>
      exact Or.inl ⟨x.slots, x.withSlots_slots.symm⟩
  | nested _ heach =>
      rcases heach with ⟨_, hxy⟩ | ⟨xs, ys, hxs, hys, _⟩
      · exact Or.inl (exists_withSlots_of_apply hxy)
      · exact Or.inr ⟨by rw [hxs]; rfl, by rw [hys]; rfl⟩
  | delegate _ heach =>
      rcases heach with ⟨_, ⟨_, rfl⟩ | ⟨_, _, spec, _, hxy⟩⟩ | ⟨xs, ys, hxs, hys, _⟩
      · exact Or.inl ⟨y.slots, y.withSlots_slots.symm⟩
      · exact Or.inl (exists_withSlots_of_apply hxy)
      · exact Or.inr ⟨by rw [hxs]; rfl, by rw [hys]; rfl⟩

/-- An entry that is no plain one gives a text only for that text. -/
theorem FrameStep.text?_eq
    (h : FrameStep w (Makes (apply w d)) e x y)
    (he : ∀ field, e ≠ .hide field) :
    y.text? = x.text? := by
  rcases h.cases_items? he with ⟨es, rfl⟩ | ⟨hx, hy⟩
  · exact x.text?_withSlots es
  · obtain ⟨xs, hxs⟩ := Option.isSome_iff_exists.mp hx
    obtain ⟨ys, hys⟩ := Option.isSome_iff_exists.mp hy
    rw [Value.text?_of_items? hxs, Value.text?_of_items? hys]

/-- The marker stays what it is under every entry. -/
theorem FrameStep.eq_marker
    (hmarker : w.marker.text? = some s)
    (h : FrameStep w (Makes (apply w d)) e w.marker y) :
    y = w.marker := by
  by_cases he : ∀ field, e ≠ .hide field
  · rcases h.cases_items? he with ⟨es, rfl⟩ | ⟨hx, _⟩
    · exact Value.withSlots_of_text? hmarker es
    · obtain ⟨xs, hxs⟩ := Option.isSome_iff_exists.mp hx
      rw [Value.text?_of_items? hxs] at hmarker
      cases hmarker
  · obtain ⟨field, rfl⟩ := not_forall_not.mp he
    cases h with
    | hide =>
        rfl
    | skipped hother =>
        exact absurd rfl (hother field)

/-- Entries without a plain one among them give a text only for that text. -/
theorem FrameRun.text?_eq
    (h : FrameRun w (Makes (apply w d)) entries x y)
    (hentries : ∀ field, .hide field ∉ entries) :
    y.text? = x.text? := by
  induction entries generalizing x with
  | nil =>
      rw [h]
  | cons e entries ih =>
      obtain ⟨z, hstep, hrest⟩ := h
      have he : ∀ field, e ≠ .hide field := by
        rintro field rfl
        exact hentries field List.mem_cons_self
      rw [ih hrest fun field hfield => hentries field (List.mem_cons_of_mem e hfield),
        hstep.text?_eq he]

theorem FrameRun.eq_marker_of_marker
    (hmarker : w.marker.text? = some s)
    (h : FrameRun w (Makes (apply w d)) entries w.marker y) :
    y = w.marker := by
  induction entries with
  | nil =>
      exact h
  | cons e entries ih =>
      obtain ⟨z, hstep, hrest⟩ := h
      obtain rfl := hstep.eq_marker hmarker
      exact ih hrest

/-- Entries with a plain one among them leave the marker. -/
theorem FrameRun.eq_marker
    (hmarker : w.marker.text? = some s)
    (h : FrameRun w (Makes (apply w d)) entries x y)
    {n : String}
    (hhide : .hide n ∈ entries) :
    y = w.marker := by
  induction entries generalizing x with
  | nil =>
      cases hhide
  | cons e entries ih =>
      obtain ⟨z, hstep, hrest⟩ := h
      rcases List.mem_cons.mp hhide with rfl | hhide
      · cases hstep with
        | hide =>
            exact hrest.eq_marker_of_marker hmarker
        | skipped hother =>
            exact absurd rfl (hother n)
      · exact ih hrest hhide

/-- After all entries about a field the marker stands there if a plain one is among them, and no
text like it otherwise. -/
theorem marks_field_iff
    (hmarker : w.marker.text? = some s)
    {spec : Spec}
    {n : String}
    (h : FrameRun w (Makes (apply w d)) (about spec n) x y)
    (hx : x.text? ≠ some s) :
    (.hide n ∈ spec ↔ y = w.marker) ∧ (.hide n ∈ spec ↔ y.text? = some s) := by
  have hsubject : ∀ field, .hide field ∈ about spec n → field = n := by
    intro field hfield
    simpa [Entry.subject?] using (List.mem_filter.mp hfield).2
  by_cases hhide : .hide n ∈ spec
  · have hy : y = w.marker :=
      h.eq_marker hmarker (List.mem_filter.mpr ⟨hhide, by simp [Entry.subject?]⟩)
    subst hy
    exact ⟨by simp [hhide], by simp [hhide, hmarker]⟩
  · have htext : y.text? = x.text? := by
      refine h.text?_eq ?_
      intro field hfield
      obtain rfl := hsubject field hfield
      exact hhide (List.mem_filter.mp hfield).1
    have hne : y.text? ≠ some s := by
      rw [htext]
      exact hx
    refine ⟨⟨fun hmem => absurd hmem hhide, ?_⟩, by simp [hhide, hne]⟩
    rintro rfl
    exact absurd hmarker hne

end Runs

section Candidates

variable {w : Viewing} {v : Value} {spec : Spec}

/-- The names that are left of candidates are those that no plain entry hides, each once and in
the order of first occurrence. -/
theorem exists_unredactedFields
    (hspec : (w.specOf v).outcome = .ok spec)
    {fields : Value}
    {candidates : List String}
    (hcandidates : fields.parts? = some (candidates.map .text)) :
    ∃ kept : List String,
      (unredactedFields w fields v).outcome = .ok (kept.map .text) ∧
        LeftOf candidates kept ∧
        ∀ n, n ∈ kept ↔ n ∈ candidates ∧ .hide n ∉ spec := by
  obtain ⟨items, hitems, hspec⟩ := Run.outcome_bind_eq_ok_iff.mp hspec
  obtain rfl : Entry.ofList items = spec := Except.ok.inj hspec
  let keep : String → Bool := fun n => !(hiddenFields items).contains n
  refine ⟨(Duplicates.distinct candidates).filter keep, ?_, leftOf_filter_distinct keep candidates,
    ?_⟩
  · have hkeys : (candidates.map Value.text).all Value.isKey = true := by
      simp [Value.isKey]
    unfold unredactedFields
    rw [Run.outcome_bind_of_ok hitems, hcandidates]
    simp only [hkeys, Bool.not_true, Bool.false_eq_true, if_false, Run.outcome_pure]
    rw [distinct_map_text, List.filter_map]
    rfl
  · intro n
    rw [List.mem_filter, Duplicates.mem_distinct_iff, ← mem_hiddenFields_iff]
    simp [keep]

end Candidates

section Authors

def ada : Value :=
  author "Ada" "ada" 111

/-- No field of the author reads as a dash. -/
theorem ada_agrees_dash
    {n : String}
    {x : Value}
    (hx : readerViewing.env.field? ada n = some x) :
    x.agrees (.text "-") = false := by
  have hslot : Entries.getText? ada.slots n = some x :=
    (Option.or_none ..).symm.trans hx
  obtain ⟨e, he, rfl⟩ := Option.map_eq_some_iff.mp hslot
  have hagrees : ∀ v : Value, v.agrees (.text "-") = (v.text? == some "-") :=
    Value.agrees_of_text? rfl
  have hall : ∀ e ∈ ada.slots, e.2.agrees (.text "-") = false := by
    simp [ada, author, Value.slots, Value.textEntries, hagrees, Value.text?]
  exact hall e (List.mem_of_find?_eq_some he)

end Authors

section Drafts

theorem classMember?_draft
    (entries : List Value)
    (n : String) :
    (draftViewing entries).env.classMember? draftType n =
      if n = "note" then some (.text "-") else none := by
  have hlineage : draftType.lineage = [draftType, formType, .builtin .object] := rfl
  have hmembers :
      ∀ t, (draftViewing entries).env.classMembers t =
        if t = draftType then [("note", .text "-")] else [] :=
    fun _ => rfl
  have hform : formType ≠ draftType := by decide
  have hobject : TypeRef.builtin .object ≠ draftType := by decide
  simp only [Environment.classMember?, hlineage, hmembers, List.findSome?_cons, List.findSome?_nil,
    if_true, hform, hobject, if_false]
  by_cases hn : n = "note"
  · simp [Fields.get?, hn]
  · simp [Fields.get?, hn, Ne.symm hn]

/-- The note of a draft is a dash unless it has one of its own. -/
theorem field?_draft
    (entries : List Value)
    (fields : Fields)
    (n : String) :
    (draftViewing entries).env.field? (.entity 0 draftType fields) n =
      (Fields.get? fields n).or (if n = "note" then some (.text "-") else none) := by
  rw [← classMember?_draft entries n, Environment.field?,
    if_pos (show (Value.entity 0 draftType fields).hasFields = true from rfl), Value.slots,
    getText?_textEntries]
  rfl

end Drafts

end Redaction
end AccessPolicy
