import AccessPolicy.Proofs.Shorthand.Spellings
import AccessPolicy.Proofs.WrittenRules

/-!
# The grammar of policy documents

A document, its objects and their actions are maps with fields of their own and no others.  This
module says, without reading anything, which data writes which document, and that a text is read
accordingly.

**Grammar.**  `PolicyDocument.IsWrittenBy`, and its like for objects and actions, say what the
entries of a map are to be: every key is a field, and each field gives what the part of the
document is.  Reading accepts exactly what is written so (`PolicyDocument.read_eq_accepted_iff`),
and refuses everything else with problems (`Verdict.Settles`).

**Texts.**  What a text loads as is therefore known from its data.  Data that counts as false is
the exception: it means a document that declares nothing, though it is no map
(`PolicyDocument.ofText_loads_documents`).
-/

namespace AccessPolicy

section Grammar

/-- All keys are texts, and each is one of the given fields. -/
def Entries.HasOnly (es : Entries) (fields : List String) : Prop :=
  ∀ e ∈ es, ∃ s, e.1.text? = some s ∧ s ∈ fields

namespace Entries

variable {es : Entries} {fields : List String} {field : String}

/-- A text is no key iff no key has it. -/
theorem getText?_eq_none_iff :
    es.getText? field = none ↔ ∀ e ∈ es, e.1.text? ≠ some field := by
  rw [getText?, get?, Option.map_eq_none_iff, List.find?_eq_none]
  refine forall₂_congr fun e _ => not_congr ?_
  rw [Value.isSame_of_text? (n := field) rfl, beq_iff_eq]

theorem HasOnly.getText?_eq_none
    (hes : es.HasOnly fields)
    (hfield : field ∉ fields) :
    es.getText? field = none := by
  rw [getText?_eq_none_iff]
  intro e he htext
  obtain ⟨s, hs, hmem⟩ := hes e he
  exact hfield (Option.some.inj (htext.symm.trans hs) ▸ hmem)

/-- A field that is not there can be left out. -/
theorem HasOnly.of_cons
    (hes : es.HasOnly (field :: fields))
    (hnone : es.getText? field = none) :
    es.HasOnly fields := by
  intro e he
  obtain ⟨s, hs, hmem⟩ := hes e he
  rcases List.mem_cons.mp hmem with rfl | hmem
  · exact absurd hs (getText?_eq_none_iff.mp hnone e he)
  · exact ⟨s, hs, hmem⟩

theorem HasOnly.cons
    (hes : es.HasOnly fields)
    (field : String) :
    es.HasOnly (field :: fields) := by
  intro e he
  obtain ⟨s, hs, hmem⟩ := hes e he
  exact ⟨s, hs, List.mem_cons_of_mem _ hmem⟩

end Entries

/-- What a field gives as a text that may be missing. -/
inductive GivesText : Option Value → Option String → Prop
  | missing :
      GivesText none none
  | null :
      GivesText (some .null) none
  | text
      {v : Value}
      {s : String}
      (readable : v.readable? = some s) :
      GivesText (some v) (some s)

/-- What a field gives as a map from names, of which the last entry of a name counts. -/
inductive GivesMap {β : Type} (R : Value → β → Prop) : Option Value → List (String × β) → Prop
  | missing :
      GivesMap R none []
  | map
      {entries : Entries}
      {items : List (String × β)}
      (all : List.Forall₂ (fun e x => e.1.readable? = some x.1 ∧ R e.2 x.2) entries items) :
      GivesMap R (some (.record entries)) (Verdict.lastNamed items)

/-- The entries of a map write an action definition. -/
structure ActionDefinition.IsWrittenBy (a : ActionDefinition) (es : Entries) : Prop where
  no_others : es.HasOnly ["description", "allow", "deny", "pre_hooks", "metadata"]
  description : GivesText (es.getText? "description") a.description
  allow : a.allow = (es.getText? "allow").getD (.list [])
  deny : a.deny = (es.getText? "deny").getD (.list [])
  pre_hooks : a.preHooks = (es.getText? "pre_hooks").getD (.list [])
  metadata : a.metadata = (es.getText? "metadata").getD (.list [])

/-- The entries give the path of a schema under a name, and have no other fields than that and the
actions. -/
def ObjectDefinition.GivesPath (o : ObjectDefinition) (es : Entries) (field : String) : Prop :=
  es.HasOnly [field, "actions"] ∧ GivesText (es.getText? field) o.schemaPath

/-- The entries of a map write an object definition.  The path of its schema has two names, of
which one is used. -/
structure ObjectDefinition.IsWrittenBy (o : ObjectDefinition) (es : Entries) : Prop where
  path : ∃ field ∈ ["schema", "schema_path"], o.GivesPath es field
  actions : GivesMap (fun v a => ∃ fields, v = .record fields ∧ a.IsWrittenBy fields)
    (es.getText? "actions") o.actions

/-- The entries of a map write a document. -/
structure PolicyDocument.IsWrittenBy (d : PolicyDocument) (es : Entries) : Prop where
  no_others : es.HasOnly PolicyDocument.fieldNames
  name : (es.getText? "name").elim (some "policy") Value.readable? = some d.name
  name_ne_empty : d.name ≠ ""
  check_module : GivesText (es.getText? "check_module") d.checkModule
  error_reason : d.errorReason = (es.getText? "error_reason").getD (.text "unauthorized")
  error_message :
    (es.getText? "error_message").elim (some "unauthorized") Value.readable? = some d.errorMessage
  objects : GivesMap (fun v o => ∃ fields, v = .record fields ∧ o.IsWrittenBy fields)
    (es.getText? "objects") d.objects

end Grammar

namespace Verdict

section Endings

variable {α β : Type}

/-- Reading ends with a value or with problems. -/
def Settles (x : Verdict α) : Prop :=
  ∀ e, x ≠ .aborted e

variable {x : Verdict α}

theorem settles_accepted
    (a : α) :
    Settles (.accepted a) :=
  nofun

theorem settles_rejected
    (problems : List Problem) :
    Settles (.rejected problems : Verdict α) :=
  nofun

theorem Settles.map
    (hx : x.Settles)
    (f : α → β) :
    (f <$> x).Settles := by
  cases x with
  | accepted a =>
      exact settles_accepted _
  | rejected ps =>
      exact settles_rejected _
  | aborted e =>
      exact absurd rfl (hx e)

theorem Settles.seq
    {f : Verdict (α → β)}
    (hf : f.Settles)
    (hx : x.Settles) :
    (f <*> x).Settles := by
  cases f with
  | accepted g =>
      exact hx.map g
  | rejected ps =>
      cases x with
      | accepted a =>
          exact settles_rejected _
      | rejected qs =>
          exact settles_rejected _
      | aborted e =>
          exact absurd rfl (hx e)
  | aborted e =>
      exact absurd rfl (hf e)

theorem Settles.seqLeft
    {y : Verdict β}
    (hx : x.Settles)
    (hy : y.Settles) :
    (x <* y).Settles :=
  (hx.map (Function.const β)).seq hy

theorem Settles.under
    (hx : x.Settles)
    (step : Step) :
    (under step x).Settles := by
  cases x with
  | accepted a =>
      exact settles_accepted _
  | rejected ps =>
      exact settles_rejected _
  | aborted e =>
      exact absurd rfl (hx e)

theorem settles_all
    {read : α → Verdict β}
    {xs : List α}
    (hread : ∀ x ∈ xs, (read x).Settles) :
    (all read xs).Settles := by
  induction xs with
  | nil =>
      exact settles_accepted _
  | cons x xs ih =>
      obtain ⟨hx, hrest⟩ := List.forall_mem_cons.mp hread
      exact (hx.map _).seq (ih hrest)

theorem settles_optional
    {input : Entries}
    {field : String}
    {default : α}
    {read : Value → Verdict α}
    (hread : ∀ v, (read v).Settles) :
    (optional input field default read).Settles := by
  rw [optional]
  split
  · exact (hread _).under _
  · exact settles_accepted _

theorem settles_noOthers
    (input : Entries)
    (fields : List String) :
    (noOthers input fields).Settles := by
  unfold noOthers
  dsimp only
  split
  · exact settles_accepted _
  · exact settles_rejected _

theorem settles_text
    (v : Value) :
    (text v).Settles :=
  text_ne_aborted v

theorem settles_optionalText
    (v : Value) :
    (optionalText v).Settles := by
  unfold optionalText
  split
  · exact settles_accepted _
  · exact (settles_text v).map some

theorem settles_mapOf
    {read : Value → Verdict β}
    (hread : ∀ v, (read v).Settles)
    (v : Value) :
    (mapOf read v).Settles := by
  unfold mapOf
  split
  · refine (settles_all fun e _ => ?_).map _
    exact ((((settles_text e.1).under _).map _).seq (hread e.2)).under _
  · exact settles_rejected _

/-- What is not accepted is refused with problems. -/
theorem Settles.exists_problems
    (hx : x.Settles)
    (hnone : ∀ a, x ≠ .accepted a)
    (title : String) :
    ∃ problems, x.toExcept title = .error (.invalid ⟨title, problems⟩) := by
  cases x with
  | accepted a =>
      exact absurd rfl (hnone a)
  | rejected ps =>
      exact ⟨ps, rfl⟩
  | aborted e =>
      exact absurd rfl (hx e)

end Endings

section Fields

variable {es : Entries} {field : String}

theorem optional_anything_iff
    {default v : Value} :
    optional es field default anything = .accepted v ↔ v = (es.getText? field).getD default := by
  rw [optional_eq_accepted_iff]
  cases es.getText? field <;> simp [anything, eq_comm]

theorem optional_text_iff
    {default s : String} :
    optional es field default text = .accepted s
      ↔
    (es.getText? field).elim (some default) Value.readable? = some s := by
  rw [optional_eq_accepted_iff]
  cases es.getText? field <;> simp [text_eq_accepted_iff]

theorem optional_name_iff
    {default s : String}
    (hdefault : default ≠ "") :
    optional es field default name = .accepted s
      ↔
    (es.getText? field).elim (some default) Value.readable? = some s ∧ s ≠ "" := by
  rw [optional_eq_accepted_iff]
  cases es.getText? field with
  | none =>
      simp only [reduceCtorEq, false_and, exists_const, true_and, false_or, Option.elim_none,
        Option.some.injEq]
      exact ⟨fun h => ⟨h, h ▸ hdefault⟩, fun h => h.1⟩
  | some v =>
      simp [name_eq_accepted_iff, text_eq_accepted_iff]

theorem optional_optionalText_iff
    {s? : Option String} :
    optional es field none optionalText = .accepted s? ↔ GivesText (es.getText? field) s? := by
  rw [optional_eq_accepted_iff]
  generalize es.getText? field = given
  constructor
  · rintro (⟨v, rfl, hread⟩ | ⟨rfl, rfl⟩)
    · unfold optionalText at hread
      split at hread
      · cases hread
        exact .null
      · obtain ⟨s, hs, rfl⟩ := map_eq_accepted_iff.mp hread
        exact .text (text_eq_accepted_iff.mp hs)
    · exact .missing
  · intro h
    cases h with
    | missing =>
        exact .inr ⟨rfl, rfl⟩
    | null =>
        exact .inl ⟨.null, rfl, rfl⟩
    | @text v s readable =>
        refine .inl ⟨v, rfl, ?_⟩
        have hread : Verdict.map some (text v) = .accepted (some s) := by
          rw [text_eq_accepted_iff.mpr readable]
          rfl
        cases v with
        | null =>
            cases readable
        | _ =>
            exact hread

section Maps

variable {β : Type} {read : Value → Verdict β} {R : Value → β → Prop}
variable (hread : ∀ v b, v.IsData → (read v = .accepted b ↔ R v b))
include hread

/-- Data is read as a map from names iff it is a map and gives that. -/
theorem mapOf_eq_accepted_iff_givesMap
    {v : Value}
    (hv : v.IsData)
    {items : List (String × β)} :
    mapOf read v = .accepted items ↔ GivesMap R (some v) items := by
  rw [mapOf_eq_accepted_iff]
  constructor
  · rintro ⟨type, entries, all, rfl, rfl, hall⟩
    cases hv with
    | scalar plain =>
        cases plain
    | map keys values =>
        refine .map (((List.forall₂_and_left _ _).mpr ⟨values, hall⟩).imp ?_)
        rintro e x ⟨hdata, htext, hvalue⟩
        exact ⟨text_eq_accepted_iff.mp htext, (hread e.2 x.2 hdata).mp hvalue⟩
  · intro h
    cases h with
    | @map entries all hall =>
        refine ⟨_, entries, all, rfl, rfl, ?_⟩
        cases hv with
        | scalar plain =>
            cases plain
        | map keys values =>
            refine ((List.forall₂_and_left _ _).mpr ⟨values, hall⟩).imp ?_
            rintro e x ⟨hdata, htext, hvalue⟩
            exact ⟨text_eq_accepted_iff.mpr htext, (hread e.2 x.2 hdata).mpr hvalue⟩

/-- A field for a map from names gives what its values are read as. -/
theorem optional_mapOf_iff
    (hes : ∀ e ∈ es, e.2.IsData)
    {items : List (String × β)} :
    optional es field [] (mapOf read) = .accepted items
      ↔
    GivesMap R (es.getText? field) items := by
  rw [optional_eq_accepted_iff]
  cases hgiven : es.getText? field with
  | none =>
      constructor
      · rintro (⟨v, hv, _⟩ | ⟨_, rfl⟩)
        · cases hv
        · exact .missing
      · intro h
        cases h
        exact .inr ⟨rfl, rfl⟩
  | some v =>
      obtain ⟨e, he, rfl⟩ := Entries.exists_mem_of_get? hgiven
      rw [← mapOf_eq_accepted_iff_givesMap hread (hes e he)]
      simp

end Maps

end Fields

end Verdict

open Verdict

section Models

variable {v : Value}

/-- Data is a map of data, or it has no fields at all. -/
theorem Value.IsData.record_or_noMapping
    (hv : v.IsData) :
    (∃ es, v = .record es ∧ ∀ e ∈ es, e.2.IsData) ∨ v.IsNoMapping := by
  cases hv with
  | scalar plain =>
      exact .inr plain.isNoMapping
  | map keys values =>
      exact .inl ⟨_, rfl, values⟩
  | _ =>
      exact .inr ⟨rfl, nofun⟩

variable {α : Type}

/-- Reads a model: itself or a map of its fields. -/
def Verdict.model
    (ofValue? : Value → Option α)
    (readFields : Entries → Verdict α)
    (v : Value) :
    Verdict α :=
  match ofValue? v, v.entries? with
  | some a, _ => .accepted a
  | none, some entries => readFields entries
  | none, none => problem .modelExpected

variable {ofValue? : Value → Option α} {readFields : Entries → Verdict α}

/-- A model is read from data iff this is a map that writes it. -/
theorem Verdict.model_eq_accepted_iff
    {W : α → Entries → Prop}
    (hrecord : ∀ es, ofValue? (.record es) = none)
    (hother : ∀ v, v.IsNoMapping → ofValue? v = none)
    (hfields : ∀ es a, (∀ e ∈ es, e.2.IsData) → (readFields es = .accepted a ↔ W a es))
    (hv : v.IsData)
    {a : α} :
    model ofValue? readFields v = .accepted a ↔ ∃ es, v = .record es ∧ W a es := by
  obtain ⟨es, rfl, hes⟩ | hnone := hv.record_or_noMapping
  · have hentries : (Value.record es).entries? = some es := rfl
    rw [model, hrecord, hentries]
    constructor
    · exact fun h => ⟨es, rfl, (hfields es a hes).mp h⟩
    · rintro ⟨_, heq, hw⟩
      cases heq
      exact (hfields es a hes).mpr hw
  · rw [model, hother v hnone, hnone.entries?_eq_none]
    constructor
    · exact fun h => by cases h
    · rintro ⟨es, rfl, _⟩
      cases hnone.entries?_eq_none

theorem Verdict.settles_model
    (hfields : ∀ es, (readFields es).Settles)
    (v : Value) :
    (model ofValue? readFields v).Settles := by
  unfold model
  split
  · exact settles_accepted _
  · exact hfields _
  · exact settles_rejected _

end Models

namespace ActionDefinition

theorem ofValue?_eq_none
    {v : Value}
    (hv : v.IsNoMapping) :
    ofValue? v = none := by
  cases v with
  | object type fields =>
      exact absurd rfl (hv.ne_object type fields)
  | _ =>
      rfl

theorem read_eq_model
    (v : Value) :
    read v = Verdict.model ofValue? readFields v := by
  rw [read, Verdict.model]
  cases ofValue? v <;> cases v.entries? <;> rfl

theorem readFields_eq_accepted_iff
    {es : Entries}
    {a : ActionDefinition} :
    readFields es = .accepted a ↔ a.IsWrittenBy es := by
  rw [readFields, seqLeft_eq_accepted_iff]
  simp only [seq_eq_accepted_iff, map_eq_accepted_iff, optional_anything_iff,
    optional_optionalText_iff, noOthers_eq_accepted_iff]
  constructor
  · rintro ⟨⟨_, metadata, ⟨_, hooks, ⟨_, deny, ⟨_, allow, ⟨description, htext, rfl⟩, ha, rfl⟩,
      hd, rfl⟩, hh, rfl⟩, hm, rfl⟩, _, hothers⟩
    exact ⟨hothers, htext, ha, hd, hh, hm⟩
  · intro h
    exact ⟨⟨_, a.metadata, ⟨_, a.preHooks, ⟨_, a.deny, ⟨_, a.allow,
      ⟨a.description, h.description, rfl⟩, h.allow, rfl⟩, h.deny, rfl⟩, h.pre_hooks, rfl⟩,
      h.metadata, rfl⟩, (), h.no_others⟩

theorem read_eq_accepted_iff
    {v : Value}
    {a : ActionDefinition}
    (hv : v.IsData) :
    read v = .accepted a ↔ ∃ es, v = .record es ∧ a.IsWrittenBy es := by
  rw [read_eq_model]
  exact model_eq_accepted_iff (fun _ => rfl) (fun _ => ofValue?_eq_none)
    (fun _ _ _ => readFields_eq_accepted_iff) hv

theorem settles_read
    (v : Value) :
    (read v).Settles := by
  rw [read_eq_model]
  refine settles_model (fun es => ?_) v
  have hany : ∀ v, (anything v).Settles :=
    settles_accepted
  exact ((((((settles_optional settles_optionalText).map _).seq (settles_optional hany)).seq
    (settles_optional hany)).seq (settles_optional hany)).seq (settles_optional hany)).seqLeft
    (settles_noOthers _ _)

end ActionDefinition

namespace ObjectDefinition

variable {es : Entries} {o : ObjectDefinition}

theorem read_eq_model
    (v : Value) :
    read v = Verdict.model ofValue? readFields v := by
  rw [read, Verdict.model]
  cases ofValue? v <;> cases v.entries? <;> rfl

/-- Without a path it does not matter under which name there is none. -/
theorem GivesPath.rename
    {field field' : String}
    (h : o.GivesPath es field)
    (hnone : es.getText? field = none)
    (hfield' : field' ∉ [field, "actions"]) :
    o.GivesPath es field' := by
  obtain ⟨hothers, htext⟩ := h
  rw [hnone] at htext
  rw [GivesPath, hothers.getText?_eq_none hfield']
  exact ⟨(hothers.of_cons hnone).cons field', htext⟩

/-- The name that is looked at is the one of the two that gives the path. -/
theorem givesPath_pathField_iff :
    o.GivesPath es (pathField es)
      ↔
    ∃ field ∈ ["schema", "schema_path"], o.GivesPath es field := by
  obtain ⟨hpath, hnone⟩ | ⟨hpath, hnone⟩ :
      (pathField es = "schema_path" ∧ es.getText? "schema" = none) ∨
        (pathField es = "schema" ∧
          (es.getText? "schema" = none → es.getText? "schema_path" = none)) := by
    unfold pathField
    cases es.getText? "schema" <;> cases es.getText? "schema_path" <;> simp
  · rw [hpath, List.exists_mem_cons_iff, List.exists_mem_cons_iff]
    refine ⟨fun h => .inr (.inl h), ?_⟩
    rintro (h | h | h)
    · exact h.rename hnone (by decide)
    · exact h
    · simp at h
  · rw [hpath, List.exists_mem_cons_iff, List.exists_mem_cons_iff]
    refine ⟨.inl, ?_⟩
    rintro (h | h | h)
    · exact h
    · have hschema := h.1.getText?_eq_none (by decide : "schema" ∉ _)
      exact h.rename (hnone hschema) (by decide)
    · simp at h

theorem readFields_eq_accepted_iff
    (hes : ∀ e ∈ es, e.2.IsData) :
    readFields es = .accepted o ↔ o.IsWrittenBy es := by
  rw [readFields, seqLeft_eq_accepted_iff]
  simp only [seq_eq_accepted_iff, map_eq_accepted_iff, optional_optionalText_iff,
    noOthers_eq_accepted_iff,
    optional_mapOf_iff (fun _ _ => ActionDefinition.read_eq_accepted_iff) hes]
  constructor
  · rintro ⟨⟨_, actions, ⟨path, hpath, rfl⟩, hactions, rfl⟩, _, hothers⟩
    exact ⟨givesPath_pathField_iff.mp ⟨hothers, hpath⟩, hactions⟩
  · rintro ⟨hpath, hactions⟩
    obtain ⟨hothers, hpath⟩ := givesPath_pathField_iff.mpr hpath
    exact ⟨⟨_, o.actions, ⟨o.schemaPath, hpath, rfl⟩, hactions, rfl⟩, (), hothers⟩

theorem read_eq_accepted_iff
    {v : Value}
    (hv : v.IsData) :
    read v = .accepted o ↔ ∃ es, v = .record es ∧ o.IsWrittenBy es := by
  rw [read_eq_model]
  exact model_eq_accepted_iff (fun _ => rfl) (fun _ => ofValue?_eq_none)
    (fun _ _ => readFields_eq_accepted_iff) hv

theorem settles_read
    (v : Value) :
    (read v).Settles := by
  rw [read_eq_model]
  refine settles_model (fun es => ?_) v
  exact (((settles_optional settles_optionalText).map _).seq
    (settles_optional (settles_mapOf ActionDefinition.settles_read))).seqLeft (settles_noOthers _ _)

end ObjectDefinition

namespace PolicyDocument

variable {d : PolicyDocument}

theorem read_eq_model
    (v : Value) :
    read v = Verdict.model ofValue? readFields v := by
  rw [read, Verdict.model]
  cases ofValue? v <;> cases v.entries? <;> rfl

theorem readFields_eq_accepted_iff
    {es : Entries}
    (hes : ∀ e ∈ es, e.2.IsData) :
    readFields es = .accepted d ↔ d.IsWrittenBy es := by
  rw [readFields, seqLeft_eq_accepted_iff]
  simp only [seq_eq_accepted_iff, map_eq_accepted_iff, optional_optionalText_iff,
    optional_anything_iff, optional_text_iff, noOthers_eq_accepted_iff,
    optional_name_iff (by decide : "policy" ≠ ""),
    optional_mapOf_iff (fun _ _ => ObjectDefinition.read_eq_accepted_iff) hes]
  constructor
  · rintro ⟨⟨_, objects, ⟨_, message, ⟨_, reason, ⟨_, module, ⟨name, ⟨hname, hne⟩, rfl⟩, hmodule,
      rfl⟩, hreason, rfl⟩, hmessage, rfl⟩, hobjects, rfl⟩, _, hothers⟩
    exact ⟨hothers, hname, hne, hmodule, hreason, hmessage, hobjects⟩
  · intro h
    exact ⟨⟨_, d.objects, ⟨_, d.errorMessage, ⟨_, d.errorReason, ⟨_, d.checkModule,
      ⟨d.name, ⟨h.name, h.name_ne_empty⟩, rfl⟩, h.check_module, rfl⟩, h.error_reason, rfl⟩,
      h.error_message, rfl⟩, h.objects, rfl⟩, (), h.no_others⟩

theorem read_eq_accepted_iff
    {v : Value}
    (hv : v.IsData) :
    read v = .accepted d ↔ ∃ es, v = .record es ∧ d.IsWrittenBy es := by
  rw [read_eq_model]
  exact model_eq_accepted_iff (fun _ => rfl) (fun _ => ofValue?_eq_none)
    (fun _ _ => readFields_eq_accepted_iff) hv

theorem settles_read
    (v : Value) :
    (read v).Settles := by
  rw [read_eq_model]
  refine settles_model (fun es => ?_) v
  have hname : ∀ v, (Verdict.name v).Settles :=
    name_ne_aborted
  have hany : ∀ v, (anything v).Settles :=
    settles_accepted
  exact ((((((settles_optional hname).map _).seq (settles_optional settles_optionalText)).seq
    (settles_optional hany)).seq (settles_optional settles_text)).seq
    (settles_optional (settles_mapOf ObjectDefinition.settles_read))).seqLeft
    (settles_noOthers _ _)

section Texts

/-- Data that counts as false and is no map. -/
inductive IsBlank : Value → Prop
  | null :
      IsBlank .null
  | false :
      IsBlank (.bool false)
  | int :
      IsBlank (.int 0)
  | float
      {x : Binary64}
      (zero : x.isZero = true) :
      IsBlank (.float x)
  | text :
      IsBlank (.text "")
  | bytes :
      IsBlank (.bytes [])
  | list :
      IsBlank (.list [])
  | set :
      IsBlank (.set [])

theorem isTrue_eq_false_of_isBlank
    {v : Value}
    (hv : IsBlank v) :
    v.isTrue = false := by
  cases hv with
  | float zero =>
      simp [Value.isTrue, zero]
  | _ =>
      rfl

/-- Data counts as false only if it is blank or an empty map. -/
theorem isBlank_of_isTrue_eq_false
    {v : Value}
    (hv : v.IsData)
    (hfalse : v.isTrue = false)
    (hmap : ∀ es, v ≠ .record es) :
    IsBlank v := by
  cases hv with
  | scalar plain =>
      cases plain with
      | null =>
          exact .null
      | bool b =>
          obtain rfl : b = false := hfalse
          exact .false
      | int i =>
          obtain rfl : i = 0 := by
            simpa [Value.isTrue] using hfalse
          exact .int
      | float x =>
          exact .float (by simpa [Value.isTrue] using hfalse)
      | text s =>
          obtain rfl : s = "" := by
            simpa [Value.isTrue] using hfalse
          exact .text
      | bytes items =>
          obtain rfl : items = [] := by
            simpa [Value.isTrue] using hfalse
          exact .bytes
      | _ =>
          cases hfalse
  | @list items _ =>
      obtain rfl : items = [] := by
        simpa [Value.isTrue] using hfalse
      exact .list
  | @set items _ =>
      obtain rfl : items = [] := by
        simpa [Value.isTrue] using hfalse
      exact .set
  | @map entries _ _ =>
      exact absurd rfl (hmap entries)
  | _ =>
      cases hfalse

/-- The document that declares nothing. -/
def blank : PolicyDocument where
  name := "policy"
  checkModule := none
  errorReason := .text "unauthorized"
  errorMessage := "unauthorized"
  objects := []

theorem ofText_of_load
    {text : String}
    {v : Value}
    (hload : Yaml.load text = .ok v) :
    ofText text = validate (orEmpty v) := by
  rw [ofText, hload]

/-- Blank data means the document that declares nothing. -/
theorem ofText_of_isBlank
    {text : String}
    {v : Value}
    (hload : Yaml.load text = .ok v)
    (hv : IsBlank v) :
    ofText text = .ok blank := by
  rw [ofText_of_load hload, orEmpty, isTrue_eq_false_of_isBlank hv]
  rfl

/-- A map is read as it is, even if it is empty. -/
theorem ofText_of_record
    {text : String}
    {es : Entries}
    (hload : Yaml.load text = .ok (.record es)) :
    (∀ d, ofText text = .ok d ↔ d.IsWrittenBy es) ∧
    ((∀ d : PolicyDocument, ¬ d.IsWrittenBy es) →
      ∃ problems, ofText text = .error (.invalid ⟨Model.policyDocument.name, problems⟩)) := by
  have hread :
      ∀ d, read (.record es) = .accepted d ↔ d.IsWrittenBy es := by
    intro d
    rw [read_eq_accepted_iff (Yaml.isData_of_load hload)]
    constructor
    · rintro ⟨_, heq, hwritten⟩
      cases heq
      exact hwritten
    · exact fun hwritten => ⟨es, rfl, hwritten⟩
  rw [ofText_of_load hload, orEmpty_record, validate]
  constructor
  · intro d
    rw [toExcept_eq_ok_iff, hread]
  · intro hnone
    exact (settles_read _).exists_problems (fun d hd => hnone d ((hread d).mp hd)) _

/-- Any other data is refused. -/
theorem ofText_of_other
    {text : String}
    {v : Value}
    (hload : Yaml.load text = .ok v)
    (hblank : ¬ IsBlank v)
    (hmap : ∀ es, v ≠ .record es) :
    ofText text = .error (.invalid ⟨Model.policyDocument.name, [⟨.modelExpected, []⟩]⟩) := by
  have hdata := Yaml.isData_of_load hload
  have htrue : v.isTrue = true := by
    rw [← Bool.not_eq_false]
    exact fun hfalse => hblank (isBlank_of_isTrue_eq_false hdata hfalse hmap)
  obtain ⟨es, rfl, _⟩ | hother := hdata.record_or_noMapping
  · exact absurd rfl (hmap es)
  · rw [ofText_of_load hload, orEmpty, if_pos htrue, validate, read_eq_model, model,
      ofValue?_eq_none hother, hother.entries?_eq_none]
    rfl

/-- **Which texts load.**  A text loads as a document iff its data is a map that writes it, or is
blank: then the document declares nothing, as if there were no data at all.  Other data that is no
map is refused, a map that writes no document is refused with problems, and a text without data is
reported.  The same holds of the text of a file.  A text that nests too deeply has no data
(`Yaml.Taking.levelLimit`), and the escape of half a pair stands for the replacement character
(`Text.ofCode`), so that no more is said of texts with such escapes. -/
theorem ofText_loads_documents
    (text : String) :
    (∀ d, ofText text = .ok d
        ↔
      ∃ v, Yaml.load text = .ok v ∧
        (IsBlank v ∧ d = blank ∨ ∃ es, v = .record es ∧ d.IsWrittenBy es)) ∧
    (∀ v, Yaml.load text = .ok v → ¬ IsBlank v → (∀ es, v ≠ .record es) →
      ofText text = .error (.invalid ⟨Model.policyDocument.name, [⟨.modelExpected, []⟩]⟩)) ∧
    (∀ es, Yaml.load text = .ok (.record es) → (∀ d : PolicyDocument, ¬ d.IsWrittenBy es) →
      ∃ problems, ofText text = .error (.invalid ⟨Model.policyDocument.name, problems⟩)) ∧
    (∀ problem, Yaml.load text = .error problem → ofText text = .error (.unreadable problem)) ∧
    ofFile (some text) = ofText text := by
  refine ⟨fun d => ⟨fun hd => ?_, ?_⟩, fun _ => ofText_of_other, fun _ h => (ofText_of_record h).2,
    fun problem h => ?_, rfl⟩
  · obtain ⟨v, hload, _⟩ := exists_load_of_ofText hd
    refine ⟨v, hload, ?_⟩
    by_cases hblank : IsBlank v
    · exact .inl ⟨hblank, Except.ok.inj (hd.symm.trans (ofText_of_isBlank hload hblank))⟩
    · by_cases hmap : ∃ es, v = .record es
      · obtain ⟨es, rfl⟩ := hmap
        exact .inr ⟨es, rfl, ((ofText_of_record hload).1 d).mp hd⟩
      · rw [ofText_of_other hload hblank (not_exists.mp hmap)] at hd
        cases hd
  · rintro ⟨v, hload, ⟨hblank, rfl⟩ | ⟨es, rfl, hwritten⟩⟩
    · exact ofText_of_isBlank hload hblank
    · exact ((ofText_of_record hload).1 d).mpr hwritten
  · rw [ofText, h]

theorem exists_load_of_any
    {text : String}
    {P : Value → Prop}
    [DecidablePred P]
    (h : ((Yaml.load text).toOption.any fun v => decide (P v)) = true) :
    ∃ v, Yaml.load text = .ok v ∧ P v := by
  obtain ⟨v, hv, hdecide⟩ := exists_of_any_toOption h
  exact ⟨v, hv, of_decide_eq_true hdecide⟩

/-- The word `no` is a document that declares nothing, and the word `yes` is none at all.  A map
with the name of a document is one, and a map with an unknown field is not. -/
theorem words_and_maps_load :
    ofText "no" = .ok blank ∧
    ofText "yes" = .error (.invalid ⟨Model.policyDocument.name, [⟨.modelExpected, []⟩]⟩) ∧
    (∃ d es, Yaml.load "name: desk" = .ok (.record es) ∧ d.IsWrittenBy es ∧
      ofText "name: desk" = .ok d ∧ d.name = "desk") ∧
    (∃ problems, ofText "objekts:" = .error (.invalid ⟨Model.policyDocument.name, problems⟩)) ∧
    ∃ problem, ofText "[" = .error (.unreadable problem) := by
  have hmap : ∀ {v : Value}, v.entries?.isNone = true → ∀ es, v ≠ .record es := by
    rintro _ hnone es rfl
    cases hnone
  obtain ⟨no, hno, hfalse, hnoMap⟩ : ∃ v, Yaml.load "no" = .ok v ∧
      v.isTrue = false ∧ v.entries?.isNone = true :=
    exists_load_of_any (by decide +kernel)
  obtain ⟨yes, hyes, htrue, hyesMap⟩ : ∃ v, Yaml.load "yes" = .ok v ∧
      v.isTrue = true ∧ v.entries?.isNone = true :=
    exists_load_of_any (by decide +kernel)
  have hblank : IsBlank no :=
    isBlank_of_isTrue_eq_false (Yaml.isData_of_load hno) hfalse (hmap hnoMap)
  have hsays : ¬ IsBlank yes := fun h => by
    rw [isTrue_eq_false_of_isBlank h] at htrue
    cases htrue
  refine ⟨((ofText_loads_documents "no").1 blank).mpr ⟨no, hno, .inl ⟨hblank, rfl⟩⟩,
    (ofText_loads_documents "yes").2.1 yes hyes hsays (hmap hyesMap), ?_, ?_, ?_⟩
  · obtain ⟨d, hd, hname⟩ := (Option.any_eq_true _ _).mp (by decide +kernel :
      ((ofText "name: desk").toOption.any fun d => d.name == "desk") = true)
    replace hd := toOption_eq_some_iff.mp hd
    replace hname : d.name = "desk" := eq_of_beq hname
    obtain ⟨v, hload, ⟨_, rfl⟩ | ⟨es, rfl, hwritten⟩⟩ :=
      ((ofText_loads_documents "name: desk").1 d).mp hd
    · exact absurd hname (by decide)
    · exact ⟨d, es, hload, hwritten, hd, hname⟩
  · obtain ⟨v, hload, hkeys⟩ : ∃ v, Yaml.load "objekts:" = .ok v ∧
        (v.entries?.map fun es => es.map fun e => e.1.text?) = some [some "objekts"] :=
      exists_load_of_any (by decide +kernel)
    obtain ⟨es, rfl, _⟩ | hother := (Yaml.isData_of_load hload).record_or_noMapping
    · refine (ofText_loads_documents "objekts:").2.2.1 es hload fun d hd => ?_
      have htexts : es.map (fun e => e.1.text?) = [some "objekts"] :=
        Option.some.inj hkeys
      obtain ⟨e, he, htext⟩ := List.mem_map.mp (htexts ▸ List.mem_singleton_self _)
      obtain ⟨s, hs, hfield⟩ := hd.no_others e he
      cases htext.symm.trans hs
      exact absurd hfield (by decide)
    · rw [hother.entries?_eq_none] at hkeys
      cases hkeys
  · cases hload : Yaml.load "[" with
    | error problem =>
        exact ⟨problem, (ofText_loads_documents "[").2.2.2.1 problem hload⟩
    | ok v =>
        have hnone : (Yaml.load "[").toOption.isNone = true := by
          decide +kernel
        rw [hload] at hnone
        cases hnone

end Texts

end PolicyDocument
end AccessPolicy
