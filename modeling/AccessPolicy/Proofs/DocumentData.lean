import AccessPolicy.Document
import AccessPolicy.PolicyConfig
import AccessPolicy.Proofs.Validation

/-!
# Documents and their data

A document is read from a map of its fields.  `PolicyDocument.data` writes a document as such a
map, with every field in it, and reading gives the document back.

**Valid documents.**  Reading ensures that the name of a document is not empty, that no object
occurs twice, and that no object has two actions of one name (`PolicyDocument.IsValid`).  It
ensures nothing else: every document with these properties is read from some data
(`PolicyDocument.validate_data`).
-/

namespace AccessPolicy

namespace ActionDefinition

/-- The fields of an action definition. -/
def fields (a : ActionDefinition) : Fields :=
  [("description", Value.ofOptionalText a.description), ("allow", a.allow), ("deny", a.deny),
    ("pre_hooks", a.preHooks), ("metadata", a.metadata)]

def data (a : ActionDefinition) : Value :=
  Value.ofFields a.fields

end ActionDefinition

namespace ObjectDefinition

/-- The fields of an object definition. -/
def fields (o : ObjectDefinition) : Fields :=
  [("schema", Value.ofOptionalText o.schemaPath),
    ("actions", Value.ofFields (o.actions.map fun a => (a.1, a.2.data)))]

def data (o : ObjectDefinition) : Value :=
  Value.ofFields o.fields

end ObjectDefinition

namespace PolicyDocument

/-- The fields of a document. -/
def fields (d : PolicyDocument) : Fields :=
  [("name", .text d.name), ("check_module", Value.ofOptionalText d.checkModule),
    ("error_reason", d.errorReason), ("error_message", .text d.errorMessage),
    ("objects", Value.ofFields (d.objects.map fun o => (o.1, o.2.data)))]

def data (d : PolicyDocument) : Value :=
  Value.ofFields d.fields

/-- What every document is: its name is not empty, no object occurs twice, and no object has two
actions of one name. -/
structure IsValid (d : PolicyDocument) : Prop where
  name_ne_empty : d.name ≠ ""
  objects_nodup : (d.objects.map Prod.fst).Nodup
  actions_nodup : ∀ o ∈ d.objects, (o.2.actions.map Prod.fst).Nodup

end PolicyDocument

section Fields

theorem Verdict.optionalText_ofOptionalText
    (s : Option String) :
    Verdict.optionalText (Value.ofOptionalText s) = .accepted s := by
  cases s with
  | none =>
      rfl
  | some s =>
      rfl

theorem Verdict.anything_eq
    (v : Value) :
    Verdict.anything v = .accepted v := by
  rfl

theorem Verdict.name_text
    {s : String}
    (hs : s ≠ "") :
    Verdict.name (.text s) = .accepted s :=
  Verdict.name_eq_accepted_iff.mpr ⟨rfl, hs⟩

theorem Verdict.text_text
    (s : String) :
    Verdict.text (.text s) = .accepted s := by
  rfl

end Fields

open Verdict in
/-- Settings are made of any values, provided that the name is not empty. -/
theorem PolicyConfig.build_eq_ok
    {name : String}
    (hname : name ≠ "")
    (module reason : Value)
    (message : String) :
    PolicyConfig.build
        [("name", .text name), ("check_module", module), ("error_reason", reason),
          ("error_message", .text message)] =
      .ok ⟨name, module, reason, message⟩ := by
  rw [build, toExcept_eq_ok_iff, read, noOthers_textEntries (by simp),
    optional_textEntries rfl (name_text hname),
    optional_textEntries rfl (anything_eq module),
    optional_textEntries rfl (anything_eq reason),
    optional_textEntries rfl (text_text message)]
  rfl

section Reading

open Verdict

theorem ActionDefinition.read_data
    (a : ActionDefinition) :
    read a.data = .accepted a := by
  show readFields (Value.textEntries a.fields) = _
  rw [readFields, noOthers_textEntries (by simp [fields]),
    optional_textEntries rfl (optionalText_ofOptionalText a.description),
    optional_textEntries rfl (anything_eq a.allow),
    optional_textEntries rfl (anything_eq a.deny),
    optional_textEntries rfl (anything_eq a.preHooks),
    optional_textEntries rfl (anything_eq a.metadata)]
  rfl

theorem ObjectDefinition.read_data
    {o : ObjectDefinition}
    (hnodup : (o.actions.map Prod.fst).Nodup) :
    read o.data = .accepted o := by
  have hactions :=
    mapOf_ofFields (fun a _ => ActionDefinition.read_data a.2) hnodup
  have hpath : pathField (Value.textEntries o.fields) = "schema" := by
    simp [pathField, getText?_textEntries, fields, Fields.get?]
  show readFields (Value.textEntries o.fields) = _
  rw [readFields, hpath, noOthers_textEntries (by simp [fields]),
    optional_textEntries rfl (optionalText_ofOptionalText o.schemaPath),
    optional_textEntries rfl hactions]
  rfl

/-- A valid document is read back from its data. -/
theorem PolicyDocument.validate_data
    {d : PolicyDocument}
    (hvalid : d.IsValid) :
    validate d.data = .ok d := by
  have hobjects :=
    mapOf_ofFields (fun o ho => ObjectDefinition.read_data (hvalid.actions_nodup o ho))
      hvalid.objects_nodup
  rw [validate, toExcept_eq_ok_iff]
  show readFields (Value.textEntries d.fields) = _
  rw [readFields, noOthers_textEntries (by simp [fields, fieldNames]),
    optional_textEntries rfl (name_text hvalid.name_ne_empty),
    optional_textEntries rfl (optionalText_ofOptionalText d.checkModule),
    optional_textEntries rfl (anything_eq d.errorReason),
    optional_textEntries rfl (text_text d.errorMessage),
    optional_textEntries rfl hobjects]
  rfl

end Reading

end AccessPolicy
