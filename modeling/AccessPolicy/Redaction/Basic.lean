import AccessPolicy.Redaction.Copy
import AccessPolicy.Redaction.Registry
import AccessPolicy.Redaction.Spec

/-!
# Redaction

Redaction hides fields of an object depending on who looks at it.  The result is a new
object of the same type; the fields that a spec names are replaced and all others kept.

**Fields.**  The fields of a map are its entries, the fields of anything else its members,
which must be named by a text.  A field that is missing, null or not loaded is skipped by
nested and delegated entries, and a list or tuple in a field is redacted item by item.

**Copies.**  Fields are replaced in a copy of the object.  Objects with a fixed set of fields
take no others, and scalars and collections have no members that can be replaced.

**Order.**  Entries are applied in order.  A later entry sees what an earlier one put in
place of a field.

**Depth.**  Every application of a spec to a part of an object uses up one unit of a
depth limit.  The limit is the same for all values and far beyond the depth of objects that
programs build, so that mostly a marker or a class-wide field that contains itself reaches it.
-/

namespace AccessPolicy
namespace Redaction

/-- Who looks, with which options, and what is put in place of hidden fields. -/
structure Viewing where
  env : Environment
  subject : Value
  options : Value
  marker : Value
  registry : Option Registry

namespace Viewing

/-- The value of a field of an object. -/
def readField (w : Viewing) (object key : Value) : Except Failure (Option Value) :=
  match object with
  | .map t entries =>
      if key.isKey then
        .ok (((w.env.handlingOf t).computed? object key).or (Entries.get? entries key))
      else .error .wrongType
  | v =>
      match key.text? with
      | some name => .ok (w.env.member? v name)
      | none => .error .wrongType

/-- The options of a request as a map. -/
def optionMap (w : Viewing) : Except Failure Value :=
  if w.options.isTrue then Value.record <$> Construction.entries w.options
  else .ok (Value.record [])

/-- What the callback of an object gives as its spec. -/
def callbackValues (w : Viewing) (object : Value) : Run (List Value) := do
  let options ← Run.ofExcept w.optionMap
  match callbackOf? w.env w.registry object with
  | none => .fail (Failure.ofCause (.notRedactable (.text object.typeName)))
  | some c =>
      ⟨[.consult c.label w.subject options], do
        let v ← c.run [object, w.subject, options]
        match v.parts? with
        | some items => .ok items
        | none => .error .wrongType⟩

/-- The spec of an object as its callback gives it, which is asked through the object. -/
def specValues (w : Viewing) (object : Value) : Run (List Value) := do
  let _ ← Run.ofExcept w.optionMap
  if hidesCallback w.env object then .fail .wrongType
  else w.callbackValues object

def specOf (w : Viewing) (object : Value) : Run Spec := do
  let items ← w.specValues object
  return Entry.ofList items

end Viewing

/-- Whether a value is left alone by nested redaction. -/
def isSkipped (v : Value) : Bool :=
  match v with
  | .null => true
  | v => v.isNotLoaded

/-- Redacts a single value, or the items of a list or tuple one by one. -/
def redactEach (f : Value → Run Value) : Value → Run Value
  | .list xs => Value.list <$> Run.forEach f xs
  | .tuple xs => Value.tuple <$> Run.forEach f xs
  | v => f v

section Application

variable (w : Viewing)

/-- Redacts a part of an object by the callback of its type, which must be the given one. -/
def delegateItem (again : Spec → Value → Run Value) (key : Value) (type : TypeRef)
    (item : Value) : Run Value :=
  if isSkipped item then .result item
  else if !item.isInstance type then
    .fail (Failure.ofCause
      (.redactionTypeMismatch (.text item.typeName) key (.text type.name)))
  else do
    let spec ← w.specOf item
    again spec item

/-- Replaces the value of a field, which an earlier entry may have put there, by a redacted
one. -/
def redactField (object : Value) (updates : Entries) (key : Value) (f : Value → Run Value) :
    Run Entries := do
  if !key.isKey then .fail .wrongType
  else
    let current? ←
      match Entries.get? updates key with
      | some v => .result (some v)
      | none => Run.ofExcept (w.readField object key)
    match current? with
    | none => return updates
    | some current =>
        if isSkipped current then return updates
        else return Entries.set updates key (← redactEach f current)

/-- The replacements of an object's fields after one more entry. -/
def applyEntry (again : Spec → Value → Run Value) (object : Value) (updates : Entries) :
    Entry → Run Entries
  | .hide field => do
      match ← Run.ofExcept (w.readField object (.text field)) with
      | some _ => return Entries.set updates (.text field) w.marker
      | none => return updates
  | .nested key spec => redactField w object updates key (again spec)
  | .delegate key type => redactField w object updates key (delegateItem w again key type)
  | .malformed failure => .fail failure

/-- The replacements of an object's fields after all entries of a spec. -/
def collect (again : Spec → Value → Run Value) (object : Value) : Entries → Spec → Run Entries
  | updates, [] => .result updates
  | updates, e :: rest => do
      let updates ← applyEntry w again object updates e
      collect again object updates rest

/-- Applies a spec to an object, nested at most to the given depth. -/
def apply : Nat → Spec → Value → Run Value
  | 0, _, _ => .fail .tooDeep
  | depth + 1, spec, object => do
      let updates ← collect w (apply depth) object [] spec
      if updates.isEmpty then .result object
      else .ofExcept (replaceFields w.env object updates)

/-- Redacts one object by the callback of its type. -/
def redactObject (depth : Nat) (object : Value) : Run Value := do
  let spec ← w.specOf object
  apply w depth spec object

end Application

/-- The depth that redaction may reach. -/
def depthLimit : Nat :=
  1000

/-- Redacts an object, the objects of a list or tuple, or nothing. -/
def redact (w : Viewing) (value : Value) : Run Value :=
  match value with
  | .null => .result .null
  | v => do
      let _ ← Run.ofExcept w.optionMap
      redactEach (redactObject w depthLimit) v

/-- Whether redaction of an object replaces none of its fields. -/
def isUntouched (w : Viewing) (object : Value) : Run Bool :=
  match object with
  | .null => .result true
  | v => do
      let spec ← w.specOf v
      let updates ← collect w (apply w depthLimit) v [] spec
      return updates.isEmpty

section Candidates

/-- The fields that a spec hides by plain entries. -/
def hiddenFields (spec : List Value) : List String :=
  spec.filterMap Value.text?

/-- The candidates that a subject may see, each once and in order. -/
def unredactedFields (w : Viewing) (candidates object : Value) : Run (List Value) := do
  let spec ← w.specValues object
  match candidates.parts? with
  | none => .fail .wrongType
  | some items =>
      if !items.all Value.isKey then .fail .wrongType
      else
        return (Value.distinct items).filter fun v =>
          match v.text? with
          | some s => !(hiddenFields spec).contains s
          | none => true

end Candidates

end Redaction
end AccessPolicy
