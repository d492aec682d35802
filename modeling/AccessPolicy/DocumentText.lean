import AccessPolicy.Document
import AccessPolicy.Yaml.Data

/-!
# Policy documents in YAML

`PolicyDocument.ofText` reads a document from a YAML text.

**Empty texts.**  A text whose data is empty, such as null or a map without entries,
means the document with nothing in it.  So does any other data that counts as false: a
document that is the word `no` or the number zero declares nothing.
-/

namespace AccessPolicy
namespace PolicyDocument

/-- Data that counts as false is a map without entries. -/
def orEmpty (v : Value) : Value :=
  if v.isTrue then v else Value.record []

/-- Reads a document from a YAML text. -/
def ofText (text : String) : Except Failure PolicyDocument :=
  match Yaml.load text with
  | .ok v => validate (orEmpty v)
  | .error problem => .error (.unreadable problem)

/-- Reads a document from a file, given the text of the file if there is one. -/
def ofFile (text : Option String) : Except Failure PolicyDocument :=
  match text with
  | some s => ofText s
  | none => .error .fileNotFound

end PolicyDocument
end AccessPolicy
