/-!
# Tags of plain data

Every node of a document has a tag that says what data it stands for.  Tags are written in
full or in short; those of plain data share their beginning.
-/

namespace AccessPolicy
namespace Yaml

/-- What data a node stands for. -/
inductive DataTag where
  | null
  | bool
  | int
  | float
  | timestamp
  | text
  | binary
  | merge
  | default
  | sequence
  | mapping
  | orderedMap
  | pairs
  | set
  | other (name : String)
deriving DecidableEq, Repr, Inhabited

namespace DataTag

/-- The beginning that the full names of tags of plain data share. -/
def base : String := "tag:yaml.org,2002:"

/-- The tags of plain data by short name. -/
def shortNames : List (String × DataTag) :=
  [("null", .null), ("bool", .bool), ("int", .int), ("float", .float),
    ("timestamp", .timestamp), ("str", .text), ("binary", .binary), ("merge", .merge),
    ("value", .default), ("seq", .sequence), ("map", .mapping), ("omap", .orderedMap),
    ("pairs", .pairs), ("set", .set)]

/-- The tag of a full name. -/
def ofName (name : String) : DataTag :=
  match shortNames.find? fun n => base ++ n.1 = name with
  | some n => n.2
  | none => .other name

/-- The full name of a tag. -/
def name : DataTag → String
  | .other name => name
  | tag =>
      match shortNames.find? fun n => n.2 = tag with
      | some n => base ++ n.1
      | none => base

/-- Whether the data of a tag is made of other data. -/
def isCollection : DataTag → Bool
  | .sequence | .mapping | .orderedMap | .pairs | .set => true
  | _ => false

end DataTag

end Yaml
end AccessPolicy
