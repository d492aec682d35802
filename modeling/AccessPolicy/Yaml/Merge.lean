import AccessPolicy.Yaml.Node

/-!
# Merged mappings

A mapping may take over the entries of other mappings under the key `<<`.  The entries
taken over come first, so that its own entries win; of several mappings in a list the
first wins.

**Mappings with anchors** keep their entries once merges are done: who takes them over, or
stands for them by an alias, sees what was merged.  A merge that is being done already is
not done again, so that a mapping may merge itself.

**The key `=`** is a text in a mapping whose merges are done.  The same node under an alias is
a text from then on.
-/

namespace AccessPolicy
namespace Yaml

/-- The entries of a mapping node, repeated keys included. -/
abbrev NodeEntries := List (Node × Node)

namespace Node

/-- The entries of a node that is a mapping. -/
def entries : Node → NodeEntries
  | .mapping _ entries _ _ => entries
  | _ => []

def withTag (tag : DataTag) : Node → Node
  | .scalar _ text a m => .scalar tag text a m
  | .sequence _ items a m => .sequence tag items a m
  | .mapping _ entries a m => .mapping tag entries a m
  | .alias name m => .alias name m

/-- The anchor of a node or of the node that it stands for. -/
def label? : Node → Option String
  | .alias name _ => some name
  | n => n.anchor?

end Node

/-- The node that a node stands for. -/
def Document.resolve (d : Document) : Node → Node
  | .alias name m => (d.anchored.lookup name).getD (.alias name m)
  | n => n

/-- What is known of the mappings of a document: entries of those with anchors, and anchors of
keys that have become texts. -/
structure MergeState where
  entries : List (String × NodeEntries) := []
  texts : List String := []

/-- Functions that do merges or complain. -/
abbrev Merging := StateT MergeState (Except Complaint)

namespace Merging

/-- The tag of a node as it is now. -/
def tagOf (d : Document) (n : Node) : Merging DataTag := do
  let texts := (← get).texts
  return if n.label?.any texts.contains then .text else (d.resolve n).tag

/-- The entries of a mapping as they are now; without an anchor they are the given ones. -/
def current (anchor : Option String) (entries : NodeEntries) : Merging NodeEntries := do
  let known := (← get).entries
  return (anchor.bind fun name => known.lookup name).getD entries

/-- Keeps the entries of a mapping with an anchor. -/
def keep (anchor : Option String) (entries : NodeEntries) : Merging Unit :=
  match anchor with
  | none => pure ()
  | some name => modify fun s => { s with entries := (name, entries) :: s.entries }

/-- The first entry that asks for a merge, and the entries without it. -/
def firstMerge? (d : Document) :
    NodeEntries → Merging (Option (Node × NodeEntries))
  | [] => return none
  | (k, v) :: rest => do
      if (← tagOf d k) = .merge then return some (v, rest)
      else
        let found ← firstMerge? d rest
        return found.map fun (value, left) => (value, (k, v) :: left)

/-- Makes a key a text if it is the key `=`. -/
def retag (d : Document) (k : Node) : Merging Node := do
  if (← tagOf d k) = .default then
    match k.label? with
    | some name => modify fun s => { s with texts := name :: s.texts }
    | none => pure ()
    return k.withTag .text
  else return k

/-- Makes the keys `=` of entries texts. -/
def retagAll (d : Document) (entries : NodeEntries) : Merging NodeEntries :=
  entries.mapM fun (k, v) => do return (← retag d k, v)

/-- Complains about a node that cannot be merged into a mapping. -/
def refuse {α : Type} (start : Mark) (expected : String) (n : Node) : Merging α :=
  throw ⟨.values, some ("while constructing a mapping", some start),
    "expected " ++ expected ++ " for merging, but found " ++ n.kindName, n.start⟩

mutual

/-- The entries of a mapping after some that it takes over, when its merges are done. -/
def mergeRest (d : Document) (start : Mark) (anchor : Option String) :
    Nat → NodeEntries → NodeEntries → Merging NodeEntries
  | 0, _, _ => throw ⟨.structures, none, "too deeply nested", start⟩
  | fuel + 1, taken, entries => do
      let entries ← current anchor entries
      match ← firstMerge? d entries with
      | none => do
          let all := taken ++ (← retagAll d entries)
          keep anchor all
          return all
      | some (value, left) => do
          keep anchor left
          let more ← mergedFrom d start fuel (d.resolve value)
          mergeRest d start anchor fuel (taken ++ more) left

/-- The entries that a mapping takes over from a node. -/
def mergedFrom (d : Document) (start : Mark) : Nat → Node → Merging NodeEntries
  | 0, _ => throw ⟨.structures, none, "too deeply nested", start⟩
  | fuel + 1, n =>
      match n with
      | .mapping _ entries anchor m => mergeRest d m anchor fuel [] entries
      | .sequence _ items _ _ => do
          let parts ← items.mapM fun item =>
            match d.resolve item with
            | .mapping _ entries anchor m => mergeRest d m anchor fuel [] entries
            | other => refuse start "a mapping" other
          return parts.reverse.flatten
      | other => refuse start "a mapping or list of mappings" other

end

/-- The entries of a mapping when its merges are done. -/
def merged (d : Document) (n : Node) : Merging NodeEntries :=
  mergeRest d n.start n.anchor? d.size [] n.entries

end Merging
end Yaml
end AccessPolicy
