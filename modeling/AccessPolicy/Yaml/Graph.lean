import AccessPolicy.Text.Base64
import AccessPolicy.Text.Utf8
import AccessPolicy.Value.Equality
import AccessPolicy.Yaml.Merge
import AccessPolicy.Yaml.Scalar

/-!
# The graph of a document

The data of a document is a graph: collections are cells, and a cell names the data of scalars
and the numbers of other cells.  An anchor has one cell, whatever aliases it has.

**Order.**  `Graph.ofDocument` goes through the document level by level, since what is inside a
collection is looked at after everything beside it.  The first complaint in this order is
the one that counts.  Scalars become data when they are met.

**Values.**  `Graph.value` follows the cells from the root.  A cell that is met inside itself is
a loop.
-/

namespace AccessPolicy
namespace Yaml

/-- A part of a collection: plain data, or the number of a cell. -/
inductive Part where
  | data (v : Value)
  | cell (i : Nat)
deriving Repr

/-- A collection of parts; keys of maps and sets are plain data. -/
inductive Cell where
  | list (items : List Part)
  | pairs (items : List (Part × Part))
  | map (entries : List (Value × Part))
  | set (keys : List Value)
deriving Repr

/-- The data of a document: its outermost part, and its collections by number. -/
structure Graph where
  root : Part
  cells : Array Cell
deriving Repr

/-- What is known of a graph while it is built: merges, the parts of anchors, and the nodes
of collections in the order of their numbers. -/
structure GraphState where
  merges : MergeState := {}
  known : List (String × Part) := []
  collections : Array Node := #[]

/-- Functions that build a graph or complain. -/
abbrev Building := StateT GraphState (Except Complaint)

namespace Building

section Scalars

/-- Complains about a node that gives no data. -/
def refuse {α : Type} (m : Mark) (problem : String) : Building α :=
  throw ⟨.values, none, problem, m⟩

/-- Uses what is known of merges. -/
def merging {α : Type} (f : Merging α) : Building α := do
  let s ← get
  let (result, merges) ← f.run s.merges
  set { s with merges }
  return result

/-- The first entry of a mapping whose key is `=`. -/
def default? (d : Document) : NodeEntries → Merging (Option Node)
  | [] => return none
  | (k, v) :: rest => do
      if (← Merging.tagOf d k) = .default then return some v else default? d rest

/-- The text of a node: that of a scalar, or of the key `=` of a mapping. -/
def textOf (d : Document) : Nat → Node → Building String
  | 0, n => refuse n.start "too deeply nested"
  | fuel + 1, n =>
      match d.resolve n with
      | .scalar _ text _ _ => return text
      | .mapping _ entries anchor m => do
          let entries ← merging (Merging.current anchor entries)
          match ← merging (default? d entries) with
          | some v => textOf d fuel v
          | none => refuse m "expected a scalar node, but found mapping"
      | other => refuse other.start ("expected a scalar node, but found " ++ other.kindName)

/-- The data that was read at a mark. -/
def readAt {α : Type} (m : Mark) : Except Scalar.Trouble α → Building α
  | .ok a => return a
  | .error t => throw ⟨t.stage, none, t.message, m⟩

/-- The bytes that a text in base 64 stands for. -/
def bytesOf (m : Mark) (text : String) : Building (List UInt8) :=
  match Text.Utf8.foreignMessage? text.toList with
  | some flaw => refuse m ("failed to convert base64 data into ascii: " ++ flaw)
  | none =>
      match Text.Base64.decode text.toList with
      | .ok bytes => return bytes
      | .error flaw => refuse m ("failed to decode base64 data: " ++ flaw)

/-- The origin of what is not a number and was read at a mark. -/
def originOf (m : Mark) : Nat :=
  2 + 2 * m.index

/-- The data of a node whose tag asks for no collection. -/
def scalarOf (d : Document) (tag : DataTag) (n : Node) : Building Value := do
  let m := n.start
  let text := textOf d d.size n
  match tag with
  | .null =>
      let _ ← text
      return .null
  | .text => return .text (← text)
  | .bool => return .bool (← readAt m (Scalar.readBool (← text)))
  | .int => return .int (← readAt m (Scalar.readInt (← text)))
  | .float => return .float (← readAt m (Scalar.readFloat (originOf m) (← text)))
  | .binary => return .bytes (← bytesOf m (← text))
  | .timestamp =>
      let text ← text
      match n with
      | .scalar .. =>
          match ← readAt m (Scalar.readTemporal text) with
          | .day day => return .date day
          | .moment moment => return .timestamp moment
      | _ => throw ⟨.kinds, none, "expected string or bytes-like object, got 'list'", m⟩
  | other =>
      refuse m ("could not determine a constructor for the tag " ++ Text.quoted other.name)

end Scalars

section Collections

/-- The part that a node stands for; a collection gets a number. -/
def visit (d : Document) (n : Node) : Building Part := do
  let n := d.resolve n
  let known := (← get).known
  match n.anchor?.bind fun name => known.lookup name with
  | some part => return part
  | none =>
      let tag ← merging (Merging.tagOf d n)
      let part ←
        if tag.isCollection then do
          let i := (← get).collections.size
          modify fun s => { s with collections := s.collections.push n }
          pure (Part.cell i)
        else Part.data <$> scalarOf d tag n
      match n.anchor? with
      | some name => modify fun s => { s with known := (name, part) :: s.known }
      | none => pure ()
      return part

/-- The entries of a map from those of its node. -/
def entriesOf (d : Document) (start : Mark) : NodeEntries → Building (List (Value × Part))
  | [] => return []
  | (k, v) :: rest => do
      match ← visit d k with
      | .cell _ =>
          throw ⟨.values, some ("while constructing a mapping", some start),
            "found unhashable key", (d.resolve k).start⟩
      | .data key =>
          let value ← visit d v
          return (key, value) :: (← entriesOf d start rest)

/-- The entries of a node that must be a mapping. -/
def mapOf (d : Document) (n : Node) : Building (List (Value × Part)) := do
  match n with
  | .mapping _ _ _ m => entriesOf d m (← merging (Merging.merged d n))
  | other => refuse n.start ("expected a mapping node, but found " ++ other.kindName)

/-- The pair of an item, which must be a mapping with one entry. -/
def pairOf (d : Document) (what : String) (start : Mark) (item : Node) :
    Building (Part × Part) := do
  let refusePair {α : Type} (m : Mark) (problem : String) : Building α :=
    throw ⟨.values, some ("while constructing " ++ what, some start), problem, m⟩
  match d.resolve item with
  | .mapping _ entries anchor m =>
      match ← merging (Merging.current anchor entries) with
      | [(k, v)] => do
          let key ← visit d k
          let value ← visit d v
          return (key, value)
      | entries =>
          refusePair m
            ("expected a single mapping item, but found " ++ toString entries.length ++ " items")
  | other =>
      refusePair other.start ("expected a mapping of length 1, but found " ++ other.kindName)

/-- The pairs of a node that must be a sequence of mappings with one entry each. -/
def pairsOf (d : Document) (what : String) (n : Node) : Building (List (Part × Part)) :=
  match n with
  | .sequence _ items _ m => items.mapM (pairOf d what m)
  | other =>
      throw ⟨.values, some ("while constructing " ++ what, some n.start),
        "expected a sequence, but found " ++ other.kindName, n.start⟩

def cellOf (d : Document) (n : Node) : Building Cell := do
  match ← merging (Merging.tagOf d n) with
  | .mapping => return .map (← mapOf d n)
  | .set => return .set ((← mapOf d n).map (·.1))
  | .orderedMap => return .pairs (← pairsOf d "an ordered map" n)
  | .pairs => return .pairs (← pairsOf d "pairs" n)
  | _ =>
      match n with
      | .sequence _ items _ _ => return .list (← items.mapM (visit d))
      | other => refuse n.start ("expected a sequence node, but found " ++ other.kindName)

/-- The cells after some, as long as there are collections without one. -/
def cellsFrom (d : Document) : Nat → Array Cell → Building (Array Cell)
  | 0, cells => return cells
  | fuel + 1, cells => do
      match (← get).collections[cells.size]? with
      | none => return cells
      | some n => cellsFrom d fuel (cells.push (← cellOf d n))

def graphOf (d : Document) : Building Graph := do
  let root ← visit d d.root
  let cells ← cellsFrom d (d.size * d.size * d.size) #[]
  return ⟨root, cells⟩

end Collections

end Building

namespace Graph

def ofDocument (d : Document) : Except Complaint Graph :=
  (Building.graphOf d).run' {}

/-- The values of cells that are known, and whether a loop was met. -/
structure Evaluation where
  values : Array (Option Value)
  looped : Bool := false

/-- What stands for a cell inside itself. -/
def loopOf : Option Cell → Value
  | some (.map _) => .loop (.builtin .map)
  | _ => .loop (.builtin .list)

/-- The value of a cell from those of its parts. -/
def cellValue {m : Type → Type} [Monad m] (inside : Part → m Value) : Cell → m Value
  | .list items => return .list (← items.mapM inside)
  | .pairs items =>
      return .list (← items.mapM fun p => do return .tuple [← inside p.1, ← inside p.2])
  | .map entries =>
      return Value.record (Entries.ofList (← entries.mapM fun e => do return (e.1, ← inside e.2)))
  | .set keys => return .set (Value.distinct keys)

/-- The value of a part, which lies inside the cells of a path.  The value of a cell is kept if
no loop was met in it, since it does not depend on the path then. -/
def partValue (cells : Array Cell) : Nat → List Nat → Part → StateM Evaluation Value
  | _, _, .data v => return v
  | 0, _, .cell _ => return .null
  | fuel + 1, path, .cell i => do
      let before ← get
      match before.values[i]?.join, path.contains i with
      | some v, _ => return v
      | none, true => do
          set { before with looped := true }
          return loopOf cells[i]?
      | none, false => do
          set { before with looped := false }
          let v ←
            match cells[i]? with
            | some cell => cellValue (partValue cells fuel (i :: path)) cell
            | none => pure .null
          modify fun after =>
            if after.looped then after
            else ⟨after.values.setIfInBounds i (some v), before.looped⟩
          return v

/-- The value that a graph stands for. -/
def value (g : Graph) : Value :=
  let evaluation := ⟨Array.replicate g.cells.size none, false⟩
  ((partValue g.cells (g.cells.size + 1) [] g.root).run evaluation).1

end Graph
end Yaml
end AccessPolicy
