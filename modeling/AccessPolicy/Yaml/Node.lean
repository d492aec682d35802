import AccessPolicy.Yaml.Scalar
import AccessPolicy.Yaml.Token.Stream

/-!
# YAML nodes

The structure of a document: scalars, sequences and mappings with their tags, and aliases.
A mapping keeps every entry that is written, also entries with equal keys.

**Anchors.**  An alias stands for the node with the anchor of its name.  The names of anchors
are unique, and an anchor comes before its aliases; but an alias may stand inside the node
that it means.  Only an anchor that has an alias is kept: without one it means nothing.

**Nesting** of collections has a limit.

**Tokens** are read from the text when they are needed, so that what is wrong with a token
matters only if it is reached.

`Document.ofText?` reads the one document of a text.
-/

namespace AccessPolicy
namespace Yaml

/-- A node of a document. -/
inductive Node where
  | scalar (tag : DataTag) (text : String) (anchor : Option String) (start : Mark)
  | sequence (tag : DataTag) (items : List Node) (anchor : Option String) (start : Mark)
  | mapping (tag : DataTag) (entries : List (Node × Node)) (anchor : Option String)
      (start : Mark)
  | alias (name : String) (start : Mark)
deriving Repr

namespace Node

def start : Node → Mark
  | .scalar _ _ _ m => m
  | .sequence _ _ _ m => m
  | .mapping _ _ _ m => m
  | .alias _ m => m

def tag : Node → DataTag
  | .scalar t _ _ _ => t
  | .sequence t _ _ _ => t
  | .mapping t _ _ _ => t
  | .alias _ _ => .null

def anchor? : Node → Option String
  | .scalar _ _ a _ => a
  | .sequence _ _ a _ => a
  | .mapping _ _ a _ => a
  | .alias _ _ => none

/-- How a kind of node is named in complaints. -/
def kindName : Node → String
  | .scalar .. => "scalar"
  | .sequence .. => "sequence"
  | .mapping .. => "mapping"
  | .alias .. => "alias"

/-- A scalar that is not written at all. -/
def empty (m : Mark) : Node :=
  .scalar .null "" none m

mutual

/-- The names of the aliases in a node. -/
def aliases : Node → List String
  | .scalar .. => []
  | .sequence _ items _ _ => aliasesOfItems items
  | .mapping _ entries _ _ => aliasesOfEntries entries
  | .alias name _ => [name]

def aliasesOfItems : List Node → List String
  | [] => []
  | n :: rest => aliases n ++ aliasesOfItems rest

def aliasesOfEntries : List (Node × Node) → List String
  | [] => []
  | (k, v) :: rest => aliases k ++ aliases v ++ aliasesOfEntries rest

end

mutual

/-- A node whose anchors are only those of some names. -/
def keepAnchors (names : List String) : Node → Node
  | .scalar tag text a m => .scalar tag text (a.filter names.contains) m
  | .sequence tag items a m =>
      .sequence tag (keepAnchorsOfItems names items) (a.filter names.contains) m
  | .mapping tag entries a m =>
      .mapping tag (keepAnchorsOfEntries names entries) (a.filter names.contains) m
  | .alias name m => .alias name m

def keepAnchorsOfItems (names : List String) : List Node → List Node
  | [] => []
  | n :: rest => keepAnchors names n :: keepAnchorsOfItems names rest

def keepAnchorsOfEntries (names : List String) : List (Node × Node) → List (Node × Node)
  | [] => []
  | (k, v) :: rest =>
      (keepAnchors names k, keepAnchors names v) :: keepAnchorsOfEntries names rest

end

mutual

/-- How many nodes a node consists of. -/
def count : Node → Nat
  | .scalar .. => 1
  | .sequence _ items _ _ => countOfItems items + 1
  | .mapping _ entries _ _ => countOfEntries entries + 1
  | .alias .. => 1

def countOfItems : List Node → Nat
  | [] => 0
  | n :: rest => count n + countOfItems rest

def countOfEntries : List (Node × Node) → Nat
  | [] => 0
  | (k, v) :: rest => count k + count v + countOfEntries rest

end

end Node

/-- A document: its outermost node, the nodes that have anchors, and a number that is beyond
the count of its nodes and the depth of the merges among them. -/
structure Document where
  root : Node
  anchored : List (String × Node)
  size : Nat
deriving Repr

/-- What is known of a document while its nodes are taken. -/
structure NodeState where
  cursor : Cursor
  scan : TokenState := {}
  ready : List Token := []
  anchors : List (String × Mark) := []
  anchored : List (String × Node) := []
  tagHandles : List (String × String) := []
  level : Nat := 0
  fuel : Nat

/-- Functions that take tokens or complain. -/
abbrev Taking := StateT NodeState (Except Complaint)

namespace Taking

/-- Changes the state of the tokens by reading. -/
def scan (f : TokenState → Reading TokenState) : Taking Unit := do
  let s ← get
  let (scan, cursor) ← (f s.scan).run s.cursor
  set { s with scan, cursor }

/-- Reads tokens until the next one can be used. -/
def fill : Nat → Taking Token
  | 0 => throw ⟨.structures, none, "unexpected end", ⟨0, 0, 0⟩⟩
  | n + 1 => do
      let s ← get
      if !s.scan.finished && s.ready.isEmpty && s.scan.tokens.isEmpty then
        scan Reading.fetch
        fill n
      else
        if !s.scan.finished then scan Reading.dropStaleKeys
        let s ← get
        match s.ready with
        | t :: _ => return t
        | [] =>
            match s.scan.release with
            | (t :: rest, left) => do
                set { s with ready := t :: rest, scan := left }
                return t
            | ([], _) => do
                scan Reading.fetch
                fill n

def peek : Taking Token := do
  fill (← get).fuel

def take : Taking Token := do
  let t ← peek
  modify fun s => { s with ready := s.ready.tail }
  return t

/-- Whether the next token is of one of some kinds. -/
def next (kinds : List TokenKind) : Taking Bool := do
  return kinds.contains (← peek).kind

/-- Complains about the next token while a structure is read. -/
def unexpected {α : Type} (context : String) (start : Mark) (expected : String) : Taking α := do
  let t ← peek
  throw ⟨.structures, some (context, some start), expected ++ Text.quoted t.kind.name, t.start⟩

section Properties

/-- The anchor and the tag before a node, and where they begin. -/
structure Properties where
  anchor : Option String := none
  tag : Option (Option String × String) := none
  start : Option Mark := none
  tagStart : Option Mark := none

/-- Takes an anchor if one follows. -/
def takeAnchor (p : Properties) : Taking Properties := do
  let t ← peek
  match t.kind with
  | .anchor name => do
      let _ ← take
      return { p with anchor := some name, start := p.start.or (some t.start) }
  | _ => return p

/-- Takes a tag if one follows. -/
def takeTag (p : Properties) : Taking Properties := do
  let t ← peek
  match t.kind with
  | .tag handle suffix => do
      let _ ← take
      return { p with
        tag := some (handle, suffix), start := p.start.or (some t.start),
        tagStart := some t.start }
  | _ => return p

/-- Takes an anchor and a tag in either order. -/
def takeProperties : Taking Properties := do
  let p ← takeAnchor {}
  let p ← takeTag p
  if p.anchor.isNone then takeAnchor p else return p

/-- The full form of a tag. -/
def resolveTag (p : Properties) : Taking (Option String) := do
  match p.tag with
  | none => return none
  | some (none, suffix) => return some suffix
  | some (some handle, suffix) =>
      match (← get).tagHandles.lookup handle with
      | some replacement => return some (replacement ++ suffix)
      | none =>
          let m := p.tagStart.getD ⟨0, 0, 0⟩
          throw ⟨.structures, some ("while parsing a node", p.start),
            "found undefined tag handle " ++ Text.quoted handle, m⟩

def collectionTag (standard : DataTag) (tag : Option String) : DataTag :=
  match tag with
  | none => standard
  | some "!" => standard
  | some name => .ofName name

/-- The tag of a scalar: without one, a plain text has the tag of its form. -/
def scalarTag (plain : Bool) (text : String) (tag : Option String) : DataTag :=
  match tag with
  | none => if plain then Scalar.tagOf text else .text
  | some "!" => Scalar.tagOf text
  | some name => .ofName name

/-- Declares an anchor, which must be new, for a node that is not read yet. -/
def declareAnchor (anchor : Option String) (m : Mark) : Taking Unit := do
  match anchor with
  | none => return ()
  | some name =>
      match (← get).anchors.lookup name with
      | some first =>
          throw ⟨.anchors,
            some ("found duplicate anchor " ++ Text.quoted name ++ "; first occurrence",
              some first), "second occurrence", m⟩
      | none => modify fun s => { s with anchors := (name, m) :: s.anchors }

def defineAnchor (n : Node) : Taking Node := do
  match n.anchor? with
  | none => return n
  | some name =>
      modify fun s => { s with anchored := (name, n) :: s.anchored }
      return n

/-- How deeply collections may be nested.  The number belongs to one interpreter, which allows a
thousand calls within one another, two for each level, and to the calls that are under way where
a text is read.  Nothing that is proved of texts depends on it. -/
def levelLimit : Nat := 485

def beginCollection : Taking Unit := do
  let s ← get
  if levelLimit < s.level then
    throw ⟨.levels, none, "maximum recursion depth exceeded", ⟨0, 0, 0⟩⟩
  else set { s with level := s.level + 1 }

/-- Ends a collection, which gets its anchor. -/
def endCollection (n : Node) : Taking Node := do
  modify fun s => { s with level := s.level - 1 }
  defineAnchor n

/-- The node of an alias, whose anchor must be declared. -/
def resolveAlias (name : String) (m : Mark) : Taking Node := do
  match (← get).anchors.lookup name with
  | some _ => return .alias name m
  | none => throw ⟨.anchors, none, "found undefined alias " ++ Text.quoted name, m⟩

end Properties

mutual

/-- Takes a node; in a block it may be a block itself, and a dash may follow directly. -/
def takeNode (block dashes : Bool) : Nat → Taking Node
  | 0 => throw ⟨.structures, none, "too deeply nested", ⟨0, 0, 0⟩⟩
  | n + 1 => do
      let first ← peek
      match first.kind with
      | .alias name => do
          let _ ← take
          resolveAlias name first.start
      | _ => do
          let p ← takeProperties
          let tag ← resolveTag p
          let t ← peek
          let start := p.start.getD t.start
          let declare := declareAnchor p.anchor start
          if dashes && t.kind == .blockEntry then
            declare
            beginCollection
            let items ← takeDashes n
            endCollection (.sequence (collectionTag .sequence tag) items p.anchor start)
          else
            match t.kind with
            | .scalar text plain => do
                let _ ← take
                declare
                defineAnchor (.scalar (scalarTag plain text tag) text p.anchor start)
            | .flowSequenceStart => do
                let _ ← take
                declare
                beginCollection
                let items ← takeFlowItems t.start true n
                endCollection (.sequence (collectionTag .sequence tag) items p.anchor start)
            | .flowMappingStart => do
                let _ ← take
                declare
                beginCollection
                let entries ← takeFlowEntries t.start true n
                endCollection (.mapping (collectionTag .mapping tag) entries p.anchor start)
            | kind =>
                if block && kind == .blockSequenceStart then
                  let _ ← take
                  declare
                  beginCollection
                  let items ← takeBlockItems t.start n
                  endCollection (.sequence (collectionTag .sequence tag) items p.anchor start)
                else if block && kind == .blockMappingStart then
                  let _ ← take
                  declare
                  beginCollection
                  let entries ← takeBlockEntries t.start n
                  endCollection (.mapping (collectionTag .mapping tag) entries p.anchor start)
                else if p.anchor.isSome || tag.isSome then
                  declare
                  defineAnchor (.scalar (scalarTag true "" tag) "" p.anchor start)
                else
                  let name := if block then "block" else "flow"
                  unexpected ("while parsing a " ++ name ++ " node") start
                    "expected the node content, but found "

/-- Takes the items of a block sequence up to its end. -/
def takeBlockItems (start : Mark) : Nat → Taking (List Node)
  | 0 => return []
  | n + 1 => do
      let t ← peek
      match t.kind with
      | .blockEntry => do
          let _ ← take
          let item ←
            if ← next [.blockEntry, .blockEnd] then pure (Node.empty t.stop)
            else takeNode true false n
          return item :: (← takeBlockItems start n)
      | .blockEnd => do
          let _ ← take
          return []
      | _ =>
          unexpected "while parsing a block collection" start
            "expected <block end>, but found "

/-- Takes the items of a sequence that is not indented. -/
def takeDashes : Nat → Taking (List Node)
  | 0 => return []
  | n + 1 => do
      let t ← peek
      match t.kind with
      | .blockEntry => do
          let _ ← take
          let item ←
            if ← next [.blockEntry, .key, .value, .blockEnd] then pure (Node.empty t.stop)
            else takeNode true false n
          return item :: (← takeDashes n)
      | _ => return []

/-- Takes the entries of a block mapping up to its end. -/
def takeBlockEntries (start : Mark) : Nat → Taking (List (Node × Node))
  | 0 => return []
  | n + 1 => do
      let t ← peek
      match t.kind with
      | .key => do
          let _ ← take
          let key ←
            if ← next [.key, .value, .blockEnd] then pure (Node.empty t.stop)
            else takeNode true true n
          let v ← peek
          let value ←
            if v.kind == .value then do
              let _ ← take
              if ← next [.key, .value, .blockEnd] then pure (Node.empty v.stop)
              else takeNode true true n
            else pure (Node.empty v.start)
          return (key, value) :: (← takeBlockEntries start n)
      | .blockEnd => do
          let _ ← take
          return []
      | _ =>
          unexpected "while parsing a block mapping" start "expected <block end>, but found "

/-- Takes the items of a bracketed sequence up to its end. -/
def takeFlowItems (start : Mark) (first : Bool) : Nat → Taking (List Node)
  | 0 => return []
  | n + 1 => do
      if ← next [.flowSequenceEnd] then
        let _ ← take
        return []
      else
        if !first then
          if ← next [.flowEntry] then
            let _ ← take
          else
            unexpected "while parsing a flow sequence" start "expected ',' or ']', but got "
        let t ← peek
        match t.kind with
        | .key => do
            let _ ← take
            let key ←
              if ← next [.value, .flowEntry, .flowSequenceEnd] then pure (Node.empty t.stop)
              else takeNode false false n
            let value ← takeFlowValue [.flowEntry, .flowSequenceEnd] n
            let item := Node.mapping .mapping [(key, value)] none t.start
            return item :: (← takeFlowItems start false n)
        | .flowSequenceEnd => do
            let _ ← take
            return []
        | _ => do
            let item ← takeNode false false n
            return item :: (← takeFlowItems start false n)

/-- Takes the entries of a bracketed mapping up to its end. -/
def takeFlowEntries (start : Mark) (first : Bool) : Nat → Taking (List (Node × Node))
  | 0 => return []
  | n + 1 => do
      if ← next [.flowMappingEnd] then
        let _ ← take
        return []
      else
        if !first then
          if ← next [.flowEntry] then
            let _ ← take
          else
            unexpected "while parsing a flow mapping" start
              "expected ',' or '\x7d', but got "
        let t ← peek
        match t.kind with
        | .key => do
            let _ ← take
            let key ←
              if ← next [.value, .flowEntry, .flowMappingEnd] then pure (Node.empty t.stop)
              else takeNode false false n
            let value ← takeFlowValue [.flowEntry, .flowMappingEnd] n
            return (key, value) :: (← takeFlowEntries start false n)
        | .flowMappingEnd => do
            let _ ← take
            return []
        | _ => do
            let key ← takeNode false false n
            let value := Node.empty (← peek).start
            return (key, value) :: (← takeFlowEntries start false n)

/-- Takes the value of an entry in brackets, which may be missing. -/
def takeFlowValue (ends : List TokenKind) : Nat → Taking Node
  | 0 => throw ⟨.structures, none, "too deeply nested", ⟨0, 0, 0⟩⟩
  | n + 1 => do
      let v ← peek
      if v.kind == .value then
        let _ ← take
        if ← next ends then return Node.empty v.stop
        else takeNode false false n
      else return Node.empty v.start

end

section Documents

/-- The tag handles that every document has. -/
def standardHandles : List (String × String) :=
  [("!", "!"), ("!!", DataTag.base)]

/-- Takes the directives before a document. -/
def takeDirectives (versioned : Bool) (handles : List (String × String)) :
    Nat → Taking (List (String × String))
  | 0 => return handles
  | n + 1 => do
      let t ← peek
      match t.kind with
      | .directive d => do
          let _ ← take
          match d with
          | .version major =>
              if versioned then
                throw ⟨.structures, none, "found duplicate YAML directive", t.start⟩
              else if major != 1 then
                throw ⟨.structures, none,
                  "found incompatible YAML document (version 1.* is required)", t.start⟩
              else takeDirectives true handles n
          | .tagHandle handle replacement =>
              if (handles.lookup handle).isSome then
                throw ⟨.structures, none, "duplicate tag handle " ++ Text.quoted handle,
                  t.start⟩
              else takeDirectives versioned ((handle, replacement) :: handles) n
          | .other => takeDirectives versioned handles n
      | _ => return handles ++ standardHandles

def skipDocumentEnds : Nat → Taking Unit
  | 0 => return ()
  | n + 1 => do
      if ← next [.documentEnd] then
        let _ ← take
        skipDocumentEnds n
      else return ()

/-- Whether the next token begins or ends a document. -/
def atDocumentBoundary : Taking Bool := do
  match (← peek).kind with
  | .directive _ | .documentStart | .documentEnd | .streamEnd => return true
  | _ => return false

/-- Takes the beginning of a document that is marked as one, unless the stream ends. -/
def takeMarkedStart (fuel : Nat) : Taking (Option Mark) := do
  skipDocumentEnds fuel
  if ← next [.streamEnd] then return none
  else
    let start := (← peek).start
    let handles ← takeDirectives false [] fuel
    modify fun s => { s with tagHandles := handles }
    let t ← peek
    if t.kind != .documentStart then
      throw ⟨.structures, none,
        "expected '<document start>', but found " ++ Text.quoted t.kind.name, t.start⟩
    let _ ← take
    return some start

/-- Takes the content of a document that is marked as one. -/
def takeMarkedContent (fuel : Nat) : Taking Node := do
  if ← atDocumentBoundary then return Node.empty (← peek).start
  else takeNode true false fuel

/-- Takes the only document of a stream; there may be none. -/
def takeDocument (fuel : Nat) : Taking (Option Node) := do
  let t ← peek
  let boundary ←
    match t.kind with
    | .directive _ | .documentStart | .streamEnd => pure true
    | _ => pure false
  let found ←
    if boundary then do
      match ← takeMarkedStart fuel with
      | none => pure none
      | some _ => some <$> takeMarkedContent fuel
    else do
      modify fun s => { s with tagHandles := standardHandles }
      some <$> takeNode true false fuel
  match found with
  | none => return none
  | some node =>
      if ← next [.documentEnd] then
        let _ ← take
      match ← takeMarkedStart fuel with
      | none => return some node
      | some second =>
          throw ⟨.anchors, some ("expected a single document in the stream", some node.start),
            "but found another document", second⟩

end Documents

end Taking

namespace Document

/-- The document of an outermost node and of the nodes that have anchors.  Anchors without an
alias are left out. -/
def ofNodes (root : Node) (anchored : List (String × Node)) (size : Nat) : Document :=
  let names := root.aliases
  ⟨root.keepAnchors names, anchored.map fun a => (a.1, a.2.keepAnchors names),
    root.count + size⟩

/-- The document of a text, if it has one. -/
def ofText? (cs : List Char) : Except Complaint (Option Document) := do
  let beginning := Cursor.ofText cs
  let cursor := if cs.head? = some '\uFEFF' then beginning.advance 1 else beginning
  let (root, s) ← (Taking.takeDocument (9 * cs.length + 30)).run { cursor, fuel := cs.length + 3 }
  return root.map fun root => ofNodes root s.anchored (4 * cs.length + 20)

end Document
end Yaml
end AccessPolicy
