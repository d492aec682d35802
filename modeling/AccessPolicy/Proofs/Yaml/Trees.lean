import AccessPolicy.Proofs.Outcome
import AccessPolicy.Yaml.Data
import Mathlib.Algebra.GroupWithZero.Nat
import Mathlib.Data.List.Forall2

/-!
# Documents without aliases

A document in which no alias stands and no mapping takes over another one is a tree.  Its data
can be read off node by node: `Document.datum?` does this by recursion, without numbers for
collections and without any state.

**Trees.**  A text without aliases has a document without anchors
(`Document.isTree_of_ofText?`), since anchors are kept for the sake of aliases only.

**Scalars.**  What is known of merges and anchors while a document is read has no bearing on the
nodes of a tree: `Merging.merged_of_isTree` and `Building.isStateless_scalarOf`.
-/

namespace AccessPolicy
namespace Yaml
namespace Node

/-- A property of all nodes follows from its being passed on by collections. -/
theorem induct
    {motive : Node → Prop}
    (hscalar : ∀ tag text a m, motive (.scalar tag text a m))
    (hsequence : ∀ tag items a m, (∀ n ∈ items, motive n) → motive (.sequence tag items a m))
    (hmapping : ∀ tag entries a m, (∀ e ∈ entries, motive e.1 ∧ motive e.2) →
      motive (.mapping tag entries a m))
    (halias : ∀ name m, motive (.alias name m))
    (n : Node) :
    motive n := by
  match n with
  | .scalar tag text a m =>
      exact hscalar tag text a m
  | .sequence tag items a m =>
      exact hsequence tag items a m fun n _ => induct hscalar hsequence hmapping halias n
  | .mapping tag entries a m =>
      refine hmapping tag entries a m fun e he => ⟨?_, ?_⟩
      · exact induct hscalar hsequence hmapping halias e.1
      · exact induct hscalar hsequence hmapping halias e.2
  | .alias name m =>
      exact halias name m
termination_by n
decreasing_by
  · have hn := List.sizeOf_lt_of_mem ‹_›
    simp only [sequence.sizeOf_spec]
    omega
  all_goals
    obtain ⟨k, v⟩ := e
    have he := List.sizeOf_lt_of_mem he
    simp only [mapping.sizeOf_spec, Prod.mk.sizeOf_spec] at he ⊢
    omega

section Lists

theorem aliasesOfItems_eq
    (items : List Node) :
    aliasesOfItems items = items.flatMap aliases := by
  induction items with
  | nil =>
      rfl
  | cons n rest ih =>
      rw [aliasesOfItems, ih, List.flatMap_cons]

theorem aliasesOfEntries_eq
    (entries : NodeEntries) :
    aliasesOfEntries entries = entries.flatMap fun e => e.1.aliases ++ e.2.aliases := by
  induction entries with
  | nil =>
      rfl
  | cons e rest ih =>
      rw [aliasesOfEntries, ih, List.flatMap_cons]

theorem keepAnchorsOfItems_eq
    (names : List String)
    (items : List Node) :
    keepAnchorsOfItems names items = items.map (keepAnchors names) := by
  induction items with
  | nil =>
      rfl
  | cons n rest ih =>
      rw [keepAnchorsOfItems, ih, List.map_cons]

theorem keepAnchorsOfEntries_eq
    (names : List String)
    (entries : NodeEntries) :
    keepAnchorsOfEntries names entries =
      entries.map fun e => (e.1.keepAnchors names, e.2.keepAnchors names) := by
  induction entries with
  | nil =>
      rfl
  | cons e rest ih =>
      rw [keepAnchorsOfEntries, ih, List.map_cons]

theorem countOfItems_eq
    (items : List Node) :
    countOfItems items = (items.map count).sum := by
  induction items with
  | nil =>
      rfl
  | cons n rest ih =>
      rw [countOfItems, ih, List.map_cons, List.sum_cons]

theorem countOfEntries_eq
    (entries : NodeEntries) :
    countOfEntries entries = (entries.map fun e => e.1.count + e.2.count).sum := by
  induction entries with
  | nil =>
      rfl
  | cons e rest ih =>
      rw [countOfEntries, ih, List.map_cons, List.sum_cons]

end Lists

mutual

/-- Whether no mapping in a node has a key that asks for a merge. -/
def isMergeFree : Node → Bool
  | .scalar .. => true
  | .sequence _ items _ _ => areItemsMergeFree items
  | .mapping _ entries _ _ => areEntriesMergeFree entries
  | .alias .. => true

def areItemsMergeFree : List Node → Bool
  | [] => true
  | n :: rest => isMergeFree n && areItemsMergeFree rest

def areEntriesMergeFree : List (Node × Node) → Bool
  | [] => true
  | (k, v) :: rest =>
      k.tag != .merge && isMergeFree k && isMergeFree v && areEntriesMergeFree rest

end

/-- A node without aliases, without anchors, and without keys that ask for a merge. -/
inductive IsTree : Node → Prop
  | scalar (tag : DataTag) (text : String) (m : Mark) :
      IsTree (.scalar tag text none m)
  | sequence (tag : DataTag) {items : List Node} (m : Mark)
      (hitems : ∀ n ∈ items, IsTree n) :
      IsTree (.sequence tag items none m)
  | mapping (tag : DataTag) {entries : NodeEntries} (m : Mark)
      (hmerges : ∀ e ∈ entries, e.1.tag ≠ .merge)
      (hkeys : ∀ e ∈ entries, IsTree e.1)
      (hvalues : ∀ e ∈ entries, IsTree e.2) :
      IsTree (.mapping tag entries none m)

theorem areItemsMergeFree_iff
    {items : List Node} :
    areItemsMergeFree items = true ↔ ∀ n ∈ items, n.isMergeFree = true := by
  induction items with
  | nil =>
      simp [areItemsMergeFree]
  | cons n rest ih =>
      simp [areItemsMergeFree, ih]

theorem areEntriesMergeFree_iff
    {entries : NodeEntries} :
    areEntriesMergeFree entries = true
      ↔
    ∀ e ∈ entries, e.1.tag ≠ .merge ∧ e.1.isMergeFree = true ∧ e.2.isMergeFree = true := by
  induction entries with
  | nil =>
      simp [areEntriesMergeFree]
  | cons e rest ih =>
      simp [areEntriesMergeFree, ih, and_assoc]

@[simp] theorem tag_keepAnchors
    (names : List String)
    (n : Node) :
    (n.keepAnchors names).tag = n.tag := by
  cases n <;> rfl

theorem aliases_keepAnchors
    (names : List String)
    (n : Node) :
    (n.keepAnchors names).aliases = n.aliases := by
  induction n using induct with
  | hscalar tag text a m =>
      rfl
  | hsequence tag items a m ih =>
      simp only [keepAnchors, aliases, keepAnchorsOfItems_eq, aliasesOfItems_eq, List.flatMap_map]
      exact List.flatMap_congr ih
  | hmapping tag entries a m ih =>
      simp only [keepAnchors, aliases, keepAnchorsOfEntries_eq, aliasesOfEntries_eq,
        List.flatMap_map]
      exact List.flatMap_congr fun e he => by rw [(ih e he).1, (ih e he).2]
  | halias name m =>
      rfl

theorem isMergeFree_keepAnchors
    (names : List String)
    (n : Node) :
    (n.keepAnchors names).isMergeFree = true ↔ n.isMergeFree = true := by
  induction n using induct with
  | hscalar tag text a m =>
      rfl
  | hsequence tag items a m ih =>
      simp only [keepAnchors, isMergeFree, keepAnchorsOfItems_eq, areItemsMergeFree_iff,
        List.forall_mem_map]
      exact forall₂_congr ih
  | hmapping tag entries a m ih =>
      simp only [keepAnchors, isMergeFree, keepAnchorsOfEntries_eq, areEntriesMergeFree_iff,
        List.forall_mem_map, tag_keepAnchors]
      exact forall₂_congr fun e he => by rw [(ih e he).1, (ih e he).2]
  | halias name m =>
      rfl

/-- Without aliases there is no reason to keep an anchor. -/
theorem isTree_keepAnchors
    {n : Node}
    (haliases : n.aliases = [])
    (hmerges : n.isMergeFree = true) :
    (n.keepAnchors []).IsTree := by
  have hnone : ∀ a : Option String, a.filter ([] : List String).contains = none := by
    intro a
    cases a <;> simp
  induction n using induct with
  | hscalar tag text a m =>
      rw [keepAnchors, hnone]
      exact .scalar ..
  | hsequence tag items a m ih =>
      simp only [aliases, aliasesOfItems_eq, List.flatMap_eq_nil_iff] at haliases
      simp only [isMergeFree, areItemsMergeFree_iff] at hmerges
      rw [keepAnchors, hnone, keepAnchorsOfItems_eq]
      refine .sequence _ _ ?_
      rw [List.forall_mem_map]
      exact fun n hn => ih n hn (haliases n hn) (hmerges n hn)
  | hmapping tag entries a m ih =>
      simp only [aliases, aliasesOfEntries_eq, List.flatMap_eq_nil_iff,
        List.append_eq_nil_iff] at haliases
      simp only [isMergeFree, areEntriesMergeFree_iff] at hmerges
      rw [keepAnchors, hnone, keepAnchorsOfEntries_eq]
      refine .mapping _ _ ?_ ?_ ?_
      all_goals
        rw [List.forall_mem_map]
        intro e he
      · simpa using (hmerges e he).1
      · exact (ih e he).1 (haliases e he).1 (hmerges e he).2.1
      · exact (ih e he).2 (haliases e he).2 (hmerges e he).2.2
  | halias name m =>
      cases haliases

theorem count_pos
    (n : Node) :
    0 < n.count := by
  cases n <;> simp [count]

theorem count_keepAnchors
    (names : List String)
    (n : Node) :
    (n.keepAnchors names).count = n.count := by
  induction n using induct with
  | hscalar tag text a m =>
      rfl
  | hsequence tag items a m ih =>
      simp only [keepAnchors, count, keepAnchorsOfItems_eq, countOfItems_eq, List.map_map]
      rw [List.map_congr_left (f := count ∘ keepAnchors names) ih]
  | hmapping tag entries a m ih =>
      simp only [keepAnchors, count, keepAnchorsOfEntries_eq, countOfEntries_eq, List.map_map]
      rw [List.map_congr_left fun e he => by
        rw [Function.comp, (ih e he).1, (ih e he).2]]
  | halias name m =>
      rfl

end Node

namespace Document

/-- The document of a text without aliases and merges is a tree, and its number bounds the count
of its nodes. -/
theorem isTree_of_ofText?
    {cs : List Char}
    {d : Document}
    (hd : ofText? cs = .ok (some d))
    (haliases : d.root.aliases = [])
    (hmerges : d.root.isMergeFree = true) :
    d.root.IsTree ∧ d.root.count ≤ d.size ∧ 0 < d.size := by
  obtain ⟨root, anchored, size, hsize, rfl⟩ :
      ∃ root anchored size, 0 < size ∧ d = ofNodes root anchored size := by
    obtain ⟨⟨found, s⟩, -, hfound⟩ := except_bind_eq_ok_iff.mp hd
    obtain ⟨root, -, hroot⟩ := Option.map_eq_some_iff.mp (Except.ok.inj hfound)
    exact ⟨root, s.anchored, 4 * cs.length + 20, by omega, hroot.symm⟩
  simp only [ofNodes, Node.aliases_keepAnchors, Node.isMergeFree_keepAnchors] at haliases hmerges
  simp only [ofNodes, Node.count_keepAnchors, haliases]
  exact ⟨Node.isTree_keepAnchors haliases hmerges, by omega, by omega⟩

end Document

section Merges

variable {d : Document} {n : Node}

namespace Node

/-- The node of a key once the merges of its mapping are done: the key `=` is a text. -/
def asKey (k : Node) : Node :=
  if k.tag = .default then k.withTag .text else k

theorem IsTree.label?_eq_none
    (hn : n.IsTree) :
    n.label? = none := by
  cases hn <;> rfl

theorem IsTree.anchor?_eq_none
    (hn : n.IsTree) :
    n.anchor? = none := by
  cases hn <;> rfl

theorem IsTree.resolve_eq
    (hn : n.IsTree) :
    d.resolve n = n := by
  cases hn <;> rfl

theorem count_asKey
    (k : Node) :
    k.asKey.count = k.count := by
  unfold Node.asKey
  split
  · cases k <;> rfl
  · rfl

theorem IsTree.asKey
    (hn : n.IsTree) :
    n.asKey.IsTree := by
  unfold Node.asKey
  split
  · cases hn with
    | scalar tag text m =>
        exact .scalar ..
    | sequence tag m hitems =>
        exact .sequence _ _ hitems
    | mapping tag m hmerges hkeys hvalues =>
        exact .mapping _ _ hmerges hkeys hvalues
  · exact hn

end Node

namespace Merging

theorem tagOf_of_isTree
    (hn : n.IsTree) :
    tagOf d n = pure n.tag := by
  funext s
  simp [tagOf, hn.label?_eq_none, hn.resolve_eq]

theorem current_none
    (entries : NodeEntries) :
    current none entries = pure entries := by
  rfl

theorem firstMerge?_of_isTree
    {entries : NodeEntries}
    (hmerges : ∀ e ∈ entries, e.1.tag ≠ .merge)
    (hkeys : ∀ e ∈ entries, e.1.IsTree) :
    firstMerge? d entries = pure none := by
  induction entries with
  | nil =>
      rfl
  | cons e rest ih =>
      rw [List.forall_mem_cons] at hmerges hkeys
      rw [firstMerge?, tagOf_of_isTree hkeys.1, pure_bind, if_neg hmerges.1,
        ih hmerges.2 hkeys.2, pure_bind]
      rfl

theorem retagAll_of_isTree
    {entries : NodeEntries}
    (hkeys : ∀ e ∈ entries, e.1.IsTree) :
    retagAll d entries = pure (entries.map fun e => (e.1.asKey, e.2)) := by
  have hretag : ∀ k : Node, k.IsTree → retag d k = pure k.asKey := by
    intro k hk
    rw [retag, tagOf_of_isTree hk, pure_bind, hk.label?_eq_none, Node.asKey]
    split <;> rfl
  induction entries with
  | nil =>
      rfl
  | cons e rest ih =>
      obtain ⟨k, v⟩ := e
      rw [List.forall_mem_cons] at hkeys
      have hrest := ih hkeys.2
      rw [retagAll] at hrest ⊢
      simp only [List.mapM_cons, hretag k hkeys.1, hrest, pure_bind, List.map_cons]

/-- A mapping of a tree has its own entries and no others. -/
theorem merged_of_isTree
    (hn : n.IsTree)
    (hsize : 0 < d.size) :
    merged d n = pure (n.entries.map fun e => (e.1.asKey, e.2)) := by
  have hentries :
      (∀ e ∈ n.entries, e.1.tag ≠ .merge) ∧ ∀ e ∈ n.entries, e.1.IsTree := by
    cases hn with
    | scalar tag text m =>
        simp [Node.entries]
    | sequence tag m hitems =>
        simp [Node.entries]
    | mapping tag m hmerges hkeys hvalues =>
        exact ⟨hmerges, hkeys⟩
  obtain ⟨fuel, hfuel⟩ := Nat.exists_eq_add_of_lt hsize
  rw [Nat.zero_add] at hfuel
  rw [merged, hfuel, hn.anchor?_eq_none, mergeRest, current_none, pure_bind,
    firstMerge?_of_isTree hentries.1 hentries.2, pure_bind]
  simp only [retagAll_of_isTree hentries.2, pure_bind]
  rfl

end Merging

namespace Building

theorem merging_pure
    {α : Type}
    (a : α) :
    merging (pure a) = pure a := by
  rfl

/-- An operation that neither looks at what is known nor changes it. -/
def IsStateless
    {α : Type}
    (x : Building α) : Prop :=
  ∃ outcome, x = StateT.lift outcome

section Stateless

variable {α β : Type}

theorem isStateless_pure
    (a : α) :
    IsStateless (pure a) :=
  ⟨.ok a, rfl⟩

theorem isStateless_throw
    (complaint : Complaint) :
    IsStateless (throw complaint : Building α) :=
  ⟨.error complaint, rfl⟩

theorem IsStateless.bind
    {x : Building α}
    {f : α → Building β}
    (hx : IsStateless x)
    (hf : ∀ a, IsStateless (f a)) :
    IsStateless (x >>= f) := by
  obtain ⟨outcome, rfl⟩ := hx
  choose outcomes houtcomes using hf
  refine ⟨outcome >>= outcomes, ?_⟩
  funext s
  cases outcome with
  | error complaint =>
      rfl
  | ok a =>
      exact congrFun (houtcomes a) s

theorem IsStateless.run_eq_ok_iff
    {x : Building α}
    (hx : IsStateless x)
    {s s' : GraphState}
    {a : α} :
    x.run s = .ok (a, s')
      ↔
    (x.run' {}).toOption = some a ∧ s' = s := by
  obtain ⟨outcome, rfl⟩ := hx
  cases outcome with
  | error complaint =>
      simp [StateT.run', StateT.lift, StateT.run, Except.toOption]
  | ok b =>
      simp [StateT.run', StateT.lift, StateT.run, Except.toOption, eq_comm]

end Stateless

theorem default?_of_isTree
    {entries : NodeEntries}
    (hkeys : ∀ e ∈ entries, e.1.IsTree)
    (hvalues : ∀ e ∈ entries, e.2.IsTree) :
    ∃ v?, default? d entries = pure v? ∧ ∀ v ∈ v?, v.IsTree := by
  induction entries with
  | nil =>
      exact ⟨none, rfl, by simp⟩
  | cons e rest ih =>
      obtain ⟨k, v⟩ := e
      rw [List.forall_mem_cons] at hkeys hvalues
      obtain ⟨v?, hv, htree⟩ := ih hkeys.2 hvalues.2
      rw [default?, Merging.tagOf_of_isTree hkeys.1, pure_bind, hv]
      by_cases hdefault : k.tag = .default
      · exact ⟨some v, if_pos hdefault, by simpa using hvalues.1⟩
      · exact ⟨v?, if_neg hdefault, htree⟩

theorem isStateless_textOf
    (fuel : Nat)
    (hn : n.IsTree) :
    IsStateless (textOf d fuel n) := by
  induction fuel generalizing n with
  | zero =>
      exact isStateless_throw _
  | succ fuel ih =>
      rw [textOf, hn.resolve_eq]
      cases hn with
      | scalar tag text m =>
          exact isStateless_pure _
      | sequence tag m hitems =>
          exact isStateless_throw _
      | mapping tag m hmerges hkeys hvalues =>
          obtain ⟨v?, hv, htree⟩ := default?_of_isTree hkeys hvalues
          simp only [Merging.current_none, merging_pure, pure_bind]
          rw [hv, merging_pure, pure_bind]
          cases v? with
          | none =>
              exact isStateless_throw _
          | some v =>
              exact ih (htree v rfl)

theorem isStateless_readAt
    {α : Type}
    (m : Mark)
    (x : Except Scalar.Trouble α) :
    IsStateless (readAt m x) := by
  cases x with
  | error t =>
      exact isStateless_throw _
  | ok a =>
      exact isStateless_pure _

theorem isStateless_bytesOf
    (m : Mark)
    (text : String) :
    IsStateless (bytesOf m text) := by
  unfold bytesOf
  split
  · exact isStateless_throw _
  · split
    · exact isStateless_pure _
    · exact isStateless_throw _

/-- The data of a scalar of a tree depends on nothing but the scalar. -/
theorem isStateless_scalarOf
    (tag : DataTag)
    (hn : n.IsTree) :
    IsStateless (scalarOf d tag n) := by
  have htext : IsStateless (textOf d d.size n) := isStateless_textOf d.size hn
  unfold scalarOf
  split
  · exact htext.bind fun _ => isStateless_pure _
  · exact htext.bind fun _ => isStateless_pure _
  · exact htext.bind fun _ => (isStateless_readAt _ _).bind fun _ => isStateless_pure _
  · exact htext.bind fun _ => (isStateless_readAt _ _).bind fun _ => isStateless_pure _
  · exact htext.bind fun _ => (isStateless_readAt _ _).bind fun _ => isStateless_pure _
  · exact htext.bind fun _ => (isStateless_bytesOf _ _).bind fun _ => isStateless_pure _
  · refine htext.bind fun _ => ?_
    split
    · refine (isStateless_readAt _ _).bind fun t => ?_
      cases t with
      | day day =>
          exact isStateless_pure _
      | moment moment =>
          exact isStateless_pure _
    · exact isStateless_throw _
  · exact isStateless_throw _

end Building

end Merges

namespace Document

/-- The data of a node whose tag asks for no collection. -/
def scalar? (d : Document) (n : Node) : Option Value :=
  ((Building.scalarOf d n.tag n).run' {}).toOption

mutual

/-- The data of a node without aliases. -/
def datum? (d : Document) : Node → Option Value
  | .sequence .sequence items _ _ => Value.list <$> data? d items
  | .sequence .orderedMap items _ _ => Value.list <$> pairData? d items
  | .sequence .pairs items _ _ => Value.list <$> pairData? d items
  | .mapping .mapping entries _ _ =>
      (fun es => Value.record (Entries.ofList es)) <$> entryData? d entries
  | .mapping .set entries _ _ =>
      (fun es => Value.set (Value.distinct (es.map (·.1)))) <$> entryData? d entries
  | n => d.scalar? n

def data? (d : Document) : List Node → Option (List Value)
  | [] => some []
  | n :: rest => do return (← datum? d n) :: (← data? d rest)

/-- The keys and values of the entries of a mapping. -/
def entryData? (d : Document) : List (Node × Node) → Option (List (Value × Value))
  | [] => some []
  | (k, v) :: rest => do return (← d.scalar? k.asKey, ← datum? d v) :: (← entryData? d rest)

/-- The pairs of a sequence of mappings with one entry each. -/
def pairData? (d : Document) : List Node → Option (List Value)
  | [] => some []
  | .mapping _ [(k, v)] _ _ :: rest => do
      return .tuple [← datum? d k, ← datum? d v] :: (← pairData? d rest)
  | _ => none

end

section Data

variable {d : Document} {n : Node}

theorem datum?_of_not_isCollection
    (htag : n.tag.isCollection = false) :
    d.datum? n = d.scalar? n := by
  cases n with
  | scalar tag text a m =>
      rfl
  | sequence tag items a m =>
      cases tag
      case sequence | orderedMap | pairs =>
        cases htag
      all_goals rfl
  | mapping tag entries a m =>
      cases tag
      case mapping | set =>
        cases htag
      all_goals rfl
  | _ =>
      rfl

theorem data?_eq_some_of_forall₂
    {items : List Node}
    {values : List Value}
    (h : List.Forall₂ (fun n v => d.datum? n = some v) items values) :
    d.data? items = some values := by
  induction h with
  | nil =>
      rfl
  | cons hn _ ih =>
      simp [data?, hn, ih]

theorem entryData?_eq_some_iff
    {entries : NodeEntries}
    {values : Entries} :
    d.entryData? entries = some values
      ↔
    List.Forall₂ (fun e w => d.scalar? e.1.asKey = some w.1 ∧ d.datum? e.2 = some w.2)
      entries values := by
  induction entries generalizing values with
  | nil =>
      simp [entryData?, eq_comm]
  | cons e rest ih =>
      obtain ⟨k, v⟩ := e
      simp only [entryData?, List.forall₂_cons_left_iff]
      constructor
      · intro h
        simp only [Option.bind_eq_bind, Option.bind_eq_some_iff, Option.pure_def,
          Option.some.injEq] at h
        obtain ⟨x, hk, y, hv, ws, hrest, rfl⟩ := h
        exact ⟨(x, y), ws, ⟨hk, hv⟩, ih.mp hrest, rfl⟩
      · rintro ⟨w, ws, ⟨hk, hv⟩, hrest, rfl⟩
        simp [hk, hv, ih.mpr hrest]

theorem pairData?_eq_some_of_forall₂
    {items : List Node}
    {pairs : List Value}
    (h : List.Forall₂
      (fun n w => ∃ tag k v a m x y, n = .mapping tag [(k, v)] a m ∧
        d.datum? k = some x ∧ d.datum? v = some y ∧ w = .tuple [x, y]) items pairs) :
    d.pairData? items = some pairs := by
  induction h with
  | nil =>
      rfl
  | cons hn _ ih =>
      obtain ⟨tag, k, v, a, m, x, y, rfl, hk, hv, rfl⟩ := hn
      simp [pairData?, hk, hv, ih]

end Data

end Document

end Yaml
end AccessPolicy
