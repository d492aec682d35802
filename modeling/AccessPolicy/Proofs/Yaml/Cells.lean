import AccessPolicy.Proofs.Yaml.Trees

/-!
# The cells of a tree

The cells of a document without aliases are made in one pass: when the cell of a collection is
made, the collections in it get the next numbers.

**Growth.**  `Grows` says that building only adds collections, and bounds them by the nodes that
were visited.  Since a cell costs its own node, the work that is left shrinks with each cell, and
there are cells for all collections in the end.

**Cells.**  `Stands` relates a node to the part that stands for it, and `Holds` a collection to
its cell, whose parts have larger numbers than itself (`graph_of_isTree`).
-/

namespace AccessPolicy
namespace Yaml
namespace Building

variable {d : Document} {n : Node} {s s' s'' : GraphState}

section Growth

/-- Collections of trees were added that consist of at most some number of nodes. -/
def Grows (s s' : GraphState) (bound : Nat) : Prop :=
  ∃ new : List Node,
    s'.collections.toList = s.collections.toList ++ new ∧
    (∀ n ∈ new, n.IsTree ∧ n.tag.isCollection = true) ∧
    (new.map Node.count).sum ≤ bound

theorem Grows.refl
    (s : GraphState)
    (bound : Nat) :
    Grows s s bound :=
  ⟨[], by simp, by simp, by simp⟩

theorem Grows.trans
    {bound bound' : Nat}
    (h : Grows s s' bound)
    (h' : Grows s' s'' bound') :
    Grows s s'' (bound + bound') := by
  obtain ⟨new, hs, htrees, hbound⟩ := h
  obtain ⟨new', hs', htrees', hbound'⟩ := h'
  refine ⟨new ++ new', ?_, ?_, ?_⟩
  · rw [hs', hs, List.append_assoc]
  · rw [List.forall_mem_append]
    exact ⟨htrees, htrees'⟩
  · rw [List.map_append, List.sum_append]
    omega

theorem Grows.weaken
    {bound bound' : Nat}
    (h : Grows s s' bound)
    (hbound : bound ≤ bound') :
    Grows s s' bound' := by
  obtain ⟨new, hs, htrees, hsum⟩ := h
  exact ⟨new, hs, htrees, Nat.le_trans hsum hbound⟩

theorem Grows.getElem?_eq
    {bound i : Nat}
    (h : Grows s s' bound)
    (hi : i < s.collections.size) :
    s'.collections[i]? = s.collections[i]? := by
  obtain ⟨new, hs, _, _⟩ := h
  rw [← Array.getElem?_toList, ← Array.getElem?_toList, hs,
    List.getElem?_append_left (by simpa using hi)]

theorem Grows.keeps
    {bound i : Nat}
    (h : Grows s s' bound)
    (hi : s.collections[i]? = some n) :
    s'.collections[i]? = some n := by
  rw [h.getElem?_eq (Array.getElem?_eq_some_iff.mp hi).1, hi]

theorem Grows.size_le
    {bound : Nat}
    (h : Grows s s' bound) :
    s.collections.size ≤ s'.collections.size := by
  obtain ⟨new, hs, _, _⟩ := h
  have hlength := congrArg List.length hs
  simp only [Array.length_toList, List.length_append] at hlength
  omega

end Growth

section Parts

/-- A part that stands for a node; the number of a collection is at least a base. -/
inductive Stands (d : Document) (s : GraphState) (base : Nat) : Node → Part → Prop
  | data {n : Node} {v : Value}
      (htag : n.tag.isCollection = false)
      (hv : d.scalar? n = some v) :
      Stands d s base n (.data v)
  | cell {n : Node} {i : Nat}
      (hbase : base ≤ i)
      (hn : s.collections[i]? = some n) :
      Stands d s base n (.cell i)

theorem Stands.mono
    {base bound : Nat}
    {p : Part}
    (hs : Grows s s' bound)
    (h : Stands d s base n p) :
    Stands d s' base n p := by
  cases h with
  | data htag hv =>
      exact .data htag hv
  | cell hbase hn =>
      exact .cell hbase (hs.keeps hn)

/-- The parts of a pair stand for the key and the value of a mapping with one entry. -/
def StandsPair (d : Document) (s : GraphState) (base : Nat) (n : Node) (w : Part × Part) : Prop :=
  ∃ tag k v a m, n = .mapping tag [(k, v)] a m ∧
    Stands d s base k w.1 ∧ Stands d s base v w.2

theorem StandsPair.mono
    {base bound : Nat}
    {w : Part × Part}
    (hs : Grows s s' bound)
    (h : StandsPair d s base n w) :
    StandsPair d s' base n w := by
  obtain ⟨tag, k, v, a, m, hn, hk, hv⟩ := h
  exact ⟨tag, k, v, a, m, hn, hk.mono hs, hv.mono hs⟩

/-- An entry has the data of its key, and a part that stands for its value. -/
def StandsEntry (d : Document) (s : GraphState) (base : Nat) (e : Node × Node)
    (w : Value × Part) : Prop :=
  d.scalar? e.1.asKey = some w.1 ∧ Stands d s base e.2 w.2

theorem StandsEntry.mono
    {base bound : Nat}
    {e : Node × Node}
    {w : Value × Part}
    (hs : Grows s s' bound)
    (h : StandsEntry d s base e w) :
    StandsEntry d s' base e w :=
  ⟨h.1, h.2.mono hs⟩

/-- What the nodes in a collection have become in its cell. -/
inductive Holds (d : Document) (s : GraphState) (base : Nat) : Node → Cell → Prop
  | list {items : List Node} {parts : List Part} {m : Mark}
      (hitems : List.Forall₂ (Stands d s base) items parts) :
      Holds d s base (.sequence .sequence items none m) (.list parts)
  | pairs {tag : DataTag} {items : List Node} {parts : List (Part × Part)} {m : Mark}
      (htag : tag = .orderedMap ∨ tag = .pairs)
      (hitems : List.Forall₂ (StandsPair d s base) items parts) :
      Holds d s base (.sequence tag items none m) (.pairs parts)
  | map {entries : NodeEntries} {parts : List (Value × Part)} {m : Mark}
      (hentries : List.Forall₂ (StandsEntry d s base) entries parts) :
      Holds d s base (.mapping .mapping entries none m) (.map parts)
  | set {entries : NodeEntries} {parts : List (Value × Part)} {m : Mark}
      (hentries : List.Forall₂ (StandsEntry d s base) entries parts) :
      Holds d s base (.mapping .set entries none m) (.set (parts.map (·.1)))

theorem Holds.mono
    {base bound : Nat}
    {c : Cell}
    (hs : Grows s s' bound)
    (h : Holds d s base n c) :
    Holds d s' base n c := by
  cases h with
  | list hitems =>
      exact .list (hitems.imp fun _ _ h => h.mono hs)
  | pairs htag hitems =>
      exact .pairs htag (hitems.imp fun _ _ h => h.mono hs)
  | map hentries =>
      exact .map (hentries.imp fun _ _ h => h.mono hs)
  | set hentries =>
      exact .set (hentries.imp fun _ _ h => h.mono hs)

end Parts

section Visits

variable {base : Nat}

theorem visit_eq_ok
    {p : Part}
    (hn : n.IsTree)
    (hbase : base ≤ s.collections.size)
    (h : (visit d n).run s = .ok (p, s')) :
    Grows s s' n.count ∧ Stands d s' base n p := by
  simp only [visit, hn.resolve_eq, hn.anchor?_eq_none, Merging.tagOf_of_isTree hn, merging_pure,
    pure_bind, Option.bind_none] at h
  cases htag : n.tag.isCollection with
  | true =>
      simp only [htag, if_true] at h
      obtain ⟨rfl, rfl⟩ := Prod.mk.inj (Except.ok.inj h)
      refine ⟨⟨[n], by simp, by simp [hn, htag], by simp⟩, .cell hbase ?_⟩
      simp
  | false =>
      simp only [htag, Bool.false_eq_true, if_false, map_eq_pure_bind, bind_pure] at h
      have hrun : (scalarOf d n.tag n >>= fun v => pure (.data v)).run s = .ok (p, s') := h
      obtain ⟨v, hv, rfl⟩ := stateT_bind_pure_eq_ok_iff.mp hrun
      obtain ⟨hdata, rfl⟩ := (isStateless_scalarOf n.tag hn).run_eq_ok_iff.mp hv
      exact ⟨.refl .., .data htag hdata⟩

/-- An operation for each item of a list adds the collections of all items. -/
theorem mapM_eq_ok
    {α β : Type}
    {f : α → Building β}
    {R : GraphState → α → β → Prop}
    {bound : α → Nat}
    (hR : ∀ {s s' k a b}, Grows s s' k → R s a b → R s' a b)
    {xs : List α}
    (hf : ∀ a ∈ xs, ∀ {s b s'}, base ≤ s.collections.size → (f a).run s = .ok (b, s') →
      Grows s s' (bound a) ∧ R s' a b)
    {bs : List β}
    (hbase : base ≤ s.collections.size)
    (h : (xs.mapM f).run s = .ok (bs, s')) :
    Grows s s' (xs.map bound).sum ∧ List.Forall₂ (R s') xs bs := by
  induction xs generalizing s bs with
  | nil =>
      cases h
      exact ⟨.refl .., .nil⟩
  | cons a as ih =>
      rw [List.mapM_cons] at h
      obtain ⟨b, s₁, hb, h⟩ := stateT_bind_eq_ok_iff.mp h
      obtain ⟨bs, hbs, rfl⟩ := stateT_bind_pure_eq_ok_iff.mp h
      obtain ⟨hgrows, hab⟩ := hf a List.mem_cons_self hbase hb
      obtain ⟨hgrows', hall⟩ :=
        ih (fun a ha => hf a (List.mem_cons_of_mem _ ha)) (Nat.le_trans hbase hgrows.size_le) hbs
      exact ⟨by simpa using hgrows.trans hgrows', .cons (hR hgrows' hab) hall⟩

/-- The entry of a map from that of its node. -/
def entryOf (d : Document) (start : Mark) (e : Node × Node) : Building (Value × Part) := do
  match ← visit d e.1 with
  | .cell _ =>
      throw ⟨.values, some ("while constructing a mapping", some start),
        "found unhashable key", (d.resolve e.1).start⟩
  | .data key => return (key, ← visit d e.2)

theorem entriesOf_eq_mapM
    (start : Mark)
    (entries : NodeEntries) :
    entriesOf d start entries = entries.mapM (entryOf d start) := by
  induction entries with
  | nil =>
      rfl
  | cons e rest ih =>
      obtain ⟨k, v⟩ := e
      rw [entriesOf, List.mapM_cons, entryOf, bind_assoc, ih]
      congr 1
      funext p
      cases p with
      | cell i =>
          rfl
      | data key =>
          simp

theorem entryOf_eq_ok
    {e : Node × Node}
    (hkey : e.1.IsTree)
    (hvalue : e.2.IsTree)
    (hbase : base ≤ s.collections.size)
    {start : Mark}
    {w : Value × Part}
    (h : (entryOf d start (e.1.asKey, e.2)).run s = .ok (w, s')) :
    Grows s s' (e.1.count + e.2.count) ∧ StandsEntry d s' base e w := by
  obtain ⟨p, s₁, hp, h⟩ := stateT_bind_eq_ok_iff.mp h
  obtain ⟨hgrows, hstands⟩ := visit_eq_ok hkey.asKey hbase hp
  rw [Node.count_asKey] at hgrows
  cases hstands with
  | cell hi hnode =>
      cases h
  | data htag hv =>
      obtain ⟨q, hq, rfl⟩ := stateT_bind_pure_eq_ok_iff.mp h
      obtain ⟨hgrows', hstands'⟩ := visit_eq_ok hvalue (Nat.le_trans hbase hgrows.size_le) hq
      exact ⟨hgrows.trans hgrows', hv, hstands'⟩

theorem mapOf_eq_ok
    (hn : n.IsTree)
    (hsize : 0 < d.size)
    (hbase : base ≤ s.collections.size)
    {parts : List (Value × Part)}
    (h : (mapOf d n).run s = .ok (parts, s')) :
    ∃ tag entries m, n = .mapping tag entries none m ∧
      Grows s s' (entries.map fun e => e.1.count + e.2.count).sum ∧
      List.Forall₂ (StandsEntry d s' base) entries parts := by
  cases hn with
  | scalar tag text m =>
      cases h
  | sequence tag m hitems =>
      cases h
  | @mapping tag entries m hmerges hkeys hvalues =>
      refine ⟨tag, entries, m, rfl, ?_⟩
      have htree : (Node.mapping tag entries none m).IsTree :=
        .mapping tag m hmerges hkeys hvalues
      simp only [mapOf, Merging.merged_of_isTree htree hsize, merging_pure, pure_bind,
        Node.entries, entriesOf_eq_mapM] at h
      rw [List.mapM_map] at h
      exact mapM_eq_ok (fun hs hw => hw.mono hs)
        (fun e he _ _ _ hbase hw => entryOf_eq_ok (hkeys e he) (hvalues e he) hbase hw) hbase h

theorem pairOf_eq_ok
    (hn : n.IsTree)
    (hbase : base ≤ s.collections.size)
    {what : String}
    {start : Mark}
    {w : Part × Part}
    (h : (pairOf d what start n).run s = .ok (w, s')) :
    Grows s s' n.count ∧ StandsPair d s' base n w := by
  rw [pairOf, hn.resolve_eq] at h
  cases hn with
  | scalar tag text m =>
      cases h
  | sequence tag m hitems =>
      cases h
  | @mapping tag entries m hmerges hkeys hvalues =>
      simp only [Merging.current_none, merging_pure, pure_bind] at h
      match entries, h with
      | [(k, v)], h =>
          obtain ⟨p, s₁, hp, h⟩ := stateT_bind_eq_ok_iff.mp h
          obtain ⟨q, hq, rfl⟩ := stateT_bind_pure_eq_ok_iff.mp h
          obtain ⟨hgrows, hstands⟩ := visit_eq_ok (hkeys _ List.mem_cons_self) hbase hp
          obtain ⟨hgrows', hstands'⟩ :=
            visit_eq_ok (hvalues _ List.mem_cons_self) (Nat.le_trans hbase hgrows.size_le) hq
          refine ⟨?_, tag, k, v, none, m, rfl, hstands.mono hgrows', hstands'⟩
          refine (hgrows.trans hgrows').weaken ?_
          simp [Node.count, Node.countOfEntries]
      | [], h =>
          cases h
      | _ :: _ :: _, h =>
          cases h

theorem pairsOf_eq_ok
    (hn : n.IsTree)
    (hbase : base ≤ s.collections.size)
    {what : String}
    {parts : List (Part × Part)}
    (h : (pairsOf d what n).run s = .ok (parts, s')) :
    ∃ tag items m, n = .sequence tag items none m ∧
      Grows s s' (items.map Node.count).sum ∧
      List.Forall₂ (StandsPair d s' base) items parts := by
  cases hn with
  | scalar tag text m =>
      cases h
  | mapping tag m hmerges hkeys hvalues =>
      cases h
  | @sequence tag items m hitems =>
      refine ⟨tag, items, m, rfl, ?_⟩
      exact mapM_eq_ok (fun hs hw => hw.mono hs)
        (fun n hn _ _ _ hbase hw => pairOf_eq_ok (hitems n hn) hbase hw) hbase h

/-- The cell of a collection holds its items, and the collections in it have fewer nodes. -/
theorem cellOf_eq_ok
    (hn : n.IsTree)
    (htag : n.tag.isCollection = true)
    (hsize : 0 < d.size)
    (hbase : base ≤ s.collections.size)
    {c : Cell}
    (h : (cellOf d n).run s = .ok (c, s')) :
    ∃ bound, bound < n.count ∧ Grows s s' bound ∧ Holds d s' base n c := by
  unfold cellOf at h
  rw [Merging.tagOf_of_isTree hn, merging_pure, pure_bind] at h
  cases hkind : n.tag with
  | mapping =>
      simp only [hkind] at h
      obtain ⟨parts, hparts, rfl⟩ := stateT_bind_pure_eq_ok_iff.mp h
      obtain ⟨tag, entries, m, rfl, hgrows, hall⟩ := mapOf_eq_ok hn hsize hbase hparts
      cases hkind
      exact ⟨_, by simp [Node.count, Node.countOfEntries_eq], hgrows, .map hall⟩
  | set =>
      simp only [hkind] at h
      obtain ⟨parts, hparts, rfl⟩ := stateT_bind_pure_eq_ok_iff.mp h
      obtain ⟨tag, entries, m, rfl, hgrows, hall⟩ := mapOf_eq_ok hn hsize hbase hparts
      cases hkind
      exact ⟨_, by simp [Node.count, Node.countOfEntries_eq], hgrows, .set hall⟩
  | orderedMap =>
      simp only [hkind] at h
      obtain ⟨parts, hparts, rfl⟩ := stateT_bind_pure_eq_ok_iff.mp h
      obtain ⟨tag, items, m, rfl, hgrows, hall⟩ := pairsOf_eq_ok hn hbase hparts
      exact ⟨_, by simp [Node.count, Node.countOfItems_eq], hgrows, .pairs (.inl hkind) hall⟩
  | pairs =>
      simp only [hkind] at h
      obtain ⟨parts, hparts, rfl⟩ := stateT_bind_pure_eq_ok_iff.mp h
      obtain ⟨tag, items, m, rfl, hgrows, hall⟩ := pairsOf_eq_ok hn hbase hparts
      exact ⟨_, by simp [Node.count, Node.countOfItems_eq], hgrows, .pairs (.inr hkind) hall⟩
  | sequence =>
      simp only [hkind] at h
      cases hn with
      | scalar tag text m =>
          cases h
      | mapping tag m hmerges hkeys hvalues =>
          cases h
      | sequence tag m hitems =>
          cases hkind
          obtain ⟨parts, hparts, rfl⟩ := stateT_bind_pure_eq_ok_iff.mp h
          obtain ⟨hgrows, hall⟩ :=
            mapM_eq_ok (fun hs hw => hw.mono hs)
              (fun n hn _ _ _ hbase hw => visit_eq_ok (hitems n hn) hbase hw) hbase hparts
          exact ⟨_, by simp [Node.count, Node.countOfItems_eq], hgrows, .list hall⟩
  | _ =>
      rw [hkind] at htag
      cases htag

end Visits

section Loop

/-- The collections that were met first have their cells. -/
structure Made (d : Document) (s : GraphState) (cells : Array Cell) : Prop where
  trees : ∀ n ∈ s.collections, n.IsTree ∧ n.tag.isCollection = true
  holds : ∀ i n, i < cells.size → s.collections[i]? = some n →
    ∃ c, cells[i]? = some c ∧ Holds d s (i + 1) n c
  size_le : cells.size ≤ s.collections.size

/-- The nodes in the collections from some number on, which are still to be visited. -/
def pending (s : GraphState) (i : Nat) : Nat :=
  ((s.collections.toList.drop i).map Node.count).sum

theorem size_le_of_pending_eq_zero
    {i : Nat}
    (h : pending s i = 0) :
    s.collections.size ≤ i := by
  have hnone : s.collections.toList.drop i = [] := by
    unfold pending at h
    cases hpending : s.collections.toList.drop i with
    | nil =>
        rfl
    | cons n rest =>
        have hn := n.count_pos
        simp only [hpending, List.map_cons, List.sum_cons] at h
        omega
  simpa using hnone

/-- Making a cell costs the node of its collection. -/
theorem pending_lt
    {i bound : Nat}
    (hn : s.collections[i]? = some n)
    (hbound : bound < n.count)
    (hgrows : Grows s s' bound) :
    pending s' (i + 1) < pending s i := by
  obtain ⟨new, hs, _, hsum⟩ := hgrows
  obtain ⟨hi, hat⟩ := Array.getElem?_eq_some_iff.mp hn
  have hlength : i < s.collections.toList.length := by
    simpa using hi
  have hdrop : s.collections.toList.drop i = n :: s.collections.toList.drop (i + 1) := by
    rw [List.drop_eq_getElem_cons hlength]
    simp [hat]
  have hnext : i + 1 ≤ s.collections.toList.length := hlength
  unfold pending
  rw [hs, List.drop_append_of_le_length hnext, hdrop, List.map_append, List.sum_append,
    List.map_cons, List.sum_cons]
  omega

theorem Made.push
    {cells : Array Cell}
    {c : Cell}
    (h : Made d s cells)
    (hsize : 0 < d.size)
    (hn : s.collections[cells.size]? = some n)
    (hc : (cellOf d n).run s = .ok (c, s')) :
    ∃ bound, bound < n.count ∧ Grows s s' bound ∧ Made d s' (cells.push c) := by
  obtain ⟨hlt, hat⟩ := Array.getElem?_eq_some_iff.mp hn
  obtain ⟨htree, htag⟩ := h.trees n (hat ▸ Array.getElem_mem hlt)
  obtain ⟨bound, hbound, hgrows, hholds⟩ :=
    cellOf_eq_ok htree htag hsize (Nat.succ_le_of_lt hlt) hc
  refine ⟨bound, hbound, hgrows, ?_, ?_, ?_⟩
  · obtain ⟨new, hs, hnew, _⟩ := hgrows
    intro x hx
    rw [← Array.mem_toList_iff, hs, List.mem_append, Array.mem_toList_iff] at hx
    rcases hx with hx | hx
    · exact h.trees x hx
    · exact hnew x hx
  · intro i x hi hx
    rw [Array.size_push, Nat.lt_succ_iff_lt_or_eq] at hi
    rcases hi with hi | rfl
    · rw [hgrows.getElem?_eq (Nat.lt_trans hi hlt)] at hx
      obtain ⟨b, hb, hbx⟩ := h.holds i x hi hx
      refine ⟨b, ?_, hbx.mono hgrows⟩
      rw [Array.getElem?_push, if_neg (Nat.ne_of_lt hi), hb]
    · rw [hgrows.keeps hn] at hx
      cases hx
      exact ⟨c, Array.getElem?_push_size, hholds⟩
  · rw [Array.size_push]
    exact Nat.le_trans (Nat.succ_le_of_lt hlt) hgrows.size_le

/-- With as many steps as there are nodes to visit, every collection gets a cell. -/
theorem cellsFrom_eq_ok
    (hsize : 0 < d.size)
    {fuel : Nat}
    {cells cells' : Array Cell}
    (hmade : Made d s cells)
    (hfuel : pending s cells.size ≤ fuel)
    (h : (cellsFrom d fuel cells).run s = .ok (cells', s')) :
    Made d s' cells' ∧ s'.collections.size ≤ cells'.size ∧ ∃ bound, Grows s s' bound := by
  induction fuel generalizing s cells with
  | zero =>
      cases h
      exact ⟨hmade, size_le_of_pending_eq_zero (Nat.le_zero.mp hfuel), 0, .refl ..⟩
  | succ fuel ih =>
      rw [cellsFrom] at h
      obtain ⟨_, _, hget, h⟩ := stateT_bind_eq_ok_iff.mp h
      obtain ⟨rfl, rfl⟩ := Prod.mk.inj (Except.ok.inj hget)
      cases hnext : s.collections[cells.size]? with
      | none =>
          rw [hnext] at h
          cases h
          exact ⟨hmade, Array.getElem?_eq_none_iff.mp hnext, 0, .refl ..⟩
      | some n =>
          simp only [hnext] at h
          obtain ⟨c, s₁, hc, h⟩ := stateT_bind_eq_ok_iff.mp h
          obtain ⟨bound, hbound, hgrows, hpush⟩ := hmade.push hsize hnext hc
          have hless := pending_lt hnext hbound hgrows
          obtain ⟨hmade', hall, bound', hgrows'⟩ :=
            ih hpush (by rw [Array.size_push]; omega) h
          exact ⟨hmade', hall, bound + bound', hgrows.trans hgrows'⟩

end Loop

/-- The graph of a tree has a cell for every collection, and its outermost part stands for the
outermost node. -/
theorem graph_of_isTree
    {g : Graph}
    (hroot : d.root.IsTree)
    (hsize : 0 < d.size)
    (hcount : d.root.count ≤ d.size)
    (h : Graph.ofDocument d = .ok g) :
    ∃ s, Stands d s 0 d.root g.root ∧
      ∀ i n, s.collections[i]? = some n →
        ∃ c, g.cells[i]? = some c ∧ Holds d s (i + 1) n c := by
  obtain ⟨s, hrun⟩ := stateT_run'_eq_ok_iff.mp h
  obtain ⟨root, s₁, hvisit, hrun⟩ := stateT_bind_eq_ok_iff.mp hrun
  obtain ⟨cells, hcells, rfl⟩ := stateT_bind_pure_eq_ok_iff.mp hrun
  obtain ⟨⟨new, hs, hnew, hsum⟩, hstands⟩ := visit_eq_ok hroot (Nat.zero_le _) hvisit
  have hmade : Made d s₁ #[] := by
    refine ⟨fun n hn => hnew n ?_, fun i n hi => absurd hi (Nat.not_lt_zero i), Nat.zero_le _⟩
    simpa [hs] using Array.mem_toList_iff.mpr hn
  have hfuel : pending s₁ (#[] : Array Cell).size ≤ d.size * d.size * d.size := by
    have hcube : d.size ≤ d.size * d.size * d.size := by
      rw [Nat.mul_assoc]
      exact Nat.le_mul_of_pos_right _ (Nat.mul_pos hsize hsize)
    have hnodes : pending s₁ (#[] : Array Cell).size = (new.map Node.count).sum := by
      simp [pending, hs]
    omega
  obtain ⟨hall, hcovers, bound, hgrows⟩ := cellsFrom_eq_ok hsize hmade hfuel hcells
  refine ⟨s, hstands.mono hgrows, fun i n hi => hall.holds i n ?_ hi⟩
  exact Nat.lt_of_lt_of_le (Array.getElem?_eq_some_iff.mp hi).1 hcovers

end Building
end Yaml
end AccessPolicy
