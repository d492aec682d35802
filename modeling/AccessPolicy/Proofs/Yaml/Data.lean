import AccessPolicy.Proofs.Yaml.Cells

/-!
# The data of a tree

The value of a graph is found by following its cells, with the values of cells kept for later.
In the graph of a document without aliases every cell names cells with larger numbers only, so
that no loop is met and each value is that of a node.

**Evaluation.**  `Gives` says what an evaluation results in as long as the values that are kept
meet a condition, here that of being right.  It goes through sequences and lists, and by the
remaining depth to whole parts.

**Documents.**  A text without aliases and merges has the data that its nodes have one by one
(`load_of_isTree`).
-/

namespace AccessPolicy
namespace Yaml
namespace Graph

variable {d : Document} {s : GraphState}

/-- Every value that is kept is the data of the node of its cell. -/
def Sound (d : Document) (s : GraphState) (e : Evaluation) : Prop :=
  ∀ (i : Nat) (v : Value), e.values[i]?.join = some v →
    ∃ n, s.collections[i]? = some n ∧ d.datum? n = some v

theorem Sound.keep
    {e : Evaluation}
    {i : Nat}
    {n : Node}
    {v : Value}
    (he : Sound d s e)
    (hn : s.collections[i]? = some n)
    (hv : d.datum? n = some v)
    (looped : Bool) :
    Sound d s ⟨e.values.setIfInBounds i (some v), looped⟩ := by
  intro j w hw
  rw [Array.getElem?_setIfInBounds] at hw
  by_cases hij : i = j
  · subst hij
    rw [if_pos rfl] at hw
    split at hw
    · cases hw
      exact ⟨n, hn, hv⟩
    · cases hw
  · rw [if_neg hij] at hw
    exact he j w hw

/-- An evaluation gives a result with some property, and preserves a condition on the values that
are kept. -/
def Gives
    {α : Type}
    (I : Evaluation → Prop)
    (x : StateM Evaluation α)
    (P : α → Prop) : Prop :=
  ∀ e, I e → P (x.run e).1 ∧ I (x.run e).2

section Evaluation

variable {α β : Type} {I : Evaluation → Prop}

theorem gives_pure
    {a : α}
    {P : α → Prop}
    (ha : P a) :
    Gives I (pure a) P :=
  fun _ he => ⟨ha, he⟩

theorem gives_get :
    Gives I get I :=
  fun _ he => ⟨he, he⟩

theorem gives_set
    {e : Evaluation}
    (he : I e) :
    Gives I (set e) fun _ => True :=
  fun _ _ => ⟨trivial, he⟩

theorem gives_modify
    {f : Evaluation → Evaluation}
    (hf : ∀ e, I e → I (f e)) :
    Gives I (modify f) fun _ => True :=
  fun e he => ⟨trivial, hf e he⟩

theorem Gives.bind
    {x : StateM Evaluation α}
    {f : α → StateM Evaluation β}
    {P : α → Prop}
    {Q : β → Prop}
    (hx : Gives I x P)
    (hf : ∀ a, P a → Gives I (f a) Q) :
    Gives I (x >>= f) Q := by
  intro e he
  obtain ⟨ha, he'⟩ := hx e he
  exact hf _ ha _ he'

theorem Gives.mapM
    {γ : Type}
    {f : β → StateM Evaluation γ}
    {R : α → β → Prop}
    {P : α → γ → Prop}
    {xs : List α}
    {ys : List β}
    (hall : List.Forall₂ R xs ys)
    (hf : ∀ a b, R a b → Gives I (f b) (P a)) :
    Gives I (ys.mapM f) (List.Forall₂ P xs) := by
  induction hall with
  | nil =>
      exact gives_pure .nil
  | cons hab _ ih =>
      rw [List.mapM_cons]
      refine (hf _ _ hab).bind fun c hc => ih.bind fun cs hcs => gives_pure (.cons hc hcs)

end Evaluation

/-- The value of a cell is the data of its collection if the values of its parts are. -/
theorem gives_cellValue
    {base : Nat}
    {n : Node}
    {c : Cell}
    {inside : Part → StateM Evaluation Value}
    (hc : Building.Holds d s base n c)
    (hinside : ∀ n p, Building.Stands d s base n p →
      Gives (Sound d s) (inside p) fun v => d.datum? n = some v) :
    Gives (Sound d s) (cellValue inside c) fun v => d.datum? n = some v := by
  cases hc with
  | list hitems =>
      refine (Gives.mapM hitems hinside).bind fun vs hvs => gives_pure ?_
      simp [Document.datum?, Document.data?_eq_some_of_forall₂ hvs]
  | @pairs tag items parts m htag hitems =>
      have hpair :
          ∀ (n : Node) (w : Part × Part), Building.StandsPair d s base n w →
            Gives (Sound d s) (do return Value.tuple [← inside w.1, ← inside w.2]) fun z =>
              ∃ tag k v a m x y, n = .mapping tag [(k, v)] a m ∧
                d.datum? k = some x ∧ d.datum? v = some y ∧ z = .tuple [x, y] := by
        rintro n w ⟨tag, k, v, a, m, hn, hk, hv⟩
        refine (hinside k w.1 hk).bind fun x hx => (hinside v w.2 hv).bind fun y hy => ?_
        exact gives_pure ⟨tag, k, v, a, m, x, y, hn, hx, hy, rfl⟩
      refine (Gives.mapM hitems hpair).bind fun vs hvs => gives_pure ?_
      rcases htag with rfl | rfl
      · simp [Document.datum?, Document.pairData?_eq_some_of_forall₂ hvs]
      · simp [Document.datum?, Document.pairData?_eq_some_of_forall₂ hvs]
  | map hentries =>
      have hentry :
          ∀ (x : Node × Node) (w : Value × Part), Building.StandsEntry d s base x w →
            Gives (Sound d s) (do return (w.1, ← inside w.2)) fun y =>
              d.scalar? x.1.asKey = some y.1 ∧ d.datum? x.2 = some y.2 :=
        fun x w h => (hinside x.2 w.2 h.2).bind fun v hv => gives_pure ⟨h.1, hv⟩
      refine (Gives.mapM hentries hentry).bind fun es hes => gives_pure ?_
      simp [Document.datum?, Document.entryData?_eq_some_iff.mpr hes]
  | @set entries parts m hentries =>
      intro e he
      -- The values of a set are not evaluated, but they could be.
      have hdata :
          List.Forall₂ (fun x w => d.scalar? x.1.asKey = some w.1 ∧ d.datum? x.2 = some w.2)
            entries (parts.map fun w => (w.1, ((inside w.2).run e).1)) := by
        rw [List.forall₂_map_right_iff]
        exact hentries.imp fun x w h => ⟨h.1, (hinside x.2 w.2 h.2 e he).1⟩
      refine ⟨?_, he⟩
      rw [Document.datum?, Document.entryData?_eq_some_iff.mpr hdata, Option.map_eq_map,
        Option.map_some, List.map_map]
      rfl

theorem gives_partValue
    {cells : Array Cell}
    (hcells : ∀ i n, s.collections[i]? = some n →
      ∃ c, cells[i]? = some c ∧ Building.Holds d s (i + 1) n c)
    {fuel base : Nat}
    {path : List Nat}
    {n : Node}
    {p : Part}
    (hp : Building.Stands d s base n p)
    (hpath : ∀ j ∈ path, j < base)
    (hfuel : cells.size < base + fuel) :
    Gives (Sound d s) (partValue cells fuel path p) fun v => d.datum? n = some v := by
  induction fuel generalizing base path n p with
  | zero =>
      cases hp with
      | data htag hv =>
          exact gives_pure ((Document.datum?_of_not_isCollection htag).trans hv)
      | cell hbase hn =>
          obtain ⟨c, hc, _⟩ := hcells _ n hn
          have hi := (Array.getElem?_eq_some_iff.mp hc).1
          omega
  | succ fuel ih =>
      cases hp with
      | data htag hv =>
          exact gives_pure ((Document.datum?_of_not_isCollection htag).trans hv)
      | @cell i hbase hn =>
          obtain ⟨c, hc, hholds⟩ := hcells i n hn
          have hnew : path.contains i = false := by
            rw [List.contains_eq_mem, decide_eq_false_iff_not]
            intro hi
            have hlt := hpath i hi
            omega
          refine gives_get.bind fun before hbefore => ?_
          cases hkept : before.values[i]?.join with
          | some v =>
              obtain ⟨x, hx, hv⟩ := hbefore i v hkept
              cases hn.symm.trans hx
              exact gives_pure hv
          | none =>
              simp only [hnew, hc]
              refine (gives_set (e := { before with looped := false }) hbefore).bind fun _ _ => ?_
              refine (gives_cellValue hholds ?_).bind fun v hv =>
                (gives_modify ?_).bind fun _ _ => gives_pure hv
              · intro x q hq
                refine ih hq ?_ (by omega)
                intro j hj
                rcases List.mem_cons.mp hj with rfl | hj
                · omega
                · have hlt := hpath j hj
                  omega
              · intro after hafter
                split
                · exact hafter
                · exact hafter.keep hn hv before.looped

end Graph

/-- What a text with data consists of: nothing, or a document that has a graph. -/
theorem load_eq_ok
    {text : String}
    {v : Value}
    (h : load text = .ok v) :
    (Document.ofText? text.toList = .ok none ∧ v = .null) ∨
      ∃ d g, Document.ofText? text.toList = .ok (some d) ∧ Graph.ofDocument d = .ok g ∧
        v = g.value := by
  simp only [load] at h
  split at h
  · cases h
  · cases hgraph : graph? text.toList with
    | error complaint =>
        rw [hgraph] at h
        cases h
    | ok g? =>
        rw [hgraph] at h
        obtain ⟨d?, hd, hg⟩ := except_bind_eq_ok_iff.mp hgraph
        cases d? with
        | none =>
            cases hg
            exact .inl ⟨hd, (Except.ok.inj h).symm⟩
        | some d =>
            obtain ⟨g, hof, rfl⟩ : ∃ g, Graph.ofDocument d = .ok g ∧ g? = some g := by
              cases hof : Graph.ofDocument d with
              | error complaint =>
                  simp only [hof] at hg
                  cases hg
              | ok g =>
                  simp only [hof] at hg
                  exact ⟨g, rfl, (Except.ok.inj hg).symm⟩
            exact .inr ⟨d, g, hd, hof, (Except.ok.inj h).symm⟩

/-- A text without aliases and merges has the data that its nodes have one by one. -/
theorem load_of_isTree
    {text : String}
    {v : Value}
    {d : Document}
    (hload : load text = .ok v)
    (hd : Document.ofText? text.toList = .ok (some d))
    (haliases : d.root.aliases = [])
    (hmerges : d.root.isMergeFree = true) :
    d.datum? d.root = some v := by
  obtain ⟨hroot, hcount, hsize⟩ := Document.isTree_of_ofText? hd haliases hmerges
  obtain ⟨hnone, _⟩ | ⟨d', g, hd', hg, rfl⟩ := load_eq_ok hload
  · rw [hd] at hnone
    cases hnone
  · rw [hd] at hd'
    cases hd'
    obtain ⟨s, hstands, hcells⟩ := Building.graph_of_isTree hroot hsize hcount hg
    have hsound : Graph.Sound d s ⟨Array.replicate g.cells.size none, false⟩ := by
      intro i v hv
      rw [Array.getElem?_replicate] at hv
      split at hv <;> cases hv
    exact (Graph.gives_partValue hcells hstands (by simp) (by omega) _ hsound).1

end Yaml
end AccessPolicy
