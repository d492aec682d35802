import AccessPolicy.Proofs.RepeatedKeys
import AccessPolicy.Proofs.Yaml.Data

/-!
# The kinds of data in a text

A text has data of a few kinds only, whatever its aliases and merges: scalars, lists, maps and
sets whose keys are scalars, and pairs.  There are no models, types or functions in it, so that
all that a text says has to be read from plain data.

**Kinds.**  `Value.IsScalar` is the data of a single scalar and `Value.IsData` that of any node.

**Building.**  `Keeps` says what an operation results in as long as all data among the parts that
anchors stand for is that of scalars.  The cells that are built then have scalars and numbers of
cells in them only (`holdsScalars_of_ofDocument`).

**Evaluation.**  The values that are kept are data, and then so is the value of each part, even
that of a part inside itself (`isData_of_load`).
-/

namespace AccessPolicy
namespace Value

/-- The data of a single scalar. -/
inductive IsScalar : Value → Prop
  | null : IsScalar .null
  | bool (b : Bool) : IsScalar (.bool b)
  | int (i : Int) : IsScalar (.int i)
  | float (x : Binary64) : IsScalar (.float x)
  | text (s : String) : IsScalar (.text s)
  | bytes (items : List UInt8) : IsScalar (.bytes items)
  | date (d : Day) : IsScalar (.date d)
  | timestamp (m : Moment) : IsScalar (.timestamp m)

/-- Data that a text can have. -/
inductive IsData : Value → Prop
  | scalar
      {v : Value}
      (plain : v.IsScalar) :
      IsData v
  | list
      {items : List Value}
      (all : ∀ v ∈ items, IsData v) :
      IsData (.list items)
  | pair
      {k v : Value}
      (key : IsData k)
      (value : IsData v) :
      IsData (.tuple [k, v])
  | set
      {items : List Value}
      (all : ∀ v ∈ items, v.IsScalar) :
      IsData (.set items)
  | map
      {entries : Entries}
      (keys : ∀ e ∈ entries, e.1.IsScalar)
      (values : ∀ e ∈ entries, IsData e.2) :
      IsData (.map (.builtin .map) entries)
  | loop
      (type : TypeRef) :
      IsData (.loop type)

theorem mem_of_mem_distinct
    {v : Value}
    {items : List Value}
    (hv : v ∈ distinct items) :
    v ∈ items := by
  induction items with
  | nil =>
      exact hv
  | cons w rest ih =>
      rw [distinct, List.mem_cons, List.mem_filter] at hv
      rcases hv with rfl | ⟨hrest, _⟩
      · exact List.mem_cons_self
      · exact List.mem_cons_of_mem _ (ih hrest)

end Value

namespace Yaml

/-- The data in a part is that of a scalar. -/
def Part.HoldsScalars : Part → Prop
  | .data v => v.IsScalar
  | .cell _ => True

/-- All data in a cell is that of scalars. -/
def Cell.HoldsScalars : Cell → Prop
  | .list items => ∀ p ∈ items, p.HoldsScalars
  | .pairs items => ∀ w ∈ items, w.1.HoldsScalars ∧ w.2.HoldsScalars
  | .map entries => ∀ w ∈ entries, w.1.IsScalar ∧ w.2.HoldsScalars
  | .set keys => ∀ k ∈ keys, k.IsScalar

namespace Building

variable {d : Document}

/-- All data among the parts that anchors stand for is that of scalars. -/
def KnowsScalars (s : GraphState) : Prop :=
  ∀ x ∈ s.known, x.2.HoldsScalars

/-- Every result of an operation has some property, and what is known goes on to be scalars. -/
def Keeps
    {α : Type}
    (x : Building α)
    (P : α → Prop) : Prop :=
  ∀ s a s', KnowsScalars s → x.run s = .ok (a, s') → P a ∧ KnowsScalars s'

section Operations

variable {α β : Type} {P : α → Prop} {Q : β → Prop}

theorem keeps_pure
    {a : α}
    (ha : P a) :
    Keeps (pure a) P := by
  intro s b s' hs h
  cases h
  exact ⟨ha, hs⟩

theorem keeps_throw
    (complaint : Complaint) :
    Keeps (throw complaint) P := by
  intro s a s' _ h
  cases h

theorem keeps_get :
    Keeps get KnowsScalars := by
  intro s a s' hs h
  cases h
  exact ⟨hs, hs⟩

theorem keeps_modify
    {f : GraphState → GraphState}
    (hf : ∀ s, KnowsScalars s → KnowsScalars (f s)) :
    Keeps (modify f) fun _ => True := by
  intro s a s' hs h
  cases h
  exact ⟨trivial, hf s hs⟩

theorem Keeps.bind
    {x : Building α}
    {f : α → Building β}
    (hx : Keeps x P)
    (hf : ∀ a, P a → Keeps (f a) Q) :
    Keeps (x >>= f) Q := by
  intro s b s'' hs h
  obtain ⟨a, s', ha, hb⟩ := stateT_bind_eq_ok_iff.mp h
  obtain ⟨hpa, hs'⟩ := hx s a s' hs ha
  exact hf a hpa s' b s'' hs' hb

theorem Keeps.mapM
    {f : α → Building β}
    {xs : List α}
    (hf : ∀ a, Keeps (f a) Q) :
    Keeps (xs.mapM f) fun bs => ∀ b ∈ bs, Q b := by
  induction xs with
  | nil =>
      exact keeps_pure (by simp)
  | cons a as ih =>
      rw [List.mapM_cons]
      refine (hf a).bind fun b hb => ih.bind fun bs hbs => keeps_pure ?_
      exact List.forall_mem_cons.mpr ⟨hb, hbs⟩

theorem keeps_lift
    (x : Except Complaint α) :
    Keeps (liftM x) fun _ => True := by
  intro s a s' hs h
  cases x with
  | error complaint =>
      cases h
  | ok b =>
      cases h
      exact ⟨trivial, hs⟩

theorem keeps_set
    {s : GraphState}
    (hs : KnowsScalars s) :
    Keeps (set s) fun _ => True := by
  intro _ a s' _ h
  cases h
  exact ⟨trivial, hs⟩

/-- What is known of merges says nothing about parts. -/
theorem keeps_merging
    (f : Merging α) :
    Keeps (merging f) fun _ => True := by
  refine keeps_get.bind fun s hs => (keeps_lift _).bind fun r _ => ?_
  have hmerged : KnowsScalars { s with merges := r.2 } := hs
  exact (keeps_set hmerged).bind fun _ _ => keeps_pure trivial

theorem keeps_readAt
    (m : Mark)
    (x : Except Scalar.Trouble α) :
    Keeps (readAt m x) fun _ => True := by
  cases x with
  | error t =>
      exact keeps_throw _
  | ok a =>
      exact keeps_pure trivial

end Operations

section Scalars

theorem keeps_textOf
    (fuel : Nat)
    (n : Node) :
    Keeps (textOf d fuel n) fun _ => True := by
  induction fuel generalizing n with
  | zero =>
      exact keeps_throw _
  | succ fuel ih =>
      rw [textOf]
      split
      · exact keeps_pure trivial
      · refine (keeps_merging _).bind fun entries _ => (keeps_merging _).bind fun v? _ => ?_
        cases v? with
        | none =>
            exact keeps_throw _
        | some v =>
            exact ih v
      · exact keeps_throw _

theorem keeps_bytesOf
    (m : Mark)
    (text : String) :
    Keeps (bytesOf m text) fun _ => True := by
  rw [bytesOf]
  split
  · exact keeps_throw _
  · split
    · exact keeps_pure trivial
    · exact keeps_throw _

/-- A node whose tag asks for no collection has the data of a scalar. -/
theorem keeps_scalarOf
    (tag : DataTag)
    (n : Node) :
    Keeps (scalarOf d tag n) Value.IsScalar := by
  have htext := keeps_textOf (d := d) d.size n
  unfold scalarOf
  split
  · exact htext.bind fun _ _ => keeps_pure .null
  · exact htext.bind fun _ _ => keeps_pure (.text _)
  · exact htext.bind fun _ _ => (keeps_readAt _ _).bind fun _ _ => keeps_pure (.bool _)
  · exact htext.bind fun _ _ => (keeps_readAt _ _).bind fun _ _ => keeps_pure (.int _)
  · exact htext.bind fun _ _ => (keeps_readAt _ _).bind fun _ _ => keeps_pure (.float _)
  · exact htext.bind fun _ _ => (keeps_bytesOf _ _).bind fun _ _ => keeps_pure (.bytes _)
  · refine htext.bind fun _ _ => ?_
    split
    · refine (keeps_readAt _ _).bind fun t _ => ?_
      cases t with
      | day day =>
          exact keeps_pure (.date day)
      | moment moment =>
          exact keeps_pure (.timestamp moment)
    · exact keeps_throw _
  · exact keeps_throw _

end Scalars

section Collections

/-- An anchor comes to stand for a part. -/
theorem keeps_anchor
    (anchor : Option String)
    {part : Part}
    (hpart : part.HoldsScalars) :
    Keeps (do
      match anchor with
      | some name => modify fun s => { s with known := (name, part) :: s.known }
      | none => pure ()
      return part) Part.HoldsScalars := by
  cases anchor with
  | none =>
      exact keeps_pure hpart
  | some name =>
      refine (keeps_modify fun s hs => ?_).bind fun _ _ => keeps_pure hpart
      exact List.forall_mem_cons.mpr ⟨hpart, hs⟩

theorem keeps_visit
    (n : Node) :
    Keeps (visit d n) Part.HoldsScalars := by
  unfold visit
  refine keeps_get.bind fun s hs => ?_
  dsimp only
  split
  · rename_i part hknown
    obtain ⟨name, _, hlookup⟩ := Option.bind_eq_some_iff.mp hknown
    obtain ⟨before, after, heq, _⟩ := List.lookup_eq_some_iff.mp hlookup
    exact keeps_pure (hs (name, part) (heq ▸ by simp))
  · refine (keeps_merging _).bind fun tag _ => ?_
    split
    · refine keeps_get.bind fun s' _ => ?_
      refine Keeps.bind (P := fun _ => True) (keeps_modify ?_) fun _ _ => keeps_anchor _ trivial
      exact fun _ hs => hs
    · rw [map_eq_pure_bind, bind_assoc]
      exact (keeps_scalarOf tag _).bind fun v hv => keeps_anchor _ hv

theorem keeps_mapOf
    (n : Node) :
    Keeps (mapOf d n) fun entries => ∀ w ∈ entries, w.1.IsScalar ∧ w.2.HoldsScalars := by
  unfold mapOf
  split
  · refine (keeps_merging _).bind fun entries _ => ?_
    rw [entriesOf_eq_mapM]
    refine Keeps.mapM fun e => ?_
    refine (keeps_visit e.1).bind fun p hp => ?_
    cases p with
    | cell i =>
        exact keeps_throw _
    | data key =>
        exact (keeps_visit e.2).bind fun q hq => keeps_pure ⟨hp, hq⟩
  · exact keeps_throw _

theorem keeps_pairsOf
    (what : String)
    (n : Node) :
    Keeps (pairsOf d what n) fun pairs => ∀ w ∈ pairs, w.1.HoldsScalars ∧ w.2.HoldsScalars := by
  unfold pairsOf
  split
  · refine Keeps.mapM fun item => ?_
    unfold pairOf
    dsimp only
    split
    · refine (keeps_merging _).bind fun entries _ => ?_
      split
      · exact (keeps_visit _).bind fun p hp => (keeps_visit _).bind fun q hq =>
          keeps_pure ⟨hp, hq⟩
      · exact keeps_throw _
    · exact keeps_throw _
  · exact keeps_throw _

theorem keeps_cellOf
    (n : Node) :
    Keeps (cellOf d n) Cell.HoldsScalars := by
  refine (keeps_merging _).bind fun tag _ => ?_
  split
  · exact (keeps_mapOf n).bind fun entries h => keeps_pure h
  · refine (keeps_mapOf n).bind fun entries h => keeps_pure ?_
    exact List.forall_mem_map.mpr fun w hw => (h w hw).1
  · exact (keeps_pairsOf _ n).bind fun pairs h => keeps_pure h
  · exact (keeps_pairsOf _ n).bind fun pairs h => keeps_pure h
  · split
    · exact (Keeps.mapM keeps_visit).bind fun parts h => keeps_pure h
    · exact keeps_throw _

theorem keeps_cellsFrom
    (fuel : Nat)
    {cells : Array Cell}
    (hcells : ∀ c ∈ cells, c.HoldsScalars) :
    Keeps (cellsFrom d fuel cells) fun all => ∀ c ∈ all, c.HoldsScalars := by
  induction fuel generalizing cells with
  | zero =>
      exact keeps_pure hcells
  | succ fuel ih =>
      refine keeps_get.bind fun s _ => ?_
      split
      · exact keeps_pure hcells
      · refine (keeps_cellOf _).bind fun c hc => ih fun c' hc' => ?_
        rcases Array.mem_push.mp hc' with hold | rfl
        · exact hcells c' hold
        · exact hc

/-- The graph of a document has the data of scalars in it only. -/
theorem holdsScalars_of_ofDocument
    {g : Graph}
    (h : Graph.ofDocument d = .ok g) :
    g.root.HoldsScalars ∧ ∀ c ∈ g.cells, c.HoldsScalars := by
  have hgraph : Keeps (graphOf d) fun g => g.root.HoldsScalars ∧ ∀ c ∈ g.cells, c.HoldsScalars :=
    (keeps_visit _).bind fun root hroot =>
      (keeps_cellsFrom _ (by simp)).bind fun cells hcells => keeps_pure ⟨hroot, hcells⟩
  obtain ⟨s, hrun⟩ := stateT_run'_eq_ok_iff.mp h
  exact (hgraph _ g s (by simp [KnowsScalars]) hrun).1

end Collections

end Building

namespace Graph

/-- Every value that is kept is data of a text. -/
def KeepsData (e : Evaluation) : Prop :=
  ∀ (i : Nat) (v : Value), e.values[i]?.join = some v → v.IsData

theorem KeepsData.keep
    {e : Evaluation}
    {v : Value}
    (he : KeepsData e)
    (hv : v.IsData)
    (i : Nat)
    (looped : Bool) :
    KeepsData ⟨e.values.setIfInBounds i (some v), looped⟩ := by
  intro j w hw
  rw [Array.getElem?_setIfInBounds] at hw
  split at hw
  · split at hw
    · cases hw
      exact hv
    · cases hw
  · exact he j w hw

/-- A value is kept unless a loop was met. -/
theorem gives_keep
    {v : Value}
    (hv : v.IsData)
    (i : Nat)
    (before : Evaluation) :
    Gives KeepsData (do
      modify fun after =>
        if after.looped then after
        else ⟨after.values.setIfInBounds i (some v), before.looped⟩
      return v) Value.IsData := by
  refine Gives.bind (P := fun _ => True) (gives_modify fun after hafter => ?_)
    fun _ _ => gives_pure hv
  split
  · exact hafter
  · exact hafter.keep hv i before.looped

/-- What each item of a list is evaluated to. -/
theorem gives_forall_mapM
    {α β : Type}
    {I : Evaluation → Prop}
    {f : α → StateM Evaluation β}
    {P : β → Prop}
    {xs : List α}
    (hf : ∀ a ∈ xs, Gives I (f a) P) :
    Gives I (xs.mapM f) fun bs => ∀ b ∈ bs, P b := by
  have hsame : List.Forall₂ (fun a a' => a = a' ∧ a ∈ xs) xs xs :=
    List.forall₂_same.mpr fun a ha => ⟨rfl, ha⟩
  have hall : Gives I (xs.mapM f) (List.Forall₂ (fun _ b => P b) xs) := by
    refine Gives.mapM hsame ?_
    rintro a _ ⟨rfl, ha⟩
    exact hf a ha
  intro e he
  obtain ⟨hvalues, hkept⟩ := hall e he
  refine ⟨fun b hb => ?_, hkept⟩
  obtain ⟨_, _, hb⟩ := exists_of_mem_right hvalues hb
  exact hb

/-- The value of a cell is data if the values of its parts are. -/
theorem gives_cellValue_isData
    {c : Cell}
    {inside : Part → StateM Evaluation Value}
    (hc : c.HoldsScalars)
    (hinside : ∀ p, p.HoldsScalars → Gives KeepsData (inside p) Value.IsData) :
    Gives KeepsData (cellValue inside c) Value.IsData := by
  cases c with
  | list items =>
      exact (gives_forall_mapM fun p hp => hinside p (hc p hp)).bind fun vs hvs =>
        gives_pure (.list hvs)
  | pairs items =>
      refine (gives_forall_mapM fun w hw => ?_).bind fun vs hvs => gives_pure (.list hvs)
      obtain ⟨hkey, hvalue⟩ := hc w hw
      exact (hinside w.1 hkey).bind fun k hk => (hinside w.2 hvalue).bind fun v hv =>
        gives_pure (.pair hk hv)
  | map entries =>
      refine Gives.bind (P := fun es => ∀ e ∈ es, e.1.IsScalar ∧ e.2.IsData)
        (gives_forall_mapM fun w hw => ?_) fun es hes => gives_pure ?_
      · obtain ⟨hkey, hvalue⟩ := hc w hw
        exact (hinside w.2 hvalue).bind fun v hv => gives_pure ⟨hkey, hv⟩
      · have hall := Entries.forall_mem_ofList hes
        exact .map (fun e he => (hall e he).1) fun e he => (hall e he).2
  | set keys =>
      exact gives_pure (.set fun v hv => hc v (Value.mem_of_mem_distinct hv))

theorem gives_partValue_isData
    {cells : Array Cell}
    (hcells : ∀ c ∈ cells, c.HoldsScalars)
    {fuel : Nat}
    {path : List Nat}
    {p : Part}
    (hp : p.HoldsScalars) :
    Gives KeepsData (partValue cells fuel path p) Value.IsData := by
  induction fuel generalizing path p with
  | zero =>
      cases p with
      | data v =>
          exact gives_pure (.scalar hp)
      | cell i =>
          exact gives_pure (.scalar .null)
  | succ fuel ih =>
      cases p with
      | data v =>
          exact gives_pure (.scalar hp)
      | cell i =>
          refine gives_get.bind fun before hbefore => ?_
          split
          · rename_i v hkept
            exact gives_pure (hbefore i v hkept)
          · refine Gives.bind (P := fun _ => True) (gives_set hbefore) fun _ _ => gives_pure ?_
            unfold loopOf
            split <;> exact .loop _
          · refine Gives.bind (P := fun _ => True) (gives_set hbefore) fun _ _ => ?_
            dsimp only
            split
            · rename_i c hc
              have hplain := hcells c (Array.mem_of_getElem? hc)
              exact (gives_cellValue_isData hplain fun q hq => ih hq).bind fun v hv =>
                gives_keep hv i before
            · exact gives_keep (.scalar .null) i before

end Graph

/-- **A text has data only.**  All that is read of a text is made of scalars, lists, pairs, sets
and maps. -/
theorem isData_of_load
    {text : String}
    {v : Value}
    (h : load text = .ok v) :
    v.IsData := by
  obtain ⟨_, rfl⟩ | ⟨d, g, _, hg, rfl⟩ := load_eq_ok h
  · exact .scalar .null
  · obtain ⟨hroot, hcells⟩ := Building.holdsScalars_of_ofDocument hg
    have hnone : Graph.KeepsData ⟨Array.replicate g.cells.size none, false⟩ := by
      intro i v hv
      rw [Array.getElem?_replicate] at hv
      split at hv <;> cases hv
    exact (Graph.gives_partValue_isData hcells hroot _ hnone).1

end Yaml
end AccessPolicy
