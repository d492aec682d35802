import AccessPolicy.Proofs.Yaml.Kinds

/-!
# Mappings as they are written

A mapping node has every entry that is written, and its data the last value of each key.  What
is read of the data therefore comes from some of the entries.

**Nodes.**  `Document.named` are the entries of a mapping under the texts of their keys, and
`Document.under` the values of a field, once for each time that it is written.

**Reading.**  `Document.Reads` says that the data of a node is accepted by a reader, and
`Document.ReadsUnder` what is read under a field that holds a map.  Each name that is read there
is one that is written (`ReadsUnder.exists_of_mem`), no name is read twice
(`ReadsUnder.names_nodup`), and all of them are read if none is written twice
(`ReadsUnder.forall₂`).
-/

namespace AccessPolicy

/-- A value that is neither a map nor an object, so that it has no fields to read. -/
structure Value.IsNoMapping (v : Value) : Prop where
  entries?_eq_none : v.entries? = none
  ne_object : ∀ type fields, v ≠ .object type fields

theorem Value.IsScalar.isNoMapping
    {v : Value}
    (hv : v.IsScalar) :
    v.IsNoMapping := by
  cases hv <;> exact ⟨rfl, nofun⟩

namespace Yaml
namespace Document

variable {y : Document} {n : Node}

section Kinds

theorem isNoMapping_of_scalar?
    {v : Value}
    (h : y.scalar? n = some v) :
    v.IsNoMapping := by
  obtain ⟨s, hrun⟩ := stateT_run'_eq_ok_iff.mp (toOption_eq_some_iff.mp h)
  have hempty : Building.KnowsScalars {} := by
    simp [Building.KnowsScalars]
  exact (Building.keeps_scalarOf n.tag n _ v s hempty hrun).1.isNoMapping

/-- The data of a node is a map with the last value of each key, or it is no mapping at all. -/
theorem datum?_cases
    {v : Value}
    (h : y.datum? n = some v) :
    (∃ entries a m values, n = .mapping .mapping entries a m ∧
      y.entryData? entries = some values ∧ v = Value.record (Entries.ofList values)) ∨
    v.IsNoMapping := by
  cases n with
  | scalar tag text a m =>
      exact .inr (isNoMapping_of_scalar? h)
  | sequence tag items a m =>
      right
      cases tag
      case sequence | orderedMap | pairs =>
        obtain ⟨items, _, rfl⟩ := Option.map_eq_some_iff.mp h
        exact ⟨rfl, nofun⟩
      all_goals exact isNoMapping_of_scalar? h
  | mapping tag entries a m =>
      cases tag
      case mapping =>
        obtain ⟨values, hvalues, rfl⟩ := Option.map_eq_some_iff.mp h
        exact .inl ⟨entries, a, m, values, rfl, hvalues, rfl⟩
      case set =>
        obtain ⟨values, _, rfl⟩ := Option.map_eq_some_iff.mp h
        exact .inr ⟨rfl, nofun⟩
      all_goals exact .inr (isNoMapping_of_scalar? h)
  | _ =>
      exact .inr (isNoMapping_of_scalar? h)

end Kinds

section Entries

variable (y)

/-- The text that a key is read as, if it is read as one. -/
def keyText? (k : Node) : Option String :=
  (y.scalar? k.asKey).bind fun v =>
    match Verdict.text v with
    | .accepted s => some s
    | _ => none

/-- The entries of a mapping under the texts of their keys. -/
def named : Node → List (String × Node)
  | .mapping .mapping entries _ _ =>
      entries.filterMap fun e => (y.keyText? e.1).map fun s => (s, e.2)
  | _ => []

/-- The values of a field of a mapping, one for each time that the field is written. -/
def under (field : String) : Node → List Node
  | .mapping .mapping entries _ _ =>
      (entries.filter fun e => (y.scalar? e.1.asKey).bind Value.text? == some field).map (·.2)
  | _ => []

/-- The entries of the mappings that are written as a field. -/
def namedUnder (field : String) (n : Node) : List (String × Node) :=
  (y.under field n).flatMap y.named

/-- A field is written at most once, and no key in it is written twice. -/
structure WritesOnce (field : String) (n : Node) : Prop where
  field_once : (y.under field n).length ≤ 1
  names_nodup : ((y.namedUnder field n).map Prod.fst).Nodup

instance (field : String) (n : Node) : Decidable (y.WritesOnce field n) :=
  decidable_of_iff
    ((y.under field n).length ≤ 1 ∧ ((y.namedUnder field n).map Prod.fst).Nodup)
    ⟨fun h => ⟨h.1, h.2⟩, fun h => ⟨h.field_once, h.names_nodup⟩⟩

/-- A reader accepts the data of a node. -/
def Reads
    {α : Type}
    (read : Value → Verdict α)
    (n : Node)
    (a : α) : Prop :=
  ∃ v, y.datum? n = some v ∧ read v = .accepted a

/-- What is read under a field that holds a map with text keys: nothing if the field is not
written, and otherwise what is written there last. -/
inductive ReadsUnder
    {α : Type}
    (read : Value → Verdict α)
    (field : String)
    (n : Node) :
    List (String × α) → Prop
  | nothing
      (hnone : y.under field n = []) :
      ReadsUnder read field n []
  | last
      {c : Node}
      {items : List (String × α)}
      (hc : (y.under field n).getLast? = some c)
      (hreads : Reads y (Verdict.mapOf read) c items) :
      ReadsUnder read field n items

end Entries

section Reading

variable {α : Type} {read : Value → Verdict α}

theorem keyText?_eq_some_iff
    {k : Node}
    {v : Value}
    (hk : y.scalar? k.asKey = some v)
    {s : String} :
    y.keyText? k = some s ↔ Verdict.text v = .accepted s := by
  rw [keyText?, hk, Option.bind_some]
  cases Verdict.text v <;> simp

/-- The entries of a mapping and of its data go together. -/
theorem forall₂_named
    {entries : NodeEntries}
    {a : Option String}
    {m : Mark}
    {values : Entries}
    (hvalues : y.entryData? entries = some values)
    (htexts : ∀ w ∈ values, ∃ s, Verdict.text w.1 = .accepted s) :
    List.Forall₂ (fun c w => Verdict.text w.1 = .accepted c.1 ∧ y.datum? c.2 = some w.2)
      (y.named (.mapping .mapping entries a m)) values := by
  have hall := entryData?_eq_some_iff.mp hvalues
  clear hvalues
  rw [named]
  induction hall with
  | nil =>
      exact .nil
  | cons h _ ih =>
      rw [List.forall_mem_cons] at htexts
      obtain ⟨⟨s, hs⟩, hrest⟩ := htexts
      have hkey := (keyText?_eq_some_iff h.1).mpr hs
      rw [List.filterMap_cons_some (by rw [hkey]; rfl)]
      exact .cons ⟨hs, h.2⟩ (ih hrest)

/-- What a map has under a field was written there last. -/
theorem forall₂_under
    {entries : NodeEntries}
    {a : Option String}
    {m : Mark}
    {values : Entries}
    (hvalues : y.entryData? entries = some values)
    (field : String) :
    List.Forall₂ (fun c w => y.datum? c = some w.2)
      (y.under field (.mapping .mapping entries a m))
      (values.filter fun w => w.1.text? == some field) := by
  have hall := entryData?_eq_some_iff.mp hvalues
  rw [under, List.forall₂_map_left_iff]
  refine (List.rel_filter ?_ hall).imp fun _ _ h => h.2
  intro e w h
  simp only [h.1, Option.bind_some]

/-- The data of a node that is read as a map. -/
theorem exists_of_reads_mapOf
    {items : List (String × α)}
    (h : y.Reads (Verdict.mapOf read) n items) :
    ∃ values all,
      List.Forall₂ (fun c w => Verdict.text w.1 = .accepted c.1 ∧ y.datum? c.2 = some w.2)
        (y.named n) values ∧
      List.Forall₂ (fun e x => Verdict.text e.1 = .accepted x.1 ∧ read e.2 = .accepted x.2)
        (Entries.ofList values) all ∧
      items = Verdict.lastNamed all := by
  obtain ⟨v, hv, hread⟩ := h
  obtain ⟨type, es, all, rfl, hitems, hall⟩ := Verdict.mapOf_eq_accepted_iff.mp hread
  obtain ⟨entries, a, m, values, rfl, hvalues, hes⟩ | hother := datum?_cases hv
  · obtain ⟨rfl, rfl⟩ := Value.map.inj hes
    refine ⟨values, all, forall₂_named hvalues ?_, hall, hitems⟩
    intro w hw
    obtain ⟨e, he, hkey⟩ := Entries.exists_mem_ofList hw
    obtain ⟨x, _, hx⟩ := exists_of_mem_left hall he
    exact ⟨x.1, hkey.text_eq hx.1⟩
  · cases hother.entries?_eq_none

theorem reads_mapOf
    {items : List (String × α)}
    (h : y.Reads (Verdict.mapOf read) n items) :
    (items.map Prod.fst).Nodup ∧
    ∀ x ∈ items, ∃ c ∈ y.named n, c.1 = x.1 ∧ y.Reads read c.2 x.2 := by
  obtain ⟨values, all, hnamed, hall, rfl⟩ := exists_of_reads_mapOf h
  refine ⟨Verdict.names_lastNamed_nodup all, fun x hx => ?_⟩
  obtain ⟨e, he, htext, hread⟩ := exists_of_mem_right hall (Verdict.mem_of_mem_lastNamed hx)
  obtain ⟨w, hw, hvalue, hkey⟩ := Entries.mem_ofList he
  obtain ⟨c, hc, hname, hdatum⟩ := exists_of_mem_right hnamed hw
  have hsame := hname.symm.trans (hkey.text_eq htext)
  exact ⟨c, hc, Verdict.accepted.inj hsame, w.2, hdatum, hvalue ▸ hread⟩

/-- If no key is written twice, the whole mapping is read. -/
theorem forall₂_mapOf
    {items : List (String × α)}
    (h : y.Reads (Verdict.mapOf read) n items)
    (hnodup : ((y.named n).map Prod.fst).Nodup) :
    List.Forall₂ (fun c x => c.1 = x.1 ∧ y.Reads read c.2 x.2) (y.named n) items := by
  obtain ⟨values, all, hnamed, hall, rfl⟩ := exists_of_reads_mapOf h
  have hkeys : values.Pairwise fun a b => a.1.isSame b.1 = false := by
    clear hall
    revert hnodup
    generalize y.named n = written at hnamed
    intro hnodup
    induction hnamed with
    | nil =>
        exact .nil
    | @cons c w written values h hrest ih =>
        rw [List.map_cons, List.nodup_cons] at hnodup
        refine .cons (fun w' hw' => ?_) (ih hnodup.2)
        obtain ⟨c', hc', hname', _⟩ := exists_of_mem_right hrest hw'
        rw [Bool.eq_false_iff]
        intro hsame
        have htext := Value.SameKey.text_eq (.inr hsame) h.1
        rw [hname'] at htext
        exact hnodup.1 (Verdict.accepted.inj htext ▸ List.mem_map_of_mem hc')
  rw [Entries.ofList_of_pairwise hkeys] at hall
  have hboth : List.Forall₂ (fun c x => c.1 = x.1 ∧ y.Reads read c.2 x.2) (y.named n) all := by
    refine (forall₂_comp hnamed hall).imp ?_
    rintro c x ⟨w, ⟨hname, hdatum⟩, htext, hread⟩
    exact ⟨Verdict.accepted.inj (hname.symm.trans htext), w.2, hdatum, hread⟩
  have hnames : (y.named n).map Prod.fst = all.map Prod.fst := by
    rw [← List.forall₂_eq_eq_eq, List.forall₂_map_left_iff, List.forall₂_map_right_iff]
    exact hboth.imp fun _ _ h => h.1
  rw [Verdict.lastNamed_of_nodup (hnames ▸ hnodup)]
  exact hboth

theorem under_eq_nil
    {v : Value}
    (hv : y.datum? n = some v)
    (hother : v.IsNoMapping)
    (field : String) :
    y.under field n = [] := by
  cases n with
  | mapping tag entries a m =>
      cases tag with
      | mapping =>
          obtain ⟨values, _, rfl⟩ := Option.map_eq_some_iff.mp hv
          cases hother.entries?_eq_none
      | _ =>
          rfl
  | _ =>
      rfl

/-- An optional field is read as what is written there last. -/
theorem readsUnder_of_optional
    {type : TypeRef}
    {es : Entries}
    (hn : y.datum? n = some (.map type es))
    {field : String}
    {items : List (String × α)}
    (h : Verdict.optional es field [] (Verdict.mapOf read) = .accepted items) :
    y.ReadsUnder read field n items := by
  obtain ⟨entries, a, m, values, rfl, hvalues, hes⟩ | hother := datum?_cases hn
  · obtain ⟨rfl, rfl⟩ := Value.map.inj hes
    have hunder := forall₂_under (a := a) (m := m) hvalues field
    rw [Verdict.optional_eq_accepted_iff, Entries.getText?_ofList] at h
    obtain ⟨v, hv, hread⟩ | ⟨hnone, rfl⟩ := h
    · obtain ⟨w, hw, rfl⟩ := Option.map_eq_some_iff.mp hv
      obtain ⟨c, hc, hdatum⟩ := exists_getLast? hunder hw
      exact .last hc ⟨w.2, hdatum, hread⟩
    · rw [Option.map_eq_none_iff, List.getLast?_eq_none_iff] at hnone
      rw [hnone, List.forall₂_nil_right_iff] at hunder
      exact .nothing hunder
  · cases hother.entries?_eq_none

namespace ReadsUnder

variable {field : String} {items : List (String × α)}

/-- Only what is written is read, and no name is read twice. -/
theorem names_nodup
    (h : y.ReadsUnder read field n items) :
    (items.map Prod.fst).Nodup := by
  cases h with
  | nothing _ =>
      exact .nil
  | last _ hreads =>
      exact (reads_mapOf hreads).1

theorem exists_of_mem
    (h : y.ReadsUnder read field n items)
    {x : String × α}
    (hx : x ∈ items) :
    ∃ c ∈ y.namedUnder field n, c.1 = x.1 ∧ y.Reads read c.2 x.2 := by
  cases h with
  | nothing _ =>
      cases hx
  | last hc hreads =>
      obtain ⟨e, he, hread⟩ := (reads_mapOf hreads).2 x hx
      exact ⟨e, List.mem_flatMap.mpr ⟨_, List.mem_of_getLast? hc, he⟩, hread⟩

/-- If the field is written at most once and no name in it twice, all that is written is read. -/
theorem forall₂
    (h : y.ReadsUnder read field n items)
    (honce : y.WritesOnce field n) :
    List.Forall₂ (fun c x => c.1 = x.1 ∧ y.Reads read c.2 x.2) (y.namedUnder field n) items := by
  cases h with
  | nothing hnone =>
      rw [namedUnder, hnone]
      exact .nil
  | @last c _ hc hreads =>
      have hone : y.under field n = [c] := by
        have hlength := honce.field_once
        generalize y.under field n = found at hc hlength
        match found with
        | [] => cases hc
        | [d] => exact congrArg ([·]) (Option.some.inj hc)
        | _ :: _ :: _ => simp at hlength
      have hnamed : y.namedUnder field n = y.named c := by
        rw [namedUnder, hone, List.flatMap_singleton]
      rw [hnamed]
      exact forall₂_mapOf hreads (hnamed ▸ honce.names_nodup)

end ReadsUnder

end Reading

end Document
end Yaml
end AccessPolicy
