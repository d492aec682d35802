import AccessPolicy.Proofs.TextEntries
import AccessPolicy.Validation
import Mathlib.Data.List.Forall2
import Mathlib.Data.List.Nodup

/-!
# Data that is accepted

Data of a model is accepted iff each of its fields is, and what is accepted is made of what was
accepted of the fields.  This module has the rules by which acceptance is taken apart.

**Combinations.**  `map_eq_accepted_iff` and its like take apart two verdicts that are combined.
Both of them must accept, since problems add up.

**Fields.**  A field that is present is read; one that is missing has its default, or is
refused (`required_eq_accepted_iff`, `optional_eq_accepted_iff`).

**Maps.**  A map with text keys is read entry by entry, and then the last entry of a name counts
(`mapOf_eq_accepted_iff`), so that no name is left twice (`names_lastNamed_nodup`).
-/

namespace AccessPolicy
namespace Verdict

variable {α β : Type}

section Combinations

theorem map_eq_accepted_iff
    {f : α → β}
    {x : Verdict α}
    {b : β} :
    f <$> x = .accepted b ↔ ∃ a, x = .accepted a ∧ f a = b := by
  show map f x = _ ↔ _
  cases x <;> simp [map]

theorem seq_eq_accepted_iff
    {f : Verdict (α → β)}
    {x : Verdict α}
    {b : β} :
    f <*> x = .accepted b
      ↔
    ∃ g a, f = .accepted g ∧ x = .accepted a ∧ g a = b := by
  show seq f (fun _ => x) = _ ↔ _
  cases f <;> cases x <;> simp [seq, map]

theorem seqLeft_eq_accepted_iff
    {x : Verdict α}
    {y : Verdict β}
    {a : α} :
    x <* y = .accepted a ↔ x = .accepted a ∧ ∃ b, y = .accepted b := by
  have hseq : (x <* y) = (Function.const β <$> x) <*> y := rfl
  rw [hseq, seq_eq_accepted_iff]
  constructor
  · rintro ⟨g, b, hg, hb, rfl⟩
    obtain ⟨a, ha, rfl⟩ := map_eq_accepted_iff.mp hg
    exact ⟨ha, b, hb⟩
  · rintro ⟨ha, b, hb⟩
    exact ⟨_, b, map_eq_accepted_iff.mpr ⟨a, ha, rfl⟩, hb, rfl⟩

theorem under_eq_accepted_iff
    {step : Step}
    {x : Verdict α}
    {a : α} :
    under step x = .accepted a ↔ x = .accepted a := by
  cases x <;> simp [under]

theorem toExcept_eq_ok_iff
    {title : String}
    {x : Verdict α}
    {a : α} :
    x.toExcept title = .ok a ↔ x = .accepted a := by
  cases x <;> simp [toExcept]

theorem ofConversion_eq_accepted_iff
    {x : Except Failure α}
    {a : α} :
    ofConversion x = .accepted a ↔ x = .ok a := by
  unfold ofConversion
  split
  · simp
  · simp
  · split <;> simp [problem]

/-- A list is accepted iff each of its items is. -/
theorem all_eq_accepted_iff
    {read : α → Verdict β}
    {xs : List α}
    {ys : List β} :
    all read xs = .accepted ys ↔ List.Forall₂ (fun x y => read x = .accepted y) xs ys := by
  induction xs generalizing ys with
  | nil =>
      simp [all, eq_comm]
  | cons x xs ih =>
      rw [all, seq_eq_accepted_iff, List.forall₂_cons_left_iff]
      constructor
      · rintro ⟨g, rest, hg, hrest, rfl⟩
        obtain ⟨y, hy, rfl⟩ := map_eq_accepted_iff.mp hg
        exact ⟨y, rest, hy, ih.mp hrest, rfl⟩
      · rintro ⟨y, rest, hy, hrest, rfl⟩
        exact ⟨_, rest, map_eq_accepted_iff.mpr ⟨y, hy, rfl⟩, ih.mpr hrest, rfl⟩

end Combinations

section Fields

variable {input : Entries} {field : String} {read : Value → Verdict α} {a : α}

theorem required_eq_accepted_iff :
    required input field read = .accepted a
      ↔
    ∃ v, Entries.getText? input field = some v ∧ read v = .accepted a := by
  rw [required, under_eq_accepted_iff]
  cases Entries.getText? input field with
  | none =>
      simp [problem]
  | some v =>
      simp

theorem optional_eq_accepted_iff
    {default : α} :
    optional input field default read = .accepted a
      ↔
    (∃ v, Entries.getText? input field = some v ∧ read v = .accepted a) ∨
      (Entries.getText? input field = none ∧ default = a) := by
  rw [optional]
  cases Entries.getText? input field with
  | none =>
      simp
  | some v =>
      simp [under_eq_accepted_iff]

/-- No other keys are refused iff each key is the name of a field. -/
theorem noOthers_eq_accepted_iff
    {fields : List String}
    {u : Unit} :
    noOthers input fields = .accepted u
      ↔
    ∀ e ∈ input, ∃ s, e.1.text? = some s ∧ s ∈ fields := by
  unfold noOthers
  simp only [List.isEmpty_iff]
  split
  · rename_i hempty
    refine ⟨fun _ e he => ?_, fun _ => rfl⟩
    have hnone := List.flatMap_eq_nil_iff.mp hempty e he
    cases htext : e.1.text? with
    | none =>
        simp [htext] at hnone
    | some s =>
        exact ⟨s, rfl, by simpa [htext] using hnone⟩
  · rename_i hrefused
    refine ⟨fun h => (by cases h), fun hall => absurd ?_ hrefused⟩
    rw [List.flatMap_eq_nil_iff]
    intro e he
    obtain ⟨s, hs, hmem⟩ := hall e he
    simp [hs, hmem]

theorem name_eq_accepted_iff
    {v : Value}
    {s : String} :
    name v = .accepted s ↔ text v = .accepted s ∧ s ≠ "" := by
  rw [name]
  cases text v with
  | accepted t =>
      cases hempty : t.isEmpty with
      | true =>
          have ht : t = "" := String.isEmpty_iff.mp hempty
          subst ht
          simp [problem]
      | false =>
          have ht : t ≠ "" := by
            rintro rfl
            cases hempty
          simp only [hempty, Bool.false_eq_true, if_false, accepted.injEq]
          exact ⟨fun h => ⟨h, h ▸ ht⟩, fun h => h.1⟩
  | rejected ps =>
      simp
  | aborted f =>
      simp

/-- A field that is given by name is read. -/
theorem optional_textEntries
    {given : Fields}
    {v : Value}
    (hget : Fields.get? given field = some v)
    (hread : read v = .accepted a)
    (default : α) :
    optional (Value.textEntries given) field default read = .accepted a :=
  optional_eq_accepted_iff.mpr (.inl ⟨v, (getText?_textEntries given field).trans hget, hread⟩)

theorem required_textEntries
    {given : Fields}
    {v : Value}
    (hget : Fields.get? given field = some v)
    (hread : read v = .accepted a) :
    required (Value.textEntries given) field read = .accepted a :=
  required_eq_accepted_iff.mpr ⟨v, (getText?_textEntries given field).trans hget, hread⟩

theorem noOthers_textEntries
    {given : Fields}
    {fields : List String}
    (hall : ∀ f ∈ given, f.1 ∈ fields) :
    noOthers (Value.textEntries given) fields = .accepted () := by
  rw [noOthers_eq_accepted_iff]
  intro e he
  obtain ⟨f, hf, rfl⟩ := List.mem_map.mp he
  exact ⟨f.1, rfl, hall f hf⟩

end Fields

section Maps

theorem map_fst_putNamed
    (name : String)
    (b : β)
    (items : List (String × β)) :
    (putNamed name b items).map Prod.fst =
      if name ∈ items.map Prod.fst then items.map Prod.fst
      else items.map Prod.fst ++ [name] := by
  induction items with
  | nil =>
      rfl
  | cons item rest ih =>
      obtain ⟨n, c⟩ := item
      rw [putNamed]
      by_cases hn : n = name
      · simp [hn]
      · have hne : name ≠ n := fun h => hn h.symm
        simp only [if_neg hn, List.map_cons, ih, List.mem_cons, hne, false_or]
        split <;> rfl

/-- No name is left twice. -/
theorem names_lastNamed_nodup
    (items : List (String × β)) :
    ((lastNamed items).map Prod.fst).Nodup := by
  have hfold :
      ∀ done : List (String × β), (done.map Prod.fst).Nodup →
        ((items.foldl (fun done item => putNamed item.1 item.2 done) done).map Prod.fst).Nodup := by
    induction items with
    | nil =>
        exact fun _ h => h
    | cons item rest ih =>
        intro done hdone
        refine ih _ ?_
        rw [map_fst_putNamed]
        split
        · exact hdone
        · rename_i hnew
          exact List.nodup_append.mpr ⟨hdone, by simp, by
            rintro a ha b hb rfl
            rw [List.mem_singleton.mp hb] at ha
            exact hnew ha⟩
  exact hfold [] (by simp)

theorem mem_of_mem_putNamed
    {name : String}
    {b : β}
    {items : List (String × β)}
    {x : String × β}
    (hx : x ∈ putNamed name b items) :
    x = (name, b) ∨ x ∈ items := by
  induction items with
  | nil =>
      exact .inl (List.mem_singleton.mp hx)
  | cons item rest ih =>
      obtain ⟨n, c⟩ := item
      rw [putNamed] at hx
      split at hx
      · rename_i hn
        rcases List.mem_cons.mp hx with rfl | hx
        · exact .inl (hn ▸ rfl)
        · exact .inr (List.mem_cons_of_mem _ hx)
      · rcases List.mem_cons.mp hx with rfl | hx
        · exact .inr List.mem_cons_self
        · exact (ih hx).imp_right (List.mem_cons_of_mem _)

theorem mem_of_mem_lastNamed
    {items : List (String × β)}
    {x : String × β}
    (hx : x ∈ lastNamed items) :
    x ∈ items := by
  have hfold :
      ∀ done : List (String × β),
        x ∈ items.foldl (fun done item => putNamed item.1 item.2 done) done →
          x ∈ done ∨ x ∈ items := by
    clear hx
    induction items with
    | nil =>
        exact fun _ h => .inl h
    | cons item rest ih =>
        intro done h
        rcases ih _ h with hput | hrest
        · rcases mem_of_mem_putNamed hput with rfl | hdone
          · exact .inr List.mem_cons_self
          · exact .inl hdone
        · exact .inr (List.mem_cons_of_mem _ hrest)
  rcases hfold [] hx with hnil | hmem
  · cases hnil
  · exact hmem

theorem putNamed_of_not_mem
    {name : String}
    {items : List (String × β)}
    (hname : name ∉ items.map Prod.fst)
    (b : β) :
    putNamed name b items = items ++ [(name, b)] := by
  induction items with
  | nil =>
      rfl
  | cons item rest ih =>
      rw [List.map_cons, List.mem_cons, not_or] at hname
      rw [putNamed, if_neg (fun h => hname.1 h.symm), ih hname.2]
      rfl

/-- Items with different names all count. -/
theorem lastNamed_of_nodup
    {items : List (String × β)}
    (hnodup : (items.map Prod.fst).Nodup) :
    lastNamed items = items := by
  have hfold :
      ∀ done : List (String × β), ((done ++ items).map Prod.fst).Nodup →
        items.foldl (fun done item => putNamed item.1 item.2 done) done = done ++ items := by
    clear hnodup
    induction items with
    | nil =>
        simp
    | cons item rest ih =>
        intro done hdone
        have hnew : item.1 ∉ done.map Prod.fst := by
          rw [List.map_append, List.map_cons] at hdone
          exact fun hmem => List.disjoint_of_nodup_append hdone hmem List.mem_cons_self
        rw [List.append_cons] at hdone ⊢
        rw [List.foldl_cons, putNamed_of_not_mem hnew, ih _ hdone]
  exact hfold [] hnodup

/-- A map with text keys is accepted iff each entry is, and of a name the last entry counts. -/
theorem mapOf_eq_accepted_iff
    {read : Value → Verdict β}
    {v : Value}
    {items : List (String × β)} :
    mapOf read v = .accepted items
      ↔
    ∃ type entries all, v = .map type entries ∧ items = lastNamed all ∧
      List.Forall₂ (fun e x => text e.1 = .accepted x.1 ∧ read e.2 = .accepted x.2)
        entries all := by
  have hentry :
      ∀ (e : Value × Value) (x : String × β),
        entry read e = .accepted x ↔ text e.1 = .accepted x.1 ∧ read e.2 = .accepted x.2 := by
    rintro e ⟨n, b⟩
    rw [entry, under_eq_accepted_iff, seq_eq_accepted_iff]
    simp only [map_eq_accepted_iff, under_eq_accepted_iff]
    constructor
    · rintro ⟨g, c, ⟨m, hm, rfl⟩, hc, heq⟩
      cases heq
      exact ⟨hm, hc⟩
    · rintro ⟨hm, hc⟩
      exact ⟨_, b, ⟨n, hm, rfl⟩, hc, rfl⟩
  cases v with
  | map type entries =>
      simp only [mapOf, map_eq_accepted_iff, all_eq_accepted_iff, hentry, Value.map.injEq]
      constructor
      · rintro ⟨all, hall, rfl⟩
        exact ⟨type, entries, all, ⟨rfl, rfl⟩, rfl, hall⟩
      · rintro ⟨_, _, all, ⟨rfl, rfl⟩, rfl, hall⟩
        exact ⟨all, hall, rfl⟩
  | _ =>
      simp [mapOf, problem]

/-- A map that is written from items with different names is read as these items. -/
theorem mapOf_ofFields
    {read : Value → Verdict β}
    {write : β → Value}
    {items : List (String × β)}
    (hread : ∀ x ∈ items, read (write x.2) = .accepted x.2)
    (hnodup : (items.map Prod.fst).Nodup) :
    mapOf read (Value.ofFields (items.map fun x => (x.1, write x.2))) = .accepted items := by
  rw [mapOf_eq_accepted_iff]
  refine ⟨_, _, items, rfl, (lastNamed_of_nodup hnodup).symm, ?_⟩
  rw [Value.textEntries, List.map_map, List.forall₂_map_left_iff, List.forall₂_same]
  exact fun x hx => ⟨rfl, hread x hx⟩

end Maps

end Verdict
end AccessPolicy
