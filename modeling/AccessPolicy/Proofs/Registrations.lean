import AccessPolicy.FunctionTable
import AccessPolicy.Proofs.DuplicateRules
import AccessPolicy.Proofs.RepeatedKeys
import Mathlib.Data.Finset.Card
import Mathlib.Data.List.Induction
import Mathlib.Data.String.Basic

/-!
# What a table of functions has after some registrations

A table is filled by calls, any of which may fail: a value is registered directly or by a
decorator, under a given name or under its own.  This module says what any sequence of calls leads
to.

**Calls.**  What a call stores depends on the call alone (`Registration.entry?`), and so does
whether it fails (`Registration.failure?`).  A call that fails leaves the table as it is, and one
without a value waits for a value to decorate (`perform_eq`).

**Runs.**  `Holds` says what a table owes to the calls so far: a name has the function of the last
call that stored one under it (`LastStores`), and the names stand in the order in which they were
stored first.  A call keeps it (`Holds.step`), and so does every sequence of calls (`holds_after`).

**Order.**  Texts are always comparable, so that the names can be listed in order
(`exists_sorted`).
-/

namespace AccessPolicy

namespace Duplicates

variable {α : Type} [DecidableEq α]

/-- A list with one more item has it at the end, unless it has it already. -/
theorem distinct_concat
    (xs : List α)
    (x : α) :
    distinct (xs ++ [x]) = if x ∈ xs then distinct xs else distinct xs ++ [x] := by
  induction xs with
  | nil =>
      rfl
  | cons y ys ih =>
      rw [List.cons_append, distinct, ih, distinct]
      by_cases hy : x = y
      · subst hy
        simp only [List.mem_cons, true_or, if_true]
        split <;> simp
      · simp only [List.mem_cons, hy, false_or]
        split
        · rfl
        · simp [hy]

end Duplicates

section Order

/-- A text is put into texts in order at its place. -/
theorem Value.exists_insertSorted
    {s : String}
    {ss : List String}
    (hss : ss.Pairwise (· < ·))
    (hs : s ∉ ss) :
    ∃ sorted : List String, insertSorted? (.text s) (ss.map .text) = some (sorted.map .text) ∧
      sorted.Perm (s :: ss) ∧ sorted.Pairwise (· < ·) := by
  induction ss with
  | nil =>
      exact ⟨[s], rfl, .refl _, List.pairwise_singleton _ _⟩
  | cons t ts ih =>
      obtain ⟨ht, hts⟩ := List.pairwise_cons.mp hss
      obtain ⟨hne, hnot⟩ := not_or.mp (List.mem_cons.not.mp hs)
      have hless : isLess? (.text s) (.text t) = some (decide (s < t)) := by
        simp [isLess?, text?]
      by_cases hlt : s < t
      · refine ⟨s :: t :: ts, ?_, .refl _, .cons ?_ hss⟩
        · simp [insertSorted?, hless, hlt]
        · exact List.forall_mem_cons.mpr ⟨hlt, fun u hu => hlt.trans (ht u hu)⟩
      · obtain ⟨sorted, hsorted, hperm, hpairwise⟩ := ih hts hnot
        refine ⟨t :: sorted, ?_, (hperm.cons t).trans (.swap s t ts), .cons ?_ hpairwise⟩
        · simp [insertSorted?, hless, hlt, hsorted]
        · intro u hu
          rcases List.mem_cons.mp (hperm.mem_iff.mp hu) with rfl | hu
          · exact lt_of_le_of_ne (not_lt.mp hlt) (Ne.symm hne)
          · exact ht u hu

/-- Different texts can be sorted. -/
theorem Value.exists_sorted
    {ss : List String}
    (hss : ss.Nodup) :
    ∃ sorted : List String, sorted? (ss.map .text) = some (sorted.map .text) ∧
      sorted.Perm ss ∧ sorted.Pairwise (· < ·) := by
  induction ss using List.reverseRecOn with
  | nil =>
      exact ⟨[], rfl, .refl _, .nil⟩
  | append_singleton ss s ih =>
      obtain ⟨hss, _, hdisjoint⟩ := List.nodup_append.mp hss
      obtain ⟨sorted, hsorted, hperm, hpairwise⟩ := ih hss
      have hs : s ∉ sorted := fun h =>
        hdisjoint s (hperm.mem_iff.mp h) s (List.mem_singleton_self s) rfl
      obtain ⟨more, hmore, hmorePerm, hmorePairwise⟩ := exists_insertSorted hpairwise hs
      refine ⟨more, ?_, ?_, hmorePairwise⟩
      · rw [sorted?] at hsorted ⊢
        rw [List.map_append, List.foldlM_append, hsorted]
        simpa using hmore
      · exact (hmorePerm.trans (hperm.cons s)).trans (List.perm_append_singleton s ss).symm

end Order

namespace FunctionTable

/-- A call that registers a value: directly, or by a decorator that is made for a name first. -/
structure Registration where
  given : Value
  name : Option String
  decorates : Bool

namespace Registration

/-- The name that counts: the given one unless it is missing or empty, and otherwise the own one
of the value. -/
def nameUsed (r : Registration) : String :=
  match r.name with
  | none => ownName r.given
  | some n => if n = "" then ownName r.given else n

/-- Whether a call has no value yet and waits for one to decorate. -/
def waits : Registration → Bool
  | ⟨.null, _, false⟩ => true
  | _ => false

/-- What a call stores: its value under the name that counts, if there is one. -/
def entry? (r : Registration) : Option (String × Value) :=
  if r.given.isCallable ∧ r.nameUsed ≠ "" then some (r.nameUsed, r.given) else none

/-- Why a call fails. -/
def failure? (r : Registration) : Option Failure :=
  if r.given.isCallable then
    if r.nameUsed = "" then some .namelessFunction else none
  else if r.waits then none
  else some (.notCallable r.given)

/-- The table after a call, unless the call fails. -/
def perform (r : Registration) (t : FunctionTable) : Except Failure FunctionTable :=
  if r.decorates then t.register r.given (Value.ofOptionalText r.name)
  else (t.registerDirect r.given (Value.ofOptionalText r.name)).map fun t'? => t'?.getD t

end Registration

/-- The table after a call, also after one that fails. -/
def step (t : FunctionTable) (r : Registration) : FunctionTable :=
  match r.perform t with
  | .ok t' => t'
  | .error _ => t

/-- The table after some calls. -/
def after (t : FunctionTable) (calls : List Registration) : FunctionTable :=
  calls.foldl step t

/-- A table with what a call stores. -/
def withEntry (t : FunctionTable) : Option (String × Value) → FunctionTable
  | some (n, f) => { t with functions := Entries.set t.functions (.text n) f }
  | none => t

/-- The names under which some calls store, in order. -/
def storedNames (calls : List Registration) : List String :=
  (calls.filterMap Registration.entry?).map Prod.fst

/-- The last of some calls that stores under a name stores a function. -/
def LastStores (calls : List Registration) (n : String) (f : Value) : Prop :=
  ∃ before r behind, calls = before ++ r :: behind ∧ r.entry? = some (n, f) ∧
    n ∉ storedNames behind

section Calls

variable (r : Registration) (t : FunctionTable)

theorem effectiveName_eq :
    effectiveName r.given (Value.ofOptionalText r.name) = .text r.nameUsed := by
  obtain ⟨given, name, decorates⟩ := r
  cases name with
  | none =>
      rfl
  | some n =>
      by_cases hn : n = ""
      · subst hn
        rfl
      · have hfull : (Value.text n).isTrue = true := by
          simp [Value.isTrue, hn]
        simp [effectiveName, Value.ofOptionalText, hfull, Registration.nameUsed, hn]

/-- A value is refused if it is no function or has no name, and otherwise stored. -/
theorem register_eq :
    t.register r.given (Value.ofOptionalText r.name) =
      if r.given.isCallable then
        if r.nameUsed = "" then .error .namelessFunction
        else .ok (t.withEntry (some (r.nameUsed, r.given)))
      else .error (.notCallable r.given) := by
  rw [register, effectiveName_eq]
  cases r.given.isCallable with
  | false =>
      rfl
  | true =>
      by_cases hname : r.nameUsed = ""
      · simp [Value.isTrue, hname]
      · simp [Value.isTrue, Value.isKey, hname, withEntry]

/-- A call that does not wait registers its value. -/
theorem perform_eq_register
    (hwaits : r.waits = false) :
    r.perform t = t.register r.given (Value.ofOptionalText r.name) := by
  obtain ⟨given, name, decorates⟩ := r
  cases decorates with
  | true =>
      rfl
  | false =>
      cases given with
      | null =>
          cases hwaits
      | _ =>
          simp only [Registration.perform, registerDirect, Bool.false_eq_true, if_false]
          cases t.register _ _ <;> rfl

/-- A call fails for reasons of its own, and otherwise the table has what the call stores. -/
theorem perform_eq :
    r.perform t =
      match r.failure? with
      | some e => .error e
      | none => .ok (t.withEntry r.entry?) := by
  cases hwaits : r.waits with
  | true =>
      obtain ⟨given, name, decorates⟩ := r
      unfold Registration.waits at hwaits
      split at hwaits
      · rename_i heq
        cases heq
        rfl
      · cases hwaits
  | false =>
      rw [perform_eq_register r t hwaits, register_eq, Registration.failure?,
        Registration.entry?, hwaits]
      cases r.given.isCallable with
      | false =>
          rfl
      | true =>
          by_cases hname : r.nameUsed = ""
          · simp [hname]
          · simp [hname]

theorem step_eq :
    t.step r = t.withEntry r.entry? := by
  rw [step, perform_eq]
  cases hfailure : r.failure? with
  | none =>
      rfl
  | some e =>
      have hnone : r.entry? = none := by
        unfold Registration.failure? at hfailure
        unfold Registration.entry?
        split at hfailure
        · split at hfailure
          · rename_i hname
            simp [hname]
          · cases hfailure
        · rename_i hcallable
          simp [hcallable]
      rw [hnone]
      rfl

end Calls

section Runs

variable {calls : List Registration} {r : Registration}

theorem storedNames_concat :
    storedNames (calls ++ [r]) = storedNames calls ++ (r.entry?.map Prod.fst).toList := by
  rw [storedNames, List.filterMap_append, List.map_append, ← storedNames]
  cases h : r.entry? with
  | none =>
      simp [h]
  | some e =>
      simp [h]

theorem mem_storedNames_of_lastStores
    {n : String}
    {f : Value}
    (h : LastStores calls n f) :
    n ∈ storedNames calls := by
  obtain ⟨before, r, behind, rfl, hentry, _⟩ := h
  refine List.mem_map.mpr ⟨(n, f), List.mem_filterMap.mpr ⟨r, ?_, hentry⟩, rfl⟩
  exact List.mem_append_right _ List.mem_cons_self

/-- The last call stores under a name, or it does not and an earlier one was the last to do so. -/
theorem lastStores_concat_iff
    {n : String}
    {f : Value} :
    LastStores (calls ++ [r]) n f
      ↔
    r.entry? = some (n, f) ∨ (r.entry?.map Prod.fst ≠ some n ∧ LastStores calls n f) := by
  constructor
  · rintro ⟨before, r', behind, heq, hentry, hlast⟩
    rcases List.eq_nil_or_concat behind with rfl | ⟨behind, r'', rfl⟩
    · obtain ⟨_, hr⟩ := List.append_inj' heq rfl
      obtain rfl := List.cons.inj hr |>.1
      exact .inl hentry
    · rw [List.concat_eq_append, ← List.cons_append, ← List.append_assoc] at heq
      obtain ⟨rfl, hr⟩ := List.append_inj' heq rfl
      obtain rfl := List.cons.inj hr |>.1
      rw [List.concat_eq_append, storedNames_concat, List.mem_append, not_or] at hlast
      refine .inr ⟨?_, before, r', behind, rfl, hentry, hlast.1⟩
      intro hname
      simp [hname] at hlast
  · rintro (hentry | ⟨hname, before, r', behind, rfl, hentry, hlast⟩)
    · exact ⟨calls, r, [], rfl, hentry, by simp [storedNames]⟩
    · refine ⟨before, r', behind ++ [r], by simp, hentry, ?_⟩
      rw [storedNames_concat, List.mem_append, not_or]
      exact ⟨hlast, by simpa [Option.mem_toList] using hname⟩

/-- What a table owes to the calls so far. -/
structure Holds (t : FunctionTable) (calls : List Registration) : Prop where
  sound : ∀ e ∈ t.functions, (∃ n, n ≠ "" ∧ e.1 = .text n) ∧ e.2.isCallable = true
  names_eq : Entries.names t.functions = Duplicates.distinct (storedNames calls)
  last_iff : ∀ n f, Entries.getText? t.functions n = some f ↔ LastStores calls n f

theorem holds_empty
    (name : Value) :
    Holds ⟨name, []⟩ [] where
  sound := by
    simp
  names_eq := rfl
  last_iff n f := by
    refine ⟨fun h => (by cases h), fun h => ?_⟩
    cases mem_storedNames_of_lastStores h

theorem Holds.step
    {t : FunctionTable}
    (h : Holds t calls)
    (r : Registration) :
    Holds (t.step r) (calls ++ [r]) := by
  rw [step_eq]
  cases hentry : r.entry? with
  | none =>
      refine ⟨h.sound, ?_, fun n f => ?_⟩
      · rw [storedNames_concat, hentry]
        simpa [withEntry] using h.names_eq
      · rw [lastStores_concat_iff, hentry]
        simpa [withEntry] using h.last_iff n f
  | some e =>
      obtain ⟨m, g⟩ := e
      have hstored :
          r.given.isCallable = true ∧ r.nameUsed ≠ "" ∧ r.nameUsed = m ∧ r.given = g := by
        simpa [Registration.entry?, and_assoc] using hentry
      obtain ⟨hcallable, hname, rfl, rfl⟩ := hstored
      refine ⟨?_, ?_, fun n f => ?_⟩
      · exact Entries.forall_mem_set (P := fun k => ∃ n, n ≠ "" ∧ k = .text n)
          (Q := fun v => v.isCallable = true) h.sound ⟨r.nameUsed, hname, rfl⟩ hcallable
      · rw [storedNames_concat, hentry]
        show Entries.names (Entries.set t.functions (.text r.nameUsed) r.given) = _
        rw [Entries.names_set rfl, h.names_eq]
        simp only [Option.map_some, Option.toList_some, Duplicates.distinct_concat,
          Duplicates.mem_distinct_iff]
      · show Entries.getText? (Entries.set t.functions (.text r.nameUsed) r.given) n = some f ↔ _
        rw [Entries.getText?_set rfl, lastStores_concat_iff, hentry, ← h.last_iff]
        by_cases hn : n = r.nameUsed
        · subst hn
          simp
        · have hne : ¬ r.nameUsed = n := fun heq => hn heq.symm
          simp [hn, hne]

/-- A table owes to every sequence of calls what it has. -/
theorem holds_after
    (name : Value)
    (calls : List Registration) :
    Holds (after ⟨name, []⟩ calls) calls := by
  induction calls using List.reverseRecOn with
  | nil =>
      exact holds_empty name
  | append_singleton calls r ih =>
      rw [after, List.foldl_append]
      exact ih.step r

namespace Holds

variable {t : FunctionTable} (h : Holds t calls)
include h

theorem names :
    t.names = (Duplicates.distinct (storedNames calls)).map .text := by
  rw [← h.names_eq, FunctionTable.names]
  have hsound := h.sound
  generalize t.functions = es at hsound
  induction es with
  | nil =>
      rfl
  | cons e rest ih =>
      obtain ⟨k, v⟩ := e
      obtain ⟨⟨⟨n, _, rfl⟩, _⟩, hrest⟩ := List.forall_mem_cons.mp hsound
      rw [Entries.names_cons, List.map_cons, ih hrest]
      rfl

/-- There are as many functions as different names. -/
theorem size_eq :
    t.size = (storedNames calls).toFinset.card := by
  have hnodup := Duplicates.nodup_of_pairwise_idxOf
    (Duplicates.pairwise_idxOf_distinct (storedNames calls))
  have hsame :
      (Duplicates.distinct (storedNames calls)).toFinset = (storedNames calls).toFinset := by
    ext n
    simp [Duplicates.mem_distinct_iff]
  rw [← hsame, List.toFinset_card_of_nodup hnodup, ← List.length_map, ← h.names]
  simp [FunctionTable.names, size]

theorem isSome_iff
    (n : String) :
    (Entries.getText? t.functions n).isSome = decide (n ∈ storedNames calls) := by
  have hmem : n ∈ Entries.names t.functions ↔ (Entries.getText? t.functions n).isSome :=
    Entries.mem_names_iff
  rw [h.names_eq, Duplicates.mem_distinct_iff] at hmem
  exact Bool.eq_iff_iff.mpr (hmem.symm.trans decide_eq_true_iff.symm)

end Holds

/-- **A table is a map.**  After any calls, failed ones included, a name has the function of the
last call that stored one under it, and none if no call did.  There are as many functions as
different names, the names stand in the order in which they were stored first, and they can be
listed in order.  No name is empty, only functions are stored, and a call that fails changes
nothing. -/
theorem table_after_calls
    (name : Value)
    (calls : List Registration) :
    let t := after ⟨name, []⟩ calls
    (∀ n f, t.get? (.text n) = .ok (some f) ↔ LastStores calls n f) ∧
    (∀ n, t.get? (.text n) = .ok none ↔ n ∉ storedNames calls) ∧
    (∀ n, t.contains (.text n) = .ok (decide (n ∈ storedNames calls))) ∧
    t.size = (storedNames calls).toFinset.card ∧
    t.names = (Duplicates.distinct (storedNames calls)).map .text ∧
    (∃ sorted : List String, t.sortedNames = .ok (sorted.map .text) ∧
      sorted.Perm (Duplicates.distinct (storedNames calls)) ∧ sorted.Pairwise (· < ·)) ∧
    (∀ e ∈ t.functions, (∃ n, n ≠ "" ∧ e.1 = .text n) ∧ e.2.isCallable = true) ∧
    ∀ r : Registration,
      (∀ e, r.perform t = .error e ↔ r.failure? = some e) ∧
      (r.failure? ≠ none → t.step r = t) := by
  intro t
  have h : Holds t calls := holds_after name calls
  have hget : ∀ n, t.get? (.text n) = .ok (Entries.getText? t.functions n) := fun _ => rfl
  refine ⟨fun n f => ?_, fun n => ?_, fun n => ?_, h.size_eq, h.names, ?_, h.sound, fun r => ?_⟩
  · rw [hget, Except.ok.injEq, h.last_iff]
  · rw [hget, Except.ok.injEq, ← Option.not_isSome_iff_eq_none, h.isSome_iff, decide_eq_true_iff]
  · rw [contains, hget, ← h.isSome_iff]
    rfl
  · obtain ⟨sorted, hsorted, hperm, hpairwise⟩ := Value.exists_sorted
      (Duplicates.nodup_of_pairwise_idxOf
        (Duplicates.pairwise_idxOf_distinct (storedNames calls)))
    refine ⟨sorted, ?_, hperm, hpairwise⟩
    rw [sortedNames, h.names, hsorted]
  · have hperform := perform_eq r t
    cases hfailure : r.failure? with
    | none =>
        rw [hfailure] at hperform
        simp [hperform]
    | some e =>
        rw [hfailure] at hperform
        refine ⟨fun e' => ?_, fun _ => ?_⟩
        · simp [hperform]
        · rw [step, hperform]

/-- Calls of every kind, some of which fail: a function under its own name and then another one
under the same, a decorator with a name, values that are no functions, one that has no name, and a
call that waits. -/
def mixedCalls : List Registration :=
  [⟨.function ⟨"own", 0⟩, none, false⟩, ⟨.function ⟨"has_role", 1⟩, some "member", true⟩,
    ⟨.int 42, some "own", true⟩, ⟨.function ⟨"", 2⟩, some "", false⟩,
    ⟨.function ⟨"late", 3⟩, some "own", false⟩, ⟨.null, some "own", false⟩,
    ⟨.null, some "own", true⟩]

theorem mixedCalls_stored :
    let t := after ⟨.text "blog", []⟩ mixedCalls
    LastStores mixedCalls "own" (.function ⟨"late", 3⟩) ∧
    t.get? (.text "own") = .ok (some (.function ⟨"late", 3⟩)) ∧
    t.get? (.text "has_role") = .ok none ∧
    t.size = 2 ∧
    t.names = [.text "own", .text "member"] ∧
    (.text "member", .function ⟨"has_role", 1⟩) ∈ t.functions ∧
    (Value.function ⟨"has_role", 1⟩).isCallable = true ∧
    (⟨.int 42, some "own", true⟩ : Registration).perform t = .error (.notCallable (.int 42)) ∧
    t.step ⟨.int 42, some "own", true⟩ = t := by
  intro t
  obtain ⟨hget, hnone, _, hsize, hnames, _, hsound, hfails⟩ :=
    table_after_calls (.text "blog") mixedCalls
  have hlast : LastStores mixedCalls "own" (.function ⟨"late", 3⟩) :=
    ⟨mixedCalls.take 4, ⟨.function ⟨"late", 3⟩, some "own", false⟩, mixedCalls.drop 5, rfl,
      rfl, by decide⟩
  have hfunctions :
      t.functions =
        [(.text "own", .function ⟨"late", 3⟩), (.text "member", .function ⟨"has_role", 1⟩)] := by
    with_unfolding_all rfl
  have hmember : (.text "member", .function ⟨"has_role", 1⟩) ∈ t.functions := by
    simp [hfunctions]
  have hrefused :
      (⟨.int 42, some "own", true⟩ : Registration).failure? = some (.notCallable (.int 42)) := by
    rfl
  obtain ⟨hfails, hkept⟩ := hfails ⟨.int 42, some "own", true⟩
  exact ⟨hlast, (hget _ _).mpr hlast, (hnone _).mpr (by decide), hsize, hnames, hmember,
    (hsound _ hmember).2, (hfails _).mpr hrefused, hkept (by simp [hrefused])⟩

end Runs

end FunctionTable
end AccessPolicy
