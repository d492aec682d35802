import AccessPolicy.Proofs.Hydration
import AccessPolicy.Proofs.RepeatedKeys
import Mathlib.Data.List.Induction

/-!
# Chains of hooks

Hooks run one after another, each on the pair that the one before it returned.  The first that
fails or returns no pair ends the chain.

**Arguments.**  `Hook.Receives` says what a hook is called with.  Its third argument puts the
options of the request over the fixed arguments of the hook (`Entries.Overrides`), and is there
unless both are empty.

**Chains.**  `Hydration.Chain` tells a run of bound hooks call by call, with its events and its
outcome.  Every run is such a chain (`chain_runAll`).

**Composition.**  Running the hooks of two lists is running those of the first and then, on the pair
that they return, those of the second (`hydrate_composes`).
-/

namespace AccessPolicy

namespace Entries

/-- No two entries of a map have the same key. -/
def HasDistinctKeys (es : Entries) : Prop :=
  es.Pairwise fun a b => a.1.isSame b.1 = false

/-- A map puts some entries over others: a key has the value that it has among the former, or else
among the latter, whose keys come first and in their order. -/
structure Overrides (fixed more es : Entries) : Prop where
  keys_eq :
    es.map Prod.fst = fixed.map Prod.fst ++ (others (names fixed) more).map Prod.fst
  get?_eq :
    ∀ key, get? es key = (get? more key).or (get? fixed key)

section Override

variable {es fixed more : Entries} {e : Value × Value} {key : Value}

theorem get?_append
    (es more : Entries)
    (key : Value) :
    get? (es ++ more) key = (get? es key).or (get? more key) := by
  unfold get?
  rw [List.find?_append]
  cases es.find? fun e => e.1.isSame key <;> rfl

/-- A key that is there keeps its place and spelling. -/
theorem map_fst_set_of_mem
    (value : Value)
    (hmem : ∃ f ∈ es, f.1.isSame key = true) :
    (set es key value).map Prod.fst = es.map Prod.fst := by
  induction es with
  | nil =>
      simp at hmem
  | cons f rest ih =>
      obtain ⟨k, v⟩ := f
      rw [set]
      split
      · rfl
      · rename_i hne
        have hrest : ∃ f ∈ rest, f.1.isSame key = true := by
          simpa [hne] using hmem
        rw [List.map_cons, List.map_cons, ih hrest]

/-- Setting a text changes nothing for a key that is no text. -/
theorem get?_set_of_text?_eq_none
    {n : String}
    (hset : e.1.text? = some n)
    (hkey : key.text? = none) :
    get? (set es e.1 e.2) key = get? es key := by
  have hskip : ∀ {k v : Value} {rest : Entries}, k.text? = some n →
      get? ((k, v) :: rest) key = get? rest key := by
    intro k v rest hk
    have hfalse : k.isSame key = false := by
      rw [Value.isSame_eq_of_text? hk, hkey]
      rfl
    unfold get?
    rw [List.find?_cons_of_neg (by simp [hfalse])]
  induction es with
  | nil =>
      exact hskip hset
  | cons f rest ih =>
      obtain ⟨k, v⟩ := f
      rw [set_cons hset]
      split
      · rename_i hk
        rw [hskip hk, hskip hk]
      · unfold get? at ih ⊢
        rw [List.find?_cons, List.find?_cons]
        split
        · rfl
        · exact ih

/-- One more entry for a text that is fixed. -/
theorem Overrides.set_fixed
    {n : String}
    (h : Overrides fixed more es)
    (hn : e.1.text? = some n)
    (hfixed : n ∈ names fixed)
    (hnew : ∀ o ∈ more, o.1.isSame e.1 = false) :
    Overrides fixed (more ++ [e]) (set es e.1 e.2) where
  keys_eq := by
    have hmem : ∃ f ∈ es, f.1.isSame e.1 = true := by
      obtain ⟨f, hf, hname⟩ := List.mem_filterMap.mp hfixed
      have hkey : f.1 ∈ es.map Prod.fst := by
        rw [h.keys_eq]
        exact List.mem_append_left _ (List.mem_map_of_mem hf)
      obtain ⟨g, hg, hsame⟩ := List.mem_map.mp hkey
      refine ⟨g, hg, ?_⟩
      rw [hsame, Value.isSame_of_text? hn, hname]
      exact beq_self_eq_true _
    rw [map_fst_set_of_mem _ hmem, h.keys_eq]
    simp [others, hn, hfixed]
  get?_eq := by
    intro key
    have hnone : getText? more n = none := by
      by_contra hsome
      obtain ⟨o, ho, hname⟩ :=
        List.mem_filterMap.mp (mem_names_iff.mpr (Option.ne_none_iff_isSome.mp hsome))
      have hfalse := hnew o ho
      rw [Value.isSame_of_text? hn, hname] at hfalse
      simp at hfalse
    rw [get?_append]
    cases hkey : key.text? with
    | none =>
        have hlast : get? [e] key = none := by
          simp [get?, Value.isSame_eq_of_text? hn, hkey]
        rw [get?_set_of_text?_eq_none hn hkey, h.get?_eq, hlast, Option.or_none]
    | some m =>
        have hold := h.get?_eq key
        have hlast : getText? [e] m = if e.1.text? = some m then some e.2 else none :=
          getText?_cons e.1 e.2 [] m
        simp only [get?_of_text? hkey] at hold ⊢
        rw [getText?_set hn, hold, hlast, hn]
        by_cases hm : m = n
        · subst hm
          simp [hnone]
        · have hne : ¬ n = m := fun heq => hm heq.symm
          simp [hm, hne]

/-- One more entry for a key that is neither fixed nor there. -/
theorem Overrides.append
    (h : Overrides fixed more es)
    (htexts : ∀ f ∈ fixed, f.1.text? ≠ none)
    (hfree : ∀ n, e.1.text? = some n → n ∉ names fixed)
    (hnew : ∀ o ∈ more, o.1.isSame e.1 = false) :
    Overrides fixed (more ++ [e]) (set es e.1 e.2) := by
  have hfixed : ∀ f ∈ fixed, ∀ k : Value, f.1.isSame k = true → k.text? ≠ none ∧
      ∀ n, k.text? = some n → n ∈ names fixed := by
    intro f hf k hsame
    obtain ⟨n, hn⟩ := Option.ne_none_iff_exists'.mp (htexts f hf)
    rw [Value.isSame_eq_of_text? hn, beq_iff_eq] at hsame
    rw [hsame]
    refine ⟨Option.some_ne_none n, fun m hm => ?_⟩
    cases hm
    exact mem_names_of_mem hf hn
  have hset : set es e.1 e.2 = es ++ [e] := by
    refine set_of_forall_not_isSame fun f hf => ?_
    have hkey := List.mem_map_of_mem (f := Prod.fst) hf
    rw [h.keys_eq, List.mem_append] at hkey
    rcases hkey with hkey | hkey
    · obtain ⟨g, hg, hsame⟩ := List.mem_map.mp hkey
      by_contra htrue
      rw [Bool.not_eq_false, ← hsame] at htrue
      obtain ⟨hsome, hall⟩ := hfixed g hg e.1 htrue
      obtain ⟨n, hn⟩ := Option.ne_none_iff_exists'.mp hsome
      exact hfree n hn (hall n hn)
    · obtain ⟨o, ho, hsame⟩ := List.mem_map.mp hkey
      rw [← hsame]
      exact hnew o (List.mem_of_mem_filter ho)
  rw [hset]
  constructor
  · have hother : others (names fixed) [e] = [e] := by
      cases htext : e.1.text? with
      | none =>
          simp [others, htext]
      | some n =>
          simp [others, htext, hfree n htext]
    have happend : others (names fixed) (more ++ [e]) = others (names fixed) more ++ [e] := by
      rw [← hother, others, others, others, List.filter_append, List.filter_filter]
      simp
    rw [happend, List.map_append, List.map_append, h.keys_eq, List.append_assoc]
  · intro key
    rw [get?_append, get?_append, h.get?_eq, Option.or_assoc, Option.or_assoc]
    congr 1
    -- A key that is found as the new one is not fixed, so that the order plays no part.
    cases hlast : get? [e] key with
    | none =>
        simp
    | some v =>
        have hsame : e.1.isSame key = true := by
          by_contra hfalse
          simp [get?, hfalse] at hlast
        have hnone : get? fixed key = none := by
          unfold get?
          rw [Option.map_eq_none_iff, List.find?_eq_none]
          intro f hf htrue
          obtain ⟨hsome, hall⟩ := hfixed f hf key htrue
          obtain ⟨n, hn⟩ := Option.ne_none_iff_exists'.mp hsome
          rw [Value.isSame_of_text? hn, beq_iff_eq] at hsame
          exact hfree n hsame (hall n hn)
        rw [hnone]
        rfl

/-- Entries that are put into fixed ones with texts for keys are put over them. -/
theorem overrides_merge
    (htexts : ∀ f ∈ fixed, f.1.text? ≠ none)
    (hmore : more.HasDistinctKeys) :
    Overrides fixed more (merge fixed more) := by
  induction more using List.reverseRecOn with
  | nil =>
      exact ⟨by simp [merge, others], fun _ => rfl⟩
  | append_singleton more e ih =>
      obtain ⟨hdistinct, _, hnew⟩ := List.pairwise_append.mp hmore
      have hnew : ∀ o ∈ more, o.1.isSame e.1 = false :=
        fun o ho => hnew o ho e (List.mem_singleton_self e)
      have hstep : merge fixed (more ++ [e]) = set (merge fixed more) e.1 e.2 :=
        List.foldl_concat ..
      rw [hstep]
      by_cases hfree : ∀ n, e.1.text? = some n → n ∉ names fixed
      · exact (ih hdistinct).append htexts hfree hnew
      · push Not at hfree
        obtain ⟨n, hn, hfixed⟩ := hfree
        exact (ih hdistinct).set_fixed hn hfixed hnew

end Override

end Entries

/-- What a hook is called with: the subject and the object, and a third argument, in which the
options stand over its fixed arguments, unless there are neither. -/
inductive Hook.Receives (h : Hook) (options : Entries) (subject object : Value) :
    List Value → Prop
  | two
      (noFixed : h.fixedArgs = [])
      (noOptions : options = []) :
      Receives h options subject object [subject, object]
  | three
      {args : Entries}
      (nonempty : ¬ (h.fixedArgs = [] ∧ options = []))
      (overrides : Entries.Overrides (Value.textEntries h.fixedArgs) options args) :
      Receives h options subject object [subject, object, Value.record args]

theorem Hook.receives_callArguments
    {options : Entries}
    (hkeys : options.HasDistinctKeys)
    (h : Hook)
    (subject object : Value) :
    h.Receives options subject object (h.callArguments options subject object) := by
  have htexts : ∀ e ∈ Value.textEntries h.fixedArgs, e.1.text? ≠ none := by
    intro e he
    obtain ⟨f, _, rfl⟩ := List.mem_map.mp he
    exact Option.some_ne_none f.1
  by_cases hnone : h.fixedArgs = [] ∧ options = []
  · rw [(Hook.callArguments_eq_pair_iff h options subject object).mpr hnone]
    exact .two hnone.1 hnone.2
  · have hargs :
        h.callArguments options subject object =
          [subject, object,
            Value.record (Entries.merge (Value.textEntries h.fixedArgs) options)] := by
      unfold Hook.callArguments
      split
      · rename_i hempty
        obtain ⟨hfixed, hoptions⟩ := (Entries.merge_eq_nil_iff _ _).mp hempty
        exact absurd ⟨List.map_eq_nil_iff.mp hfixed, hoptions⟩ hnone
      · rfl
    rw [hargs]
    exact .three hnone (Entries.overrides_merge htexts hkeys)

namespace Hydration

/-- A chain of hooks with its events and its outcome.  Each hook is called on the pair that the one
before it returned, and none after one that fails or returns no pair. -/
inductive Chain (env : Environment) (options : Entries) :
    List BoundHook → Value × Value → List Event → Except Failure (Value × Value) → Prop
  | done
      (pair : Value × Value) :
      Chain env options [] pair [] (.ok pair)
  | step
      {h : BoundHook}
      {rest : List BoundHook}
      {subject object s o : Value}
      {args : List Value}
      {events : List Event}
      {outcome : Except Failure (Value × Value)}
      (receives : h.hook.Receives options subject object args)
      (reply : (env.callValue h.function args).outcome = .ok (.tuple [s, o]))
      (chain : Chain env options rest (s, o) events outcome) :
      Chain env options (h :: rest) (subject, object)
        ((env.callValue h.function args).events ++ events) outcome
  | failure
      {h : BoundHook}
      {rest : List BoundHook}
      {subject object : Value}
      {args : List Value}
      {e : Failure}
      (receives : h.hook.Receives options subject object args)
      (reply : (env.callValue h.function args).outcome = .error e) :
      Chain env options (h :: rest) (subject, object)
        (env.callValue h.function args).events (.error e)
  | noPair
      {h : BoundHook}
      {rest : List BoundHook}
      {subject object v : Value}
      {args : List Value}
      (receives : h.hook.Receives options subject object args)
      (reply : (env.callValue h.function args).outcome = .ok v)
      (noPair : ∀ s o, v ≠ .tuple [s, o]) :
      Chain env options (h :: rest) (subject, object)
        (env.callValue h.function args).events (.error (h.invalidResult v))

section Runs

variable {env : Environment}

/-- Bound hooks run in a chain. -/
theorem chain_runAll
    {options : Entries}
    (hkeys : options.HasDistinctKeys)
    (hooks : List BoundHook)
    (subject object : Value) :
    Chain env options hooks (subject, object)
      (runAll env options hooks subject object).events
      (runAll env options hooks subject object).outcome := by
  induction hooks generalizing subject object with
  | nil =>
      exact .done _
  | cons h rest ih =>
      have hargs := Hook.receives_callArguments hkeys h.hook subject object
      rw [runAll, BoundHook.run]
      cases hreply :
          (env.callValue h.function (h.hook.callArguments options subject object)).outcome with
      | error e =>
          have hrun := Run.outcome_bind_of_error hreply fun v => Run.ofExcept (h.pairOf v)
          rw [Run.events_bind_of_error hrun, Run.outcome_bind_of_error hrun,
            Run.events_bind_of_error hreply]
          exact .failure hargs hreply
      | ok v =>
          have hrun := Run.outcome_bind_of_ok hreply fun v => Run.ofExcept (h.pairOf v)
          have hevents := Run.events_bind_of_ok hreply fun v => Run.ofExcept (h.pairOf v)
          rw [Run.outcome_ofExcept] at hrun
          rw [Run.events_ofExcept, List.append_nil] at hevents
          by_cases hpair : ∃ s o, v = .tuple [s, o]
          · obtain ⟨s, o, rfl⟩ := hpair
            rw [Run.events_bind_of_ok hrun, Run.outcome_bind_of_ok hrun, hevents]
            exact .step hargs hreply (ih s o)
          · have hne : ∀ s o, v ≠ .tuple [s, o] := fun s o heq => hpair ⟨s, o, heq⟩
            have hinvalid : h.pairOf v = .error (h.invalidResult v) := by
              unfold BoundHook.pairOf
              split
              · exact absurd rfl (hne _ _)
              · rfl
            rw [hinvalid] at hrun
            rw [Run.events_bind_of_error hrun, Run.outcome_bind_of_error hrun, hevents]
            exact .noPair hargs hreply hne

theorem runAll_append
    (options : Entries)
    (first second : List BoundHook)
    (subject object : Value) :
    runAll env options (first ++ second) subject object =
      runAll env options first subject object >>= fun pair =>
        runAll env options second pair.1 pair.2 := by
  induction first generalizing subject object with
  | nil =>
      rfl
  | cons h rest ih =>
      rw [List.cons_append, runAll, runAll, Run.bind_assoc]
      exact Run.bind_congr fun pair _ => ih pair.1 pair.2

/-- **Hydration composes.**  The hooks of two lists make the calls of the first and then, on the
pair that these return, those of the second, and end as these do; if the first fails, nothing
follows.  Each run is a chain, in which a hook gets the pair of the one before it, and options stand
over its fixed arguments. -/
theorem hydrate_composes
    {options : Value}
    (hoptions : options.IsOptions)
    (hkeys : options.optionEntries.HasDistinctKeys)
    (first second : List BoundHook)
    (subject object : Value) :
    (∀ s o, (hydrate env options first subject object).outcome = .ok (s, o) →
      (hydrate env options (first ++ second) subject object).events =
          (hydrate env options first subject object).events ++
            (hydrate env options second s o).events ∧
        (hydrate env options (first ++ second) subject object).outcome =
          (hydrate env options second s o).outcome) ∧
    (∀ e, (hydrate env options first subject object).outcome = .error e →
      (hydrate env options (first ++ second) subject object).events =
          (hydrate env options first subject object).events ∧
        (hydrate env options (first ++ second) subject object).outcome = .error e) ∧
    ∀ hooks,
      Chain env options.optionEntries hooks (subject, object)
        (hydrate env options hooks subject object).events
        (hydrate env options hooks subject object).outcome := by
  simp only [hydrate_eq_runAll hoptions, runAll_append]
  refine ⟨?_, ?_, ?_⟩
  · intro s o hfirst
    exact ⟨Run.events_bind_of_ok hfirst _, Run.outcome_bind_of_ok hfirst _⟩
  · intro e hfirst
    exact ⟨Run.events_bind_of_error hfirst _, Run.outcome_bind_of_error hfirst _⟩
  · intro hooks
    exact chain_runAll hkeys hooks subject object

end Runs

section Archive

/-- A host program with a function that finds what its third argument asks for, and one that
exchanges subject and object. -/
def archive : Environment where
  apply f args :=
    match f.index, args with
    | 0, [s, _, query] => .ok (.tuple [s, query])
    | 1, [s, o, _] => .ok (.tuple [o, s])
    | _, _ => .error (.raised ⟨"ValueError", "", none⟩)
  importable := []
  classMembers _ := []
  callback _ := none

/-- A hook with fixed arguments. -/
def searching : BoundHook :=
  ⟨.inModuleWith .null "search" [("lang", .text "en"), ("limit", .int 5)],
    .function ⟨"search", 0⟩⟩

/-- A hook without arguments of its own. -/
def exchanging : BoundHook :=
  ⟨.named "exchange", .function ⟨"exchange", 1⟩⟩

/-- Options of which one is a fixed argument, too. -/
def narrowOptions : Value :=
  .ofFields [("limit", .int 2), ("tag", .text "news")]

/-- In the archive a search gets the narrow limit of the request at the place of its own, and what
it finds is exchanged with the subject. -/
theorem archive_composes :
    narrowOptions.IsOptions ∧
    narrowOptions.optionEntries.HasDistinctKeys ∧
    (hydrate archive narrowOptions [searching] (.text "ada") .null).outcome =
      .ok (.text "ada",
        .ofFields [("lang", .text "en"), ("limit", .int 2), ("tag", .text "news")]) ∧
    (hydrate archive narrowOptions ([searching] ++ [exchanging]) (.text "ada") .null).outcome =
      .ok (.ofFields [("lang", .text "en"), ("limit", .int 2), ("tag", .text "news")],
        .text "ada") := by
  have hoptions : narrowOptions.IsOptions := Or.inr ⟨_, _, rfl⟩
  have hkeys : narrowOptions.optionEntries.HasDistinctKeys := by
    unfold Entries.HasDistinctKeys
    decide +kernel
  have hfirst :
      (hydrate archive narrowOptions [searching] (.text "ada") .null).outcome =
        .ok (.text "ada",
          .ofFields [("lang", .text "en"), ("limit", .int 2), ("tag", .text "news")]) := by
    with_unfolding_all rfl
  obtain ⟨hcomposed, _, _⟩ :=
    @hydrate_composes archive narrowOptions hoptions hkeys [searching] [exchanging] (.text "ada")
      .null
  refine ⟨hoptions, hkeys, hfirst, ?_⟩
  rw [(hcomposed _ _ hfirst).2]
  with_unfolding_all rfl

end Archive

end Hydration
end AccessPolicy
