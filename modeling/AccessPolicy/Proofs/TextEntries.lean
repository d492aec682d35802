import AccessPolicy.Redaction.Basic

/-!
# Entries with text keys

The fields of an object are found by name.  A name is a text, and a member of a closed set
of texts counts as its text; so a name finds its entry whatever the spelling of the key.

**Lookup.**  `Entries.getText?` behind a `set` or a `merge` is said by the name alone.

**Order.**  `Entries.names` are the names that occur, in order.  A `set` keeps them or adds
one at the end.

**Named entries.**  `Entries.IsNamed` holds of entries whose keys are all texts, each with
another name.  Putting such entries into others is setting fields by name
(`Redaction.namedUpdates_merge`).
-/

namespace AccessPolicy

/-- A key that is a text is found under its characters only. -/
theorem Value.isSame_of_text?
    {key : Value}
    {n : String}
    (h : key.text? = some n)
    (v : Value) :
    v.isSame key = (v.text? == some n) := by
  cases key with
  | text s =>
      obtain rfl : s = n := by
        simpa [Value.text?] using h
      cases v <;>
        simp [Value.isSame, Value.agrees, Value.text?, Value.isSameNaN, Value.agreesWithInt,
          Value.agreesWithFloat] <;>
        grind
  | tag t =>
      obtain rfl : t.text = n := by
        simpa [Value.text?] using h
      cases v <;>
        simp [Value.isSame, Value.agrees, Value.text?, Value.isSameNaN, Value.agreesWithInt,
          Value.agreesWithFloat] <;>
        grind
  | _ =>
      simp [Value.text?] at h

theorem Value.isKey_of_text?
    {key : Value}
    {n : String}
    (h : key.text? = some n) :
    key.isKey = true := by
  cases key <;> simp_all [Value.text?, Value.isKey]

namespace Entries

section Lookup

variable {key : Value} {n : String} (hkey : key.text? = some n)
include hkey

theorem get?_of_text?
    (es : Entries) :
    get? es key = getText? es n := by
  have htext : (Value.text n).text? = some n := rfl
  unfold getText? get?
  simp only [Value.isSame_of_text? hkey, Value.isSame_of_text? htext]

theorem set_cons
    (k v value : Value)
    (rest : Entries) :
    set ((k, v) :: rest) key value =
      if k.text? = some n then (k, value) :: rest else (k, v) :: set rest key value := by
  rw [set, Value.isSame_of_text? hkey]
  by_cases hk : k.text? = some n
  · simp [hk]
  · simp [hk]

end Lookup

theorem getText?_cons
    (k v : Value)
    (es : Entries)
    (n : String) :
    getText? ((k, v) :: es) n = if k.text? = some n then some v else getText? es n := by
  have htext : (Value.text n).text? = some n := rfl
  unfold getText? get?
  rw [List.find?_cons, Value.isSame_of_text? htext]
  by_cases hk : k.text? = some n
  · simp [hk]
  · have hfalse : (k.text? == some n) = false := by
      simpa using hk
    rw [hfalse, if_neg hk]

/-- A name that was set has the new value, and all others have the old one. -/
theorem getText?_set
    {key : Value}
    {n : String}
    (hkey : key.text? = some n)
    (es : Entries)
    (value : Value)
    (m : String) :
    getText? (set es key value) m = if m = n then some value else getText? es m := by
  induction es with
  | nil =>
      rw [set, getText?_cons, hkey]
      simp [eq_comm]
  | cons e es ih =>
      obtain ⟨k, v⟩ := e
      rw [set_cons hkey]
      by_cases hk : k.text? = some n
      · rw [if_pos hk, getText?_cons, getText?_cons, hk]
        by_cases hm : m = n
        · simp [hm]
        · have hne : ¬ n = m := fun h => hm h.symm
          simp [hm, hne]
      · rw [if_neg hk, getText?_cons, getText?_cons, ih]
        by_cases hm : m = n
        · subst hm
          simp [hk]
        · simp [hm]

/-- The names of the text keys, in order. -/
def names (es : Entries) : List String :=
  es.filterMap (·.1.text?)

theorem names_cons
    (k v : Value)
    (es : Entries) :
    names ((k, v) :: es) = k.text?.toList ++ names es := by
  unfold names
  cases h : k.text? with
  | none =>
      simp [h]
  | some n =>
      simp [h]

theorem mem_names_of_mem
    {es : Entries}
    {e : Value × Value}
    (he : e ∈ es)
    {n : String}
    (hn : e.1.text? = some n) :
    n ∈ names es :=
  List.mem_filterMap.mpr ⟨e, he, hn⟩

/-- A name occurs iff it has a value. -/
theorem mem_names_iff
    {n : String}
    {es : Entries} :
    n ∈ names es ↔ (getText? es n).isSome := by
  induction es with
  | nil =>
      simp [names, getText?, get?]
  | cons e es ih =>
      obtain ⟨k, v⟩ := e
      rw [names_cons, getText?_cons, List.mem_append, ih]
      by_cases hk : k.text? = some n
      · simp [hk]
      · simp [hk]

/-- A name that is set keeps its position or goes last. -/
theorem names_set
    {key : Value}
    {n : String}
    (hkey : key.text? = some n)
    (es : Entries)
    (value : Value) :
    names (set es key value) = if n ∈ names es then names es else names es ++ [n] := by
  induction es with
  | nil =>
      rw [set, names_cons, hkey]
      simp [names]
  | cons e es ih =>
      obtain ⟨k, v⟩ := e
      rw [set_cons hkey]
      by_cases hk : k.text? = some n
      · rw [if_pos hk, names_cons, names_cons, hk]
        simp
      · rw [if_neg hk, names_cons, names_cons, ih]
        have hmem : n ∈ k.text?.toList ++ names es ↔ n ∈ names es := by
          simp [hk]
        simp only [hmem]
        split
        · rfl
        · rw [List.append_assoc]

/-- Something holds of all names behind a `set` if it does of those before and of the new one. -/
theorem forall_mem_names_set
    {P : String → Prop}
    {key : Value}
    {n : String}
    (hkey : key.text? = some n)
    {es : Entries}
    {value : Value} :
    (∀ m ∈ names (set es key value), P m) ↔ (∀ m ∈ names es, P m) ∧ P n := by
  rw [names_set hkey]
  split
  · rename_i hmem
    exact ⟨fun h => ⟨h, h n hmem⟩, fun h => h.1⟩
  · simp only [List.mem_append, List.mem_singleton, or_imp, forall_and, forall_eq]

/-- Entries whose keys are texts with a property, each name occurring once. -/
structure IsNamed (P : String → Prop) (es : Entries) : Prop where
  texts : ∀ e ∈ es, ∃ n, e.1.text? = some n ∧ P n
  nodup : (names es).Nodup

section Named

variable {P : String → Prop}

theorem isNamed_nil :
    IsNamed P [] where
  texts := by
    simp
  nodup := by
    simp [names]

theorem isNamed_cons_iff
    {k v : Value}
    {es : Entries} :
    IsNamed P ((k, v) :: es)
      ↔
    ∃ n, k.text? = some n ∧ P n ∧ n ∉ names es ∧ IsNamed P es := by
  constructor
  · intro h
    obtain ⟨n, hn, hP⟩ := h.texts (k, v) List.mem_cons_self
    have hnodup := h.nodup
    rw [names_cons, hn] at hnodup
    obtain ⟨hnot, hnodup⟩ := List.nodup_cons.mp hnodup
    exact ⟨n, hn, hP, hnot, fun e he => h.texts e (List.mem_cons_of_mem _ he), hnodup⟩
  · rintro ⟨n, hn, hP, hnot, hes⟩
    constructor
    · intro e he
      rcases List.mem_cons.mp he with rfl | he
      · exact ⟨n, hn, hP⟩
      · exact hes.texts e he
    · rw [names_cons, hn]
      exact List.nodup_cons.mpr ⟨hnot, hes.nodup⟩

theorem IsNamed.set
    {es : Entries}
    (h : IsNamed P es)
    {key : Value}
    {n : String}
    (hkey : key.text? = some n)
    (hn : P n)
    (value : Value) :
    IsNamed P (Entries.set es key value) := by
  constructor
  · intro e he
    induction es with
    | nil =>
        simp only [Entries.set, List.mem_singleton] at he
        subst he
        exact ⟨n, hkey, hn⟩
    | cons e' es ih =>
        obtain ⟨k, v⟩ := e'
        rw [set_cons hkey] at he
        obtain ⟨m, hm, hP, _, hes⟩ := isNamed_cons_iff.mp h
        split at he
        · rcases List.mem_cons.mp he with rfl | he
          · exact ⟨m, hm, hP⟩
          · exact hes.texts e he
        · rcases List.mem_cons.mp he with rfl | he
          · exact ⟨m, hm, hP⟩
          · exact ih hes he
  · rw [names_set hkey]
    split
    · exact h.nodup
    · rename_i hnot
      exact List.nodup_append.mpr ⟨h.nodup, by simp, by
        intro a ha b hb
        rintro rfl
        rw [List.mem_singleton] at hb
        subst hb
        exact hnot ha⟩

/-- A name has its value of the second map, or else that of the first. -/
theorem getText?_merge
    {more : Entries}
    (hmore : IsNamed P more)
    (es : Entries)
    (n : String) :
    getText? (merge es more) n = (getText? more n).or (getText? es n) := by
  induction more generalizing es with
  | nil =>
      rfl
  | cons e more ih =>
      obtain ⟨k, v⟩ := e
      obtain ⟨m, hm, _, hnot, hrest⟩ := isNamed_cons_iff.mp hmore
      have hstep : merge es ((k, v) :: more) = merge (Entries.set es k v) more := rfl
      rw [hstep, ih hrest, getText?_cons, getText?_set hm, hm]
      by_cases hn : n = m
      · subst hn
        have hnone : getText? more n = none := by
          rw [mem_names_iff] at hnot
          simpa using hnot
        simp [hnone]
      · have hne : ¬ m = n := fun h => hn h.symm
        simp [hn, hne]

end Named

section Setting

variable {P : String → Prop} {key key' : Value} {n m : String}
variable (hkey : key.text? = some n) (hkey' : key'.text? = some m)

include hkey in
/-- Of two values that are set under one name the second one stays, under the key that was there
first. -/
theorem set_set
    (hsame : key'.text? = some n)
    (es : Entries)
    (value value' : Value) :
    set (set es key value) key' value' = set es key value' := by
  induction es with
  | nil =>
      rw [set, set_cons hsame, if_pos hkey, set]
  | cons e es ih =>
      obtain ⟨k, v⟩ := e
      rw [set_cons hkey, set_cons hkey]
      by_cases hk : k.text? = some n
      · rw [if_pos hk, if_pos hk, set_cons hsame, if_pos hk]
      · rw [if_neg hk, if_neg hk, set_cons hsame, if_neg hk, ih]

include hkey hkey' in
/-- Names that are set one after the other may be set the other way round if one is there
already, so that it does not go last. -/
theorem set_comm
    (hne : m ≠ n)
    {es : Entries}
    (hmem : n ∈ names es)
    (value value' : Value) :
    set (set es key value) key' value' = set (set es key' value') key value := by
  induction es with
  | nil =>
      simp [names] at hmem
  | cons e es ih =>
      obtain ⟨k, v⟩ := e
      rw [names_cons] at hmem
      rw [set_cons hkey, set_cons hkey']
      by_cases hk : k.text? = some n
      · have hk' : ¬ k.text? = some m := by
          rw [hk, Option.some.injEq]
          exact hne.symm
        rw [if_pos hk, if_neg hk', set_cons hkey', if_neg hk', set_cons hkey, if_pos hk]
      · have hrest : n ∈ names es := by
          simpa [hk] using hmem
        rw [if_neg hk]
        by_cases hk' : k.text? = some m
        · rw [if_pos hk', set_cons hkey', if_pos hk', set_cons hkey, if_neg hk]
        · rw [if_neg hk', set_cons hkey', if_neg hk', set_cons hkey, if_neg hk, ih hrest]

include hkey in
/-- A name that is there already may be set before others are put in or after it. -/
theorem merge_set_of_not_mem
    {es more : Entries}
    (hmore : IsNamed P more)
    (hmem : n ∈ names es)
    (hnot : n ∉ names more)
    (value : Value) :
    merge (set es key value) more = set (merge es more) key value := by
  induction more generalizing es with
  | nil =>
      rfl
  | cons e more ih =>
      obtain ⟨k, v⟩ := e
      obtain ⟨m, hm, _, _, hrest⟩ := isNamed_cons_iff.mp hmore
      rw [names_cons, hm, Option.toList_some, List.singleton_append, List.mem_cons,
        not_or] at hnot
      have hstep :
          ∀ es : Entries, merge es ((k, v) :: more) = merge (set es k v) more := fun _ => rfl
      have hmem' : n ∈ names (set es k v) := by
        rw [names_set hm]
        split
        · exact hmem
        · exact List.mem_append_left _ hmem
      rw [hstep, hstep, set_comm hkey hm (Ne.symm hnot.1) hmem, ih hrest hmem' hnot.2]

include hkey in
/-- One more name set among entries is one more name set in what they are put into. -/
theorem merge_set
    {more : Entries}
    (hmore : IsNamed P more)
    (es : Entries)
    (value : Value) :
    merge es (set more key value) = set (merge es more) key value := by
  induction more generalizing es with
  | nil =>
      rfl
  | cons e more ih =>
      obtain ⟨k, v⟩ := e
      obtain ⟨m, hm, _, hnot, hrest⟩ := isNamed_cons_iff.mp hmore
      have hstep :
          ∀ (v : Value) (more : Entries),
            merge es ((k, v) :: more) = merge (set es k v) more := fun _ _ => rfl
      rw [set_cons hkey, hstep]
      by_cases hk : k.text? = some n
      · obtain rfl : m = n := by
          simpa [hm] using hk
        have hmem : m ∈ names (set es k v) := by
          rw [names_set hm]
          split
          · assumption
          · exact List.mem_append_right _ List.mem_cons_self
        rw [if_pos hk, hstep, ← set_set hm hkey es v value,
          merge_set_of_not_mem hkey hrest hmem hnot]
      · rw [if_neg hk, hstep, ih hrest]

end Setting

section Ordered

variable {P : String → Prop}

/-- An entry of a map after others were put in: it keeps its key and has the new value. -/
def overlay (more : Entries) (e : Value × Value) : Value × Value :=
  (e.1, (e.1.text?.bind (getText? more)).getD e.2)

theorem overlay_nil
    (e : Value × Value) :
    overlay [] e = e := by
  unfold overlay
  cases e.1.text? <;> rfl

/-- The entries whose names are not among some. -/
def others (own : List String) (es : Entries) : Entries :=
  es.filter fun e => e.1.text?.all fun n => decide (n ∉ own)

/-- A name that occurs once has the value of its entry. -/
theorem getText?_of_mem
    {es : Entries}
    (hnodup : (names es).Nodup)
    {e : Value × Value}
    (he : e ∈ es)
    {n : String}
    (hn : e.1.text? = some n) :
    getText? es n = some e.2 := by
  induction es with
  | nil =>
      cases he
  | cons e' es ih =>
      obtain ⟨k, v⟩ := e'
      rw [names_cons] at hnodup
      rw [getText?_cons]
      rcases List.mem_cons.mp he with rfl | he
      · rw [if_pos hn]
      · have hmem : n ∈ names es := mem_names_of_mem he hn
        have hne : ¬ k.text? = some n := by
          intro hk
          rw [hk] at hnodup
          exact (List.nodup_cons.mp hnodup).1 hmem
        rw [if_neg hne]
        exact ih (List.nodup_append.mp hnodup).2.1 he

/-- Setting a name that occurs once changes the value of its entry. -/
theorem set_of_mem_names
    {key : Value}
    {n : String}
    (hkey : key.text? = some n)
    {es : Entries}
    (hnodup : (names es).Nodup)
    (hn : n ∈ names es)
    (value : Value) :
    Entries.set es key value =
      es.map fun e => if e.1.text? = some n then (e.1, value) else e := by
  induction es with
  | nil =>
      simp [names] at hn
  | cons e es ih =>
      obtain ⟨k, v⟩ := e
      rw [names_cons] at hnodup hn
      rw [set_cons hkey, List.map_cons]
      by_cases hk : k.text? = some n
      · rw [if_pos hk, if_pos hk]
        rw [hk] at hnodup
        have hnot : n ∉ names es := (List.nodup_cons.mp hnodup).1
        have hsame :
            ∀ e ∈ es, (if e.1.text? = some n then (e.1, value) else e) = e := by
          intro e he
          rw [if_neg]
          intro he'
          exact hnot (mem_names_of_mem he he')
        rw [List.map_congr_left hsame]
        simp
      · rw [if_neg hk, if_neg hk]
        have hmem : n ∈ names es := by
          simpa [hk] using hn
        rw [ih (List.nodup_append.mp hnodup).2.1 hmem]

theorem set_of_not_mem_names
    {key : Value}
    {n : String}
    (hkey : key.text? = some n)
    {es : Entries}
    (hn : n ∉ names es)
    (value : Value) :
    Entries.set es key value = es ++ [(key, value)] := by
  induction es with
  | nil =>
      rfl
  | cons e es ih =>
      obtain ⟨k, v⟩ := e
      rw [names_cons, List.mem_append, not_or] at hn
      have hk : ¬ k.text? = some n := by
        intro hk
        simp [hk] at hn
      rw [set_cons hkey, if_neg hk, ih hn.2]
      rfl

/-- Names put into entries occur once if they did before. -/
theorem nodup_names_merge
    {more : Entries}
    (hmore : IsNamed P more)
    {es : Entries}
    (hnodup : (names es).Nodup) :
    (names (merge es more)).Nodup := by
  induction more generalizing es with
  | nil =>
      exact hnodup
  | cons e more ih =>
      obtain ⟨k, v⟩ := e
      obtain ⟨m, hm, _, _, hrest⟩ := isNamed_cons_iff.mp hmore
      have hstep : merge es ((k, v) :: more) = merge (Entries.set es k v) more := rfl
      rw [hstep]
      refine ih hrest ?_
      rw [names_set hm]
      split
      · exact hnodup
      · rename_i hnot
        rw [List.nodup_append]
        refine ⟨hnodup, by simp, ?_⟩
        intro a ha b hb
        rintro rfl
        rw [List.mem_singleton] at hb
        subst hb
        exact hnot ha

theorem others_cons
    (own : List String)
    (k v : Value)
    (es : Entries) :
    others own ((k, v) :: es) =
      if k.text?.all fun n => decide (n ∉ own) then (k, v) :: others own es
      else others own es := by
  unfold others
  rw [List.filter_cons]

/-- Setting a name among those that are not some others. -/
theorem others_set
    {own : List String}
    {key : Value}
    {n : String}
    (hkey : key.text? = some n)
    (es : Entries)
    (value : Value) :
    others own (Entries.set es key value) =
      if n ∈ own then others own es else Entries.set (others own es) key value := by
  induction es with
  | nil =>
      by_cases hn : n ∈ own
      · simp [Entries.set, others, hkey, hn]
      · simp [Entries.set, others, hkey, hn]
  | cons e es ih =>
      obtain ⟨k, v⟩ := e
      rw [set_cons hkey]
      by_cases hk : k.text? = some n
      · rw [if_pos hk, others_cons, others_cons, hk]
        by_cases hn : n ∈ own
        · simp [hn]
        · simp [hn, set_cons hkey, hk]
      · rw [if_neg hk, others_cons, others_cons, ih]
        by_cases hn : n ∈ own
        · simp [hn]
        · cases hkeep : k.text?.all fun n => decide (n ∉ own) with
          | true =>
              simp [hn, set_cons hkey, hk]
          | false =>
              simp [hn]

theorem getText?_others
    {own : List String}
    {n : String}
    (hn : n ∉ own)
    (es : Entries) :
    getText? (others own es) n = getText? es n := by
  induction es with
  | nil =>
      rfl
  | cons e es ih =>
      obtain ⟨k, v⟩ := e
      rw [others_cons, getText?_cons]
      by_cases hk : k.text? = some n
      · simp [hk, hn, getText?_cons]
      · split
        · rw [getText?_cons, if_neg hk, ih]
        · exact ih

theorem others_append_of_not_mem
    {own : List String}
    {m : String}
    {es : Entries}
    (hm : m ∉ names es) :
    others (own ++ [m]) es = others own es := by
  unfold others
  refine List.filter_congr ?_
  intro e he
  cases hn : e.1.text? with
  | none =>
      rfl
  | some n =>
      have hne : n ≠ m := by
        rintro rfl
        exact hm (mem_names_of_mem he hn)
      simp [hne]

/-- An entry is put into those of its own name only. -/
theorem overlay_cons_of_ne
    {k : Value}
    {m : String}
    (hm : k.text? = some m)
    {e : Value × Value}
    (hne : e.1.text? ≠ some m)
    (v : Value)
    (more : Entries) :
    overlay ((k, v) :: more) e = overlay more e := by
  cases hn : e.1.text? with
  | none =>
      simp [overlay, hn]
  | some n =>
      have hne' : ¬ m = n := by
        rintro rfl
        exact hne hn
      simp [overlay, hn, getText?_cons, hm, hne']

theorem overlay_cons_of_eq
    {k : Value}
    {m : String}
    (hm : k.text? = some m)
    {e : Value × Value}
    (he : e.1.text? = some m)
    (v : Value)
    (more : Entries) :
    overlay ((k, v) :: more) e = (e.1, v) := by
  simp [overlay, he, getText?_cons, hm]

theorem overlay_of_getText?_eq_none
    {m : String}
    {e : Value × Value}
    (he : e.1.text? = some m)
    {more : Entries}
    (hnone : getText? more m = none) :
    overlay more e = e := by
  simp [overlay, he, hnone]

/-- Entries put into others: the old ones in their order with the new values, and behind them
those with names that are new. -/
theorem merge_eq
    {more : Entries}
    (hmore : IsNamed P more)
    {es : Entries}
    (hnodup : (names es).Nodup) :
    merge es more = es.map (overlay more) ++ others (names es) more := by
  induction more generalizing es with
  | nil =>
      rw [List.map_congr_left fun e _ => overlay_nil e]
      simp [merge, others]
  | cons e more ih =>
      obtain ⟨k, v⟩ := e
      obtain ⟨m, hm, hP, hnot, hrest⟩ := isNamed_cons_iff.mp hmore
      have hstep : merge es ((k, v) :: more) = merge (Entries.set es k v) more := rfl
      have hnone : getText? more m = none := by
        simpa [mem_names_iff] using hnot
      rw [hstep, others_cons, hm]
      by_cases hmem : m ∈ names es
      · have hnames : names (Entries.set es k v) = names es := by
          rw [names_set hm, if_pos hmem]
        rw [ih hrest (by rw [hnames]; exact hnodup), hnames, set_of_mem_names hm hnodup hmem,
          List.map_map]
        have hoverlay :
            (overlay more ∘ fun e => if e.1.text? = some m then (e.1, v) else e) =
              overlay ((k, v) :: more) := by
          funext e
          dsimp only [Function.comp_apply]
          split
          · rename_i he
            rw [overlay_cons_of_eq hm he]
            have hkey : (e.1, v).1.text? = some m := he
            exact overlay_of_getText?_eq_none hkey hnone
          · rename_i hne
            rw [overlay_cons_of_ne hm hne]
        rw [hoverlay]
        simp [hmem]
      · have hnames : names (Entries.set es k v) = names es ++ [m] := by
          rw [names_set hm, if_neg hmem]
        have hone : IsNamed P [(k, v)] :=
          isNamed_cons_iff.mpr ⟨m, hm, hP, by simp [names], isNamed_nil⟩
        have hnodup' : (names (Entries.set es k v)).Nodup := nodup_names_merge hone hnodup
        have hsame : ∀ e ∈ es, overlay more e = overlay ((k, v) :: more) e := by
          intro e he
          refine (overlay_cons_of_ne hm ?_ v more).symm
          intro hn
          exact hmem (mem_names_of_mem he hn)
        have hlast : overlay more (k, v) = (k, v) := overlay_of_getText?_eq_none hm hnone
        rw [ih hrest hnodup', hnames, set_of_not_mem_names hm hmem, others_append_of_not_mem hnot,
          List.map_append, List.map_congr_left hsame]
        simp [hlast, hmem]

end Ordered

end Entries

section Fields

variable {P : String → Prop}

namespace Redaction

theorem namedUpdates_textEntries
    (fields : Fields) :
    namedUpdates (Value.textEntries fields) = fields := by
  induction fields with
  | nil =>
      rfl
  | cons f fields ih =>
      have hcons :
          namedUpdates (Value.textEntries (f :: fields)) =
            f :: namedUpdates (Value.textEntries fields) := rfl
      rw [hcons, ih]

theorem namedUpdates_cons
    (k v : Value)
    (es : Entries) :
    namedUpdates ((k, v) :: es) =
      (k.text?.map fun n => (n, v)).toList ++ namedUpdates es := by
  unfold namedUpdates
  cases h : k.text? with
  | none =>
      simp [h]
  | some n =>
      simp [h]

theorem names_textEntries_namedUpdates
    (es : Entries) :
    Entries.names (Value.textEntries (namedUpdates es)) = Entries.names es := by
  induction es with
  | nil =>
      rfl
  | cons e es ih =>
      obtain ⟨k, v⟩ := e
      rw [namedUpdates_cons, Entries.names_cons]
      cases hk : k.text? with
      | none =>
          simpa using ih
      | some n =>
          have hcons :
              Value.textEntries ((n, v) :: namedUpdates es) =
                (.text n, v) :: Value.textEntries (namedUpdates es) := rfl
          simp only [Option.map_some, Option.toList_some, List.singleton_append]
          rw [hcons, Entries.names_cons, ih]
          rfl

/-- Setting a name among entries is setting the field of that name. -/
theorem namedUpdates_set
    {key : Value}
    {n : String}
    (hkey : key.text? = some n)
    (es : Entries)
    (value : Value) :
    namedUpdates (Entries.set es key value) = Fields.set (namedUpdates es) n value := by
  induction es with
  | nil =>
      rw [Entries.set, namedUpdates_cons, hkey]
      rfl
  | cons e es ih =>
      obtain ⟨k, v⟩ := e
      rw [Entries.set_cons hkey, namedUpdates_cons]
      cases hk : k.text? with
      | none =>
          simp [namedUpdates_cons, hk, ih]
      | some m =>
          by_cases hm : m = n
          · subst hm
            simp [namedUpdates_cons, hk, Fields.set]
          · simp [namedUpdates_cons, hk, ih, Fields.set, hm]

/-- Putting named entries into others is setting the fields of their names. -/
theorem namedUpdates_merge
    {more : Entries}
    (hmore : Entries.IsNamed P more)
    (es : Entries) :
    namedUpdates (Entries.merge es more) =
      Fields.merge (namedUpdates es) (namedUpdates more) := by
  induction more generalizing es with
  | nil =>
      rfl
  | cons e more ih =>
      obtain ⟨k, v⟩ := e
      obtain ⟨m, hm, _, _, hrest⟩ := Entries.isNamed_cons_iff.mp hmore
      have hstep :
          Entries.merge es ((k, v) :: more) = Entries.merge (Entries.set es k v) more := rfl
      rw [hstep, ih hrest, namedUpdates_set hm, namedUpdates_cons, hm]
      rfl

theorem get?_namedUpdates
    (es : Entries)
    (n : String) :
    Fields.get? (namedUpdates es) n = Entries.getText? es n := by
  induction es with
  | nil =>
      rfl
  | cons e es ih =>
      obtain ⟨k, v⟩ := e
      rw [namedUpdates_cons, Entries.getText?_cons, ← ih]
      cases hk : k.text? with
      | none =>
          simp
      | some m =>
          by_cases hm : m = n
          · simp [Fields.get?, hm]
          · simp [Fields.get?, hm]

end Redaction

theorem getText?_textEntries
    (fields : Fields)
    (n : String) :
    Entries.getText? (Value.textEntries fields) n = Fields.get? fields n := by
  rw [← Redaction.get?_namedUpdates, Redaction.namedUpdates_textEntries]

end Fields
end AccessPolicy
