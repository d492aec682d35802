import AccessPolicy.Proofs.Validation

/-!
# Maps made of entries with repeated keys

A map that is made of entries in order keeps the last value of a key at the place and in the
spelling of the first.

**Keys.**  `Value.SameKey` says that two values are one key.  They have one text, if they have
any (`SameKey.text_eq`).

**Entries.**  An entry of the map has the key and the value of one that was put in
(`Entries.mem_ofList`), and every key that was put in is there (`Entries.exists_mem_ofList`).  A
text has the value that was put in last (`Entries.getText?_ofList`).  Entries with different keys
are all kept (`Entries.ofList_of_pairwise`).

**Values.**  What holds of all values that are there and of all that are put in holds of all values
of the result (`Entries.forall_merge`), and so with keys (`Entries.forall_mem_ofList`).
-/

namespace AccessPolicy

/-- Two values are one key of a map. -/
def Value.SameKey (k k' : Value) : Prop :=
  k = k' ∨ k.isSame k' = true

namespace Value

variable {k k' : Value} {n : String}

theorem isSame_eq_of_text?
    (hk : k.text? = some n) :
    k.isSame k' = (k'.text? == some n) := by
  cases k with
  | text s =>
      obtain rfl : s = n := by
        simpa [text?] using hk
      simp [isSame, agrees, isSameNaN]
  | tag t =>
      obtain rfl : t.text = n := by
        simpa [text?] using hk
      simp [isSame, agrees, isSameNaN]
  | _ =>
      cases hk

/-- Keys that are one are read as one text. -/
theorem SameKey.text_eq
    {s : String}
    (h : SameKey k k')
    (hk : Verdict.text k = .accepted s) :
    Verdict.text k' = .accepted s := by
  rcases h with rfl | h
  · exact hk
  · have htext :
        ∀ {v : Value}, v.text? = some s → Verdict.text v = .accepted s := by
      intro v hv
      cases v <;> simp_all [Verdict.text, text?]
    cases k with
    | text t =>
        cases hk
        rw [isSame_eq_of_text? (n := s) rfl] at h
        exact htext (eq_of_beq h)
    | tag t =>
        cases hk
        rw [isSame_eq_of_text? rfl] at h
        exact htext (eq_of_beq h)
    | bytes xs =>
        cases k' with
        | bytes ys =>
            obtain rfl : xs = ys := by
              simpa [isSame, agrees, isSameNaN] using h
            exact hk
        | _ =>
            simp [isSame, agrees, isSameNaN] at h
    | _ =>
        cases hk

end Value

namespace Entries

section Set

variable {es : Entries} {key value : Value} {e : Value × Value}

theorem mem_set
    (he : e ∈ set es key value) :
    e ∈ es ∨ (e.2 = value ∧ e.1.SameKey key) := by
  induction es with
  | nil =>
      rw [List.mem_singleton.mp he]
      exact .inr ⟨rfl, .inl rfl⟩
  | cons f rest ih =>
      obtain ⟨k, v⟩ := f
      rw [set] at he
      split at he
      · rename_i hsame
        rcases List.mem_cons.mp he with rfl | he
        · exact .inr ⟨rfl, .inr hsame⟩
        · exact .inl (List.mem_cons_of_mem _ he)
      · rcases List.mem_cons.mp he with rfl | he
        · exact .inl List.mem_cons_self
        · exact (ih he).imp_left (List.mem_cons_of_mem _)

/-- What holds of the values of entries and of one more value still holds when this is set. -/
theorem forall_set
    {P : Value → Prop}
    (hes : ∀ e ∈ es, P e.2)
    (key : Value)
    (hvalue : P value) :
    ∀ e ∈ set es key value, P e.2 := by
  intro e he
  rcases mem_set he with he | ⟨heq, _⟩
  · exact hes e he
  · rw [heq]
    exact hvalue

theorem forall_merge
    {P : Value → Prop}
    {more : Entries}
    (hes : ∀ e ∈ es, P e.2)
    (hmore : ∀ e ∈ more, P e.2) :
    ∀ e ∈ merge es more, P e.2 := by
  induction more generalizing es with
  | nil =>
      exact hes
  | cons u more ih =>
      obtain ⟨hu, hrest⟩ := List.forall_mem_cons.mp hmore
      exact ih (forall_set hes u.1 hu) hrest

/-- What holds of the entries of a map and of one that is put in holds of all entries of the result,
if it is a matter of keys and of values. -/
theorem forall_mem_set
    {P Q : Value → Prop}
    (hes : ∀ e ∈ es, P e.1 ∧ Q e.2)
    (hkey : P key)
    (hvalue : Q value) :
    ∀ e ∈ set es key value, P e.1 ∧ Q e.2 := by
  induction es with
  | nil =>
      simpa [set] using ⟨hkey, hvalue⟩
  | cons e rest ih =>
      obtain ⟨⟨hk, hv⟩, hrest⟩ := List.forall_mem_cons.mp hes
      rw [set]
      split
      · exact List.forall_mem_cons.mpr ⟨⟨hk, hvalue⟩, hrest⟩
      · exact List.forall_mem_cons.mpr ⟨⟨hk, hv⟩, ih hrest⟩

/-- What a map has at a key stands in one of its entries. -/
theorem exists_mem_of_get?
    {x : Value}
    (h : get? es key = some x) :
    ∃ e ∈ es, e.2 = x := by
  obtain ⟨e, he, rfl⟩ := Option.map_eq_some_iff.mp h
  exact ⟨e, List.mem_of_find?_eq_some he, rfl⟩

theorem exists_mem_set
    (es : Entries)
    (key value : Value) :
    ∃ f ∈ set es key value, f.1.SameKey key := by
  induction es with
  | nil =>
      exact ⟨(key, value), List.mem_singleton_self _, .inl rfl⟩
  | cons g rest ih =>
      obtain ⟨k, v⟩ := g
      rw [set]
      split
      · rename_i hsame
        exact ⟨(k, value), List.mem_cons_self, .inr hsame⟩
      · obtain ⟨f, hf, hkey⟩ := ih
        exact ⟨f, List.mem_cons_of_mem _ hf, hkey⟩

theorem exists_mem_set_of_mem
    (he : e ∈ es) :
    ∃ f ∈ set es key value, f.1 = e.1 := by
  induction es with
  | nil =>
      cases he
  | cons g rest ih =>
      obtain ⟨k, v⟩ := g
      rw [set]
      rcases List.mem_cons.mp he with rfl | he
      · split
        · exact ⟨(k, value), List.mem_cons_self, rfl⟩
        · exact ⟨(k, v), List.mem_cons_self, rfl⟩
      · split
        · exact ⟨e, List.mem_cons_of_mem _ he, rfl⟩
        · obtain ⟨f, hf, heq⟩ := ih he
          exact ⟨f, List.mem_cons_of_mem _ hf, heq⟩

theorem set_of_forall_not_isSame
    (hnew : ∀ e ∈ es, e.1.isSame key = false) :
    set es key value = es ++ [(key, value)] := by
  induction es with
  | nil =>
      rfl
  | cons f rest ih =>
      obtain ⟨k, v⟩ := f
      rw [List.forall_mem_cons] at hnew
      rw [set, hnew.1, ih hnew.2]
      rfl

/-- A key without text changes nothing for texts. -/
theorem getText?_set_of_text?_eq_none
    (hkey : key.text? = none)
    (n : String) :
    getText? (set es key value) n = getText? es n := by
  induction es with
  | nil =>
      rw [set, getText?_cons, hkey]
      simp
  | cons f rest ih =>
      obtain ⟨k, v⟩ := f
      rw [set]
      split
      · rename_i hsame
        have hk : k.text? ≠ some n := by
          intro hk
          rw [Value.isSame_eq_of_text? hk, hkey] at hsame
          cases hsame
        rw [getText?_cons, getText?_cons, if_neg hk, if_neg hk]
      · rw [getText?_cons, getText?_cons, ih]

end Set

section OfList

variable {values : Entries} {e : Value × Value}

/-- What holds of the keys and of the values that are put in holds of those of the map. -/
theorem forall_mem_ofList
    {P Q : Value → Prop}
    (hvalues : ∀ e ∈ values, P e.1 ∧ Q e.2) :
    ∀ e ∈ ofList values, P e.1 ∧ Q e.2 := by
  have hmerge :
      ∀ es : Entries, (∀ e ∈ es, P e.1 ∧ Q e.2) → ∀ e ∈ merge es values, P e.1 ∧ Q e.2 := by
    induction values with
    | nil =>
        exact fun _ hes => hes
    | cons u rest ih =>
        obtain ⟨hu, hrest⟩ := List.forall_mem_cons.mp hvalues
        exact fun es hes => ih hrest _ (forall_mem_set hes hu.1 hu.2)
  exact hmerge [] (by simp)

theorem mem_ofList
    (he : e ∈ ofList values) :
    ∃ w ∈ values, w.2 = e.2 ∧ e.1.SameKey w.1 := by
  have hmerge :
      ∀ es : Entries, e ∈ merge es values →
        e ∈ es ∨ ∃ w ∈ values, w.2 = e.2 ∧ e.1.SameKey w.1 := by
    clear he
    induction values with
    | nil =>
        exact fun es he => .inl he
    | cons w rest ih =>
        intro es he
        rcases ih (set es w.1 w.2) he with hset | ⟨x, hx, hvalue, hkey⟩
        · rcases mem_set hset with hold | ⟨hvalue, hkey⟩
          · exact .inl hold
          · exact .inr ⟨w, List.mem_cons_self, hvalue.symm, hkey⟩
        · exact .inr ⟨x, List.mem_cons_of_mem _ hx, hvalue, hkey⟩
  rcases hmerge [] he with hnil | hfound
  · cases hnil
  · exact hfound

theorem exists_mem_ofList
    (he : e ∈ values) :
    ∃ f ∈ ofList values, f.1.SameKey e.1 := by
  have hmerge :
      ∀ es : Entries, (∀ f ∈ es, ∃ g ∈ merge es values, g.1 = f.1) ∧
        ∀ f ∈ values, ∃ g ∈ merge es values, g.1.SameKey f.1 := by
    clear he
    induction values with
    | nil =>
        exact fun es => ⟨fun f hf => ⟨f, hf, rfl⟩, by simp⟩
    | cons w rest ih =>
        intro es
        obtain ⟨hkept, hput⟩ := ih (set es w.1 w.2)
        refine ⟨fun f hf => ?_, fun f hf => ?_⟩
        · obtain ⟨g, hg, hkey⟩ := exists_mem_set_of_mem hf
          obtain ⟨h, hh, hkey'⟩ := hkept g hg
          exact ⟨h, hh, hkey'.trans hkey⟩
        · rcases List.mem_cons.mp hf with rfl | hf
          · obtain ⟨g, hg, hkey⟩ := exists_mem_set es f.1 f.2
            obtain ⟨h, hh, hkey'⟩ := hkept g hg
            exact ⟨h, hh, hkey' ▸ hkey⟩
          · exact hput f hf
  exact (hmerge []).2 e he

theorem ofList_of_pairwise
    (hkeys : values.Pairwise fun a b => a.1.isSame b.1 = false) :
    ofList values = values := by
  have hmerge :
      ∀ es : Entries, (es ++ values).Pairwise (fun a b => a.1.isSame b.1 = false) →
        merge es values = es ++ values := by
    clear hkeys
    induction values with
    | nil =>
        exact fun es _ => (List.append_nil es).symm
    | cons w rest ih =>
        intro es hall
        have hnew : ∀ f ∈ es, f.1.isSame w.1 = false :=
          fun f hf => (List.pairwise_append.mp hall).2.2 f hf w List.mem_cons_self
        rw [List.append_cons] at hall ⊢
        calc merge es (w :: rest)
            = merge (set es w.1 w.2) rest := rfl
          _ = merge (es ++ [w]) rest := by rw [set_of_forall_not_isSame hnew]
          _ = es ++ [w] ++ rest := ih _ hall
  exact hmerge [] hkeys

/-- Of the values that were put in for a text the last one is found. -/
theorem getText?_ofList
    (values : Entries)
    (n : String) :
    getText? (ofList values) n =
      (values.filter fun e => e.1.text? == some n).getLast?.map Prod.snd := by
  have hmerge :
      ∀ es : Entries, getText? (merge es values) n =
        ((values.filter fun e => e.1.text? == some n).getLast?.map Prod.snd).or
          (getText? es n) := by
    induction values with
    | nil =>
        exact fun es => rfl
    | cons w rest ih =>
        intro es
        refine (ih (set es w.1 w.2)).trans ?_
        cases hw : w.1.text? with
        | none =>
            rw [getText?_set_of_text?_eq_none hw, List.filter_cons_of_neg (by simp [hw])]
        | some m =>
            rw [getText?_set hw]
            by_cases hm : n = m
            · subst hm
              rw [if_pos rfl, List.filter_cons_of_pos (by simp [hw]), List.getLast?_cons]
              cases (rest.filter fun e => e.1.text? == some n).getLast? <;> rfl
            · have hne : ¬ m = n := fun h => hm h.symm
              rw [if_neg hm, List.filter_cons_of_neg (by simp [hw, hne])]
  have hnone : getText? [] n = none := rfl
  rw [ofList, hmerge, hnone, Option.or_none]

end OfList

end Entries
end AccessPolicy
