import AccessPolicy.Proofs.DocumentData
import AccessPolicy.Proofs.Outcome
import AccessPolicy.Shorthand

/-!
# What values spell in shorthand

Conditions are written in shorthand, a value that is told apart by its form.  This module has the
relation between such values and the groups of checks that they spell.

**Spellings.**  `SpellsCheck`, `SpellsGroup` and `SpellsConditions` say, form by form, what a value
spells.  The name of a check is a text, but as the key of a map it may also be the bytes of a text,
since models read such bytes as the text itself (`Value.readable?`).

**Conversions.**  Shorthand realizes the relation: it gives what a value spells, and refuses a value
that spells nothing (`Realizes`).  A list is realized item by item.

**Rules.**  A rule depends on the conditions that are spelled and not on their spelling
(`Rule.InModels`, `Rule.read_conditions_as_spelled`).
-/

namespace AccessPolicy

/-- The text that a value is, or that its bytes encode. -/
def Value.readable? : Value → Option String
  | .bytes bs => decoded? bs
  | v => v.text?

/-- A text is that of the value itself. -/
theorem Value.readable?_of_text?
    {v : Value}
    {s : String}
    (h : v.text? = some s) :
    v.readable? = some s := by
  cases v with
  | text t =>
      exact h
  | tag t =>
      exact h
  | _ =>
      cases h

namespace Verdict

theorem text_eq_accepted_iff
    {v : Value}
    {s : String} :
    text v = .accepted s ↔ v.readable? = some s := by
  cases v with
  | bytes bs =>
      simp only [text, Value.readable?]
      cases Value.decoded? bs <;> simp [problem]
  | text t =>
      simp [text, Value.readable?, Value.text?]
  | tag t =>
      simp [text, Value.readable?, Value.text?]
  | _ =>
      simp [text, Value.readable?, Value.text?, problem]

theorem text_ne_aborted
    (v : Value)
    (e : Failure) :
    text v ≠ .aborted e := by
  unfold text
  split <;> split <;> simp [problem]

/-- Reading a name does not end validation. -/
theorem name_ne_aborted
    (v : Value)
    (e : Failure) :
    name v ≠ .aborted e := by
  rw [name]
  cases htext : text v with
  | accepted s =>
      dsimp only
      split <;> simp [problem]
  | rejected ps =>
      simp
  | aborted e' =>
      exact absurd htext (text_ne_aborted v e')

section Names

variable {α : Type} {make : String → α} {title : String} {v : Value}

/-- A model with a name is made iff the name is a text that is not empty. -/
theorem toExcept_name_eq_ok_iff
    {a : α} :
    (make <$> under (.name "name") (name v)).toExcept title = .ok a
      ↔
    ∃ n, v.readable? = some n ∧ n ≠ "" ∧ a = make n := by
  rw [toExcept_eq_ok_iff, map_eq_accepted_iff]
  refine exists_congr fun n => ?_
  rw [under_eq_accepted_iff, name_eq_accepted_iff, text_eq_accepted_iff, and_assoc]
  simp only [eq_comm]

/-- A model with a name that is not made has problems. -/
theorem toExcept_name_eq_error
    {e : Failure}
    (h : (make <$> under (.name "name") (name v)).toExcept title = .error e) :
    ∃ i, e = .invalid i := by
  cases hname : name v with
  | accepted n =>
      rw [hname] at h
      cases h
  | rejected ps =>
      rw [hname] at h
      exact ⟨_, (Except.error.inj h).symm⟩
  | aborted e' =>
      exact absurd hname (name_ne_aborted v e')

end Names

end Verdict

namespace Shorthand

section Forms

/-- What a value stands for as a check. -/
inductive SpellsCheck : Value → Check → Prop
  | model
      {v : Value}
      {c : Check}
      (is : Check.ofValue? v = some c) :
      SpellsCheck v c
  | constant
      (b : Bool) :
      SpellsCheck (.bool b) (.literal b)
  | name
      {v : Value}
      {n : String}
      (text : v.text? = some n)
      (nonempty : n ≠ "") :
      SpellsCheck v (.named n)
  | pair
      {v : Value}
      {n : String}
      (text : v.text? = some n)
      (nonempty : n ≠ "")
      (arg : Value) :
      SpellsCheck (.tuple [v, arg]) (.withArg n arg)
  | entry
      {key : Value}
      {n : String}
      (type : TypeRef)
      (readable : key.readable? = some n)
      (nonempty : n ≠ "")
      (arg : Value) :
      SpellsCheck (.map type [(key, arg)]) (.withArg n arg)

/-- An entry of a map stands for a check with an argument. -/
def SpellsEntry (e : Value × Value) (c : Check) : Prop :=
  ∃ n, e.1.readable? = some n ∧ n ≠ "" ∧ c = .withArg n e.2

/-- What a value stands for as a group of checks. -/
inductive SpellsGroup : Value → Group → Prop
  | single
      {v : Value}
      {c : Check}
      (check : SpellsCheck v c) :
      SpellsGroup v [c]
  | list
      {xs : List Value}
      {g : Group}
      (checks : List.Forall₂ SpellsCheck xs g) :
      SpellsGroup (.list xs) g
  | tuple
      {xs : List Value}
      {g : Group}
      (noPair : isArgPair (.tuple xs) = false)
      (checks : List.Forall₂ SpellsCheck xs g) :
      SpellsGroup (.tuple xs) g
  | entries
      {type : TypeRef}
      {es : Entries}
      {g : Group}
      (several : 2 ≤ es.length)
      (checks : List.Forall₂ SpellsEntry es g) :
      SpellsGroup (.map type es) g

/-- What a value stands for as groups of checks. -/
inductive SpellsConditions : Value → List Group → Prop
  | null :
      SpellsConditions .null []
  | list
      {xs : List Value}
      {groups : List Group}
      (all : List.Forall₂ SpellsGroup xs groups) :
      SpellsConditions (.list xs) groups
  | tuple
      {xs : List Value}
      {groups : List Group}
      (noPair : isArgPair (.tuple xs) = false)
      (all : List.Forall₂ SpellsGroup xs groups) :
      SpellsConditions (.tuple xs) groups
  | single
      {v : Value}
      {g : Group}
      (noList : isArgPair v = true ∨ items? v = none)
      (group : SpellsGroup v g) :
      SpellsConditions v [g]

end Forms

section Realizing

variable {α β : Type}

/-- The value is refused as it stands, or with the problems of a model. -/
def Refuses (e : Failure) : Prop :=
  (∃ v, e = .invalidCheck v) ∨ ∃ i, e = .invalid i

/-- A conversion gives what a value stands for, and refuses a value that stands for nothing, if
this does not nest too deeply. -/
structure Realizes (R : α → β → Prop) (f : α → Except Failure β) : Prop where
  eq_ok_iff : ∀ a b, f a = .ok b ↔ R a b
  refuses : ∀ a e, f a = .error e → Refuses e ∨ e = .tooDeep

theorem Realizes.exists_ok_iff
    {R : α → β → Prop}
    {f : α → Except Failure β}
    (h : Realizes R f)
    (a : α) :
    (∃ b, f a = .ok b) ↔ ∃ b, R a b :=
  exists_congr fun b => h.eq_ok_iff a b

/-- If the conversion of a list fails, then that of an item does. -/
theorem exists_mem_of_mapM_eq_error
    {f : α → Except Failure β}
    {xs : List α}
    {e : Failure}
    (h : xs.mapM f = .error e) :
    ∃ x ∈ xs, f x = .error e := by
  rw [← errorOf?_eq_some_iff, errorOf?_mapM] at h
  obtain ⟨x, hx, hfail⟩ := List.exists_of_findSome?_eq_some h
  exact ⟨x, hx, errorOf?_eq_some_iff.mp hfail⟩

/-- The items of a list are converted one by one, and the first refusal is that of the list. -/
theorem Realizes.mapM
    {R : α → β → Prop}
    {f : α → Except Failure β}
    (h : Realizes R f) :
    Realizes (List.Forall₂ R) (List.mapM f) where
  eq_ok_iff := by
    intro xs ys
    rw [mapM_eq_ok_iff_forall₂]
    constructor
    · exact List.Forall₂.imp fun a b => (h.eq_ok_iff a b).mp
    · exact List.Forall₂.imp fun a b => (h.eq_ok_iff a b).mpr
  refuses := by
    intro xs e he
    obtain ⟨x, _, hx⟩ := exists_mem_of_mapM_eq_error he
    exact h.refuses x e hx

theorem map_singleton_eq_error_iff
    {x : Except Failure β}
    {e : Failure} :
    (x.map ([·]) : Except Failure (List β)) = .error e ↔ x = .error e := by
  cases x <;> simp [Except.map]

end Realizing

section Models

variable (name arg : Value)

theorem named_eq :
    named name =
      (Check.named <$> Verdict.under (.name "name") (Verdict.name name)).toExcept
        Model.namedCheck.name := by
  have hothers :
      Verdict.noOthers (Value.textEntries [("name", name)]) ["name"] = .accepted () :=
    Verdict.noOthers_textEntries (by simp)
  have hrequired :
      Verdict.required (Value.textEntries [("name", name)]) "name" Verdict.name =
        Verdict.under (.name "name") (Verdict.name name) := by
    rw [Verdict.required, getText?_textEntries]
    rfl
  show (Check.readNamed (Value.textEntries [("name", name)])).toExcept _ = _
  rw [Check.readNamed, hothers, hrequired]
  cases Verdict.under (.name "name") (Verdict.name name) <;> rfl

theorem withArg_eq :
    withArg name arg =
      ((fun n => Check.withArg n arg) <$>
          Verdict.under (.name "name") (Verdict.name name)).toExcept
        Model.argCheck.name := by
  have hothers :
      Verdict.noOthers (Value.textEntries [("name", name), ("arg", arg)]) ["name", "arg"] =
        .accepted () :=
    Verdict.noOthers_textEntries (by simp)
  have hrequired :
      Verdict.required (Value.textEntries [("name", name), ("arg", arg)]) "name" Verdict.name =
        Verdict.under (.name "name") (Verdict.name name) := by
    rw [Verdict.required, getText?_textEntries]
    rfl
  have harg :
      Verdict.optional (Value.textEntries [("name", name), ("arg", arg)]) "arg" .null
          Verdict.anything =
        .accepted arg :=
    Verdict.optional_textEntries rfl (Verdict.anything_eq arg) .null
  show (Check.readWithArg (Value.textEntries [("name", name), ("arg", arg)])).toExcept _ = _
  rw [Check.readWithArg, hothers, hrequired, harg]
  cases Verdict.under (.name "name") (Verdict.name name) <;> rfl

variable {name arg} {c : Check} {e : Failure}

theorem named_eq_ok_iff :
    named name = .ok c ↔ ∃ n, name.readable? = some n ∧ n ≠ "" ∧ c = .named n := by
  rw [named_eq, Verdict.toExcept_name_eq_ok_iff]

theorem withArg_eq_ok_iff :
    withArg name arg = .ok c ↔ SpellsEntry (name, arg) c := by
  rw [withArg_eq, Verdict.toExcept_name_eq_ok_iff]
  rfl

theorem refuses_of_named
    (h : named name = .error e) :
    Refuses e := by
  rw [named_eq] at h
  exact .inr (Verdict.toExcept_name_eq_error h)

theorem refuses_of_withArg
    (h : withArg name arg = .error e) :
    Refuses e := by
  rw [withArg_eq] at h
  exact .inr (Verdict.toExcept_name_eq_error h)

end Models

section Realized

/-- A value that is refused is told, unless it nests too deeply. -/
theorem refuses_or_tooDeep_refusal
    (raw : Value) :
    Refuses (refusal .invalidCheck raw) ∨ refusal .invalidCheck raw = .tooDeep := by
  unfold refusal
  split
  · exact .inl (.inl ⟨raw, rfl⟩)
  · exact .inr rfl

/-- Shorthand for a check gives the check that a value stands for. -/
theorem realizes_check :
    Realizes SpellsCheck check where
  eq_ok_iff := by
    intro raw c
    constructor
    · intro h
      unfold check at h
      split at h
      · rename_i d hmodel
        obtain rfl := Except.ok.inj h
        exact .model hmodel
      · split at h
        · obtain rfl := Except.ok.inj h
          exact .constant _
        · obtain ⟨n, hread, hne, rfl⟩ := named_eq_ok_iff.mp h
          exact .name hread hne
        · obtain ⟨n, hread, hne, rfl⟩ := named_eq_ok_iff.mp h
          exact .name hread hne
        · split at h
          · rename_i htext
            obtain ⟨s, hs⟩ := Option.isSome_iff_exists.mp htext
            obtain ⟨n, hread, hne, rfl⟩ := withArg_eq_ok_iff.mp h
            rw [Value.readable?_of_text? hs] at hread
            exact .pair (hs.trans hread) hne _
          · cases h
        · obtain ⟨n, hread, hne, rfl⟩ := withArg_eq_ok_iff.mp h
          exact .entry _ hread hne _
        · cases h
    · intro h
      cases h with
      | model is =>
          simp [check, is]
      | constant b =>
          rfl
      | @name _ n text nonempty =>
          have hnamed := named_eq_ok_iff.mpr ⟨n, Value.readable?_of_text? text, nonempty, rfl⟩
          cases raw with
          | text s =>
              exact hnamed
          | tag t =>
              exact hnamed
          | _ =>
              cases text
      | @pair v n text nonempty arg =>
          have hwith : withArg v arg = .ok (.withArg n arg) :=
            withArg_eq_ok_iff.mpr ⟨n, Value.readable?_of_text? text, nonempty, rfl⟩
          have hsome : v.text?.isSome = true := Option.isSome_iff_exists.mpr ⟨n, text⟩
          show (if v.text?.isSome then withArg v arg else _) = _
          rw [if_pos hsome, hwith]
      | @entry key n type readable nonempty arg =>
          exact withArg_eq_ok_iff.mpr ⟨n, readable, nonempty, rfl⟩
  refuses := by
    intro raw e h
    unfold check at h
    split at h
    · cases h
    · split at h
      · cases h
      · exact .inl (refuses_of_named h)
      · exact .inl (refuses_of_named h)
      · split at h
        · exact .inl (refuses_of_withArg h)
        · exact Except.error.inj h ▸ refuses_or_tooDeep_refusal _
      · exact .inl (refuses_of_withArg h)
      · exact Except.error.inj h ▸ refuses_or_tooDeep_refusal _

theorem realizes_entry :
    Realizes SpellsEntry fun e => withArg e.1 e.2 where
  eq_ok_iff := fun _ _ => withArg_eq_ok_iff
  refuses := fun _ _ h => .inl (refuses_of_withArg h)

/-- What stands for a single check is neither a list nor a map of several entries, and a tuple
only if it is a pair. -/
theorem SpellsCheck.no_group
    {v : Value}
    {c : Check}
    (h : SpellsCheck v c) :
    (∀ xs, v ≠ .list xs) ∧ (∀ xs, v = .tuple xs → isArgPair v = true) ∧
      ∀ type es, v = .map type es → es.length = 1 := by
  cases h with
  | model is =>
      refine ⟨?_, ?_, ?_⟩
      · rintro xs rfl
        cases is
      · rintro xs rfl
        cases is
      · rintro type es rfl
        cases is
  | constant b =>
      simp
  | name text nonempty =>
      refine ⟨?_, ?_, ?_⟩
      · rintro xs rfl
        cases text
      · rintro xs rfl
        cases text
      · rintro type es rfl
        cases text
  | pair text nonempty arg =>
      refine ⟨by simp, fun _ _ => Option.isSome_iff_exists.mpr ⟨_, text⟩, by simp⟩
  | entry type readable nonempty arg =>
      refine ⟨by simp, by simp, ?_⟩
      rintro _ _ heq
      cases heq
      rfl

theorem group_of_spellsCheck
    {v : Value}
    {c : Check}
    (h : SpellsCheck v c) :
    group v = (check v).map ([·]) := by
  obtain ⟨hlist, htuple, hmap⟩ := h.no_group
  unfold group
  split
  · rfl
  · rename_i hpair
    split
    · exact absurd rfl (hlist _)
    · exact absurd (htuple _ rfl) hpair
    · have hone := hmap _ _ rfl
      simp at hone
    · rfl

/-- Shorthand for a group gives the group that a value stands for. -/
theorem realizes_group :
    Realizes SpellsGroup group where
  eq_ok_iff := by
    intro raw g
    have hsingle : (check raw).map ([·]) = .ok g → SpellsGroup raw g := by
      intro h
      obtain ⟨c, hc, rfl⟩ := except_map_eq_ok_iff.mp h
      exact .single ((realizes_check.eq_ok_iff raw c).mp hc)
    constructor
    · intro h
      unfold group at h
      split at h
      · exact hsingle h
      · rename_i hpair
        split at h
        · exact .list ((realizes_check.mapM.eq_ok_iff _ _).mp h)
        · exact .tuple (Bool.not_eq_true _ ▸ hpair) ((realizes_check.mapM.eq_ok_iff _ _).mp h)
        · exact .entries (by simp) ((realizes_entry.mapM.eq_ok_iff _ _).mp h)
        · exact hsingle h
    · intro h
      cases h with
      | single hcheck =>
          rw [group_of_spellsCheck hcheck, (realizes_check.eq_ok_iff _ _).mpr hcheck]
          rfl
      | list checks =>
          exact (realizes_check.mapM.eq_ok_iff _ _).mpr checks
      | @tuple xs _ noPair checks =>
          rw [group, if_neg (by simp [noPair])]
          exact (realizes_check.mapM.eq_ok_iff _ _).mpr checks
      | @entries type es _ several checks =>
          match es, several, checks with
          | e :: e' :: rest, _, checks =>
              exact (realizes_entry.mapM.eq_ok_iff _ _).mpr checks
  refuses := by
    intro raw e h
    have hsingle : (check raw).map ([·]) = .error e → Refuses e ∨ e = .tooDeep :=
      fun h => realizes_check.refuses raw e (map_singleton_eq_error_iff.mp h)
    unfold group at h
    split at h
    · exact hsingle h
    · split at h
      · exact realizes_check.mapM.refuses _ e h
      · exact realizes_check.mapM.refuses _ e h
      · exact realizes_entry.mapM.refuses _ e h
      · exact hsingle h

theorem not_spellsGroup_null
    (g : Group) :
    ¬ SpellsGroup .null g := by
  intro h
  cases h with
  | single check =>
      cases check with
      | model is =>
          cases is
      | name text nonempty =>
          cases text

/-- Shorthand for conditions gives the groups that a value stands for. -/
theorem realizes_conditions :
    Realizes SpellsConditions conditions where
  eq_ok_iff := by
    intro raw groups
    have hsingle :
        isArgPair raw = true ∨ items? raw = none → (group raw).map ([·]) = .ok groups →
          SpellsConditions raw groups := by
      intro hno h
      obtain ⟨g, hg, rfl⟩ := except_map_eq_ok_iff.mp h
      exact .single hno ((realizes_group.eq_ok_iff raw g).mp hg)
    constructor
    · intro h
      unfold conditions at h
      split at h
      · rename_i hpair
        exact hsingle (.inl hpair) h
      · rename_i hpair
        split at h
        · obtain rfl := Except.ok.inj h
          exact .null
        · exact .list ((realizes_group.mapM.eq_ok_iff _ _).mp h)
        · exact .tuple (Bool.not_eq_true _ ▸ hpair) ((realizes_group.mapM.eq_ok_iff _ _).mp h)
        · rename_i hlist htuple
          refine hsingle (.inr ?_) h
          unfold items?
          split
          · exact absurd rfl (hlist _)
          · exact absurd rfl (htuple _)
          · rfl
    · intro h
      cases h with
      | null =>
          rfl
      | list all =>
          exact (realizes_group.mapM.eq_ok_iff _ _).mpr all
      | @tuple xs _ noPair all =>
          rw [conditions, if_neg (by simp [noPair])]
          exact (realizes_group.mapM.eq_ok_iff _ _).mpr all
      | @single _ g noList hgroup =>
          have hsome : (group raw).map ([·]) = .ok [g] := by
            rw [(realizes_group.eq_ok_iff _ _).mpr hgroup]
            rfl
          unfold conditions
          split
          · exact hsome
          · rename_i hpair
            split
            · exact absurd hgroup (not_spellsGroup_null g)
            · simp [hpair, items?] at noList
            · simp [hpair, items?] at noList
            · exact hsome
  refuses := by
    intro raw e h
    have hsingle : (group raw).map ([·]) = .error e → Refuses e ∨ e = .tooDeep :=
      fun h => realizes_group.refuses raw e (map_singleton_eq_error_iff.mp h)
    unfold conditions at h
    split at h
    · exact hsingle h
    · split at h
      · cases h
      · exact realizes_group.mapM.refuses _ e h
      · exact realizes_group.mapM.refuses _ e h
      · exact hsingle h

end Realized

section Depth

variable {raw : Value}

theorem levels_le_itemsLevels
    {xs : List Value}
    {x : Value}
    (hx : x ∈ xs) :
    x.levels ≤ Value.itemsLevels xs := by
  induction xs with
  | nil =>
      cases hx
  | cons y ys ih =>
      rw [Value.itemsLevels]
      rcases List.mem_cons.mp hx with rfl | hx
      · exact Nat.le_max_left ..
      · exact Nat.le_trans (ih hx) (Nat.le_max_right ..)

/-- A value with an item that nests too deeply does so itself. -/
theorem isShallow_eq_false_of_mem
    {xs : List Value}
    (hitems : raw.levels = Value.itemsLevels xs + 1)
    (h : ∃ x ∈ xs, x.isShallow = false) :
    raw.isShallow = false := by
  obtain ⟨x, hx, hdeep⟩ := h
  have hle := levels_le_itemsLevels hx
  simp only [Value.isShallow, decide_eq_false_iff_not] at hdeep ⊢
  omega

theorem not_refuses_tooDeep :
    ¬ Refuses .tooDeep := by
  rintro (⟨_, h⟩ | ⟨_, h⟩) <;> cases h

theorem isShallow_of_check
    (h : check raw = .error .tooDeep) :
    raw.isShallow = false := by
  have hrefusal :
      ∀ v : Value, refusal .invalidCheck v = .tooDeep → v.isShallow = false := by
    intro v hv
    unfold refusal at hv
    split at hv
    · cases hv
    · rename_i hdeep
      exact Bool.not_eq_true _ ▸ hdeep
  unfold check at h
  split at h
  · cases h
  · split at h
    · cases h
    · exact absurd (refuses_of_named h) not_refuses_tooDeep
    · exact absurd (refuses_of_named h) not_refuses_tooDeep
    · split at h
      · exact absurd (refuses_of_withArg h) not_refuses_tooDeep
      · exact hrefusal _ (Except.error.inj h)
    · exact absurd (refuses_of_withArg h) not_refuses_tooDeep
    · exact hrefusal _ (Except.error.inj h)

theorem isShallow_of_group
    (h : group raw = .error .tooDeep) :
    raw.isShallow = false := by
  have hchecks :
      ∀ xs : List Value, xs.mapM check = .error .tooDeep →
        ∃ x ∈ xs, x.isShallow = false := by
    intro xs hxs
    obtain ⟨x, hx, hfail⟩ := exists_mem_of_mapM_eq_error hxs
    exact ⟨x, hx, isShallow_of_check hfail⟩
  unfold group at h
  split at h
  · exact isShallow_of_check (map_singleton_eq_error_iff.mp h)
  · split at h
    · exact isShallow_eq_false_of_mem (by rw [Value.levels]) (hchecks _ h)
    · exact isShallow_eq_false_of_mem (by rw [Value.levels]) (hchecks _ h)
    · obtain ⟨e, _, hfail⟩ := exists_mem_of_mapM_eq_error h
      exact absurd (refuses_of_withArg hfail) not_refuses_tooDeep
    · exact isShallow_of_check (map_singleton_eq_error_iff.mp h)

/-- Conditions that fail by their depth nest too deeply. -/
theorem isShallow_of_conditions
    (h : conditions raw = .error .tooDeep) :
    raw.isShallow = false := by
  have hgroups :
      ∀ xs : List Value, xs.mapM group = .error .tooDeep →
        ∃ x ∈ xs, x.isShallow = false := by
    intro xs hxs
    obtain ⟨x, hx, hfail⟩ := exists_mem_of_mapM_eq_error hxs
    exact ⟨x, hx, isShallow_of_group hfail⟩
  unfold conditions at h
  split at h
  · exact isShallow_of_group (map_singleton_eq_error_iff.mp h)
  · split at h
    · cases h
    · exact isShallow_eq_false_of_mem (by rw [Value.levels]) (hgroups _ h)
    · exact isShallow_eq_false_of_mem (by rw [Value.levels]) (hgroups _ h)
    · exact isShallow_of_group (map_singleton_eq_error_iff.mp h)

end Depth

section Groups

variable {entries : List Value} {groups : List Group}

theorem spellsCheck_toValue
    (c : Check) :
    SpellsCheck c.toValue c :=
  .model (Check.ofValue?_toValue c)

theorem text?_toValue
    (c : Check) :
    c.toValue.text? = none := by
  cases c <;> rfl

theorem isArgPair_toValues
    (g : Group) :
    isArgPair (.tuple (g.map Check.toValue)) = false := by
  match g with
  | [] =>
      rfl
  | [_] =>
      rfl
  | [c, _] =>
      simp [isArgPair, text?_toValue]
  | _ :: _ :: _ :: _ =>
      rfl

/-- Groups of checks, as a value, spell themselves. -/
theorem spellsConditions_ofGroups
    (groups : List Group) :
    SpellsConditions (Value.ofGroups groups) groups := by
  have hgroup :
      ∀ g : Group, SpellsGroup (.tuple (g.map Check.toValue)) g := by
    intro g
    refine .tuple (isArgPair_toValues g) ?_
    rw [List.forall₂_map_left_iff, List.forall₂_same]
    exact fun c _ => spellsCheck_toValue c
  refine .tuple ?_ ?_
  · match groups with
    | [] =>
        rfl
    | [_] =>
        rfl
    | [_, _] =>
        rfl
    | _ :: _ :: _ :: _ =>
        rfl
  · rw [List.forall₂_map_left_iff, List.forall₂_same]
    exact fun g _ => hgroup g

theorem conditions_ofGroups
    (groups : List Group) :
    conditions (Value.ofGroups groups) = .ok groups :=
  (realizes_conditions.eq_ok_iff _ _).mpr (spellsConditions_ofGroups groups)

/-- A list of spelled groups gives these groups. -/
theorem conditions_list
    (h : List.Forall₂ SpellsGroup entries groups) :
    conditions (.list entries) = .ok groups :=
  (realizes_conditions.eq_ok_iff _ _).mpr (.list h)

end Groups

end Shorthand

namespace Rule

section Spelled

/-- The fields of a rule that hold conditions. -/
def conditionFields : List String := ["allow", "deny"]

/-- A list of spelled groups, and the same groups as models. -/
def Spelled (v v' : Value) : Prop :=
  ∃ entries groups, List.Forall₂ Shorthand.SpellsGroup entries groups ∧
    v = .list entries ∧ v' = Value.ofGroups groups

/-- What a field holds in a rule that is spelled, and in the rule that is written with models. -/
def FieldInModels (field : Option String) (v v' : Value) : Prop :=
  v = v' ∨ (∃ f ∈ conditionFields, field = some f) ∧ Spelled v v'

/-- The second rule is the first one with models in place of spelled conditions. -/
def InModels (input input' : Entries) : Prop :=
  List.Forall₂ (fun e e' => e.1 = e'.1 ∧ FieldInModels e.1.text? e.2 e'.2) input input'

variable {input input' : Entries} {field : String}

theorem readConditions_of_spelled
    {v v' : Value}
    (h : Spelled v v') :
    readConditions v = readConditions v' := by
  obtain ⟨entries, groups, hall, rfl, rfl⟩ := h
  rw [readConditions, readConditions, Shorthand.conditions_list hall,
    Shorthand.conditions_ofGroups groups]

/-- Both rules have the same fields, each with the same value or with the same conditions. -/
theorem InModels.getText?_rel
    (h : InModels input input')
    (field : String) :
    Option.Rel (FieldInModels (some field)) (Entries.getText? input field)
      (Entries.getText? input' field) := by
  induction h with
  | nil =>
      exact .none
  | @cons e e' _ _ he _ ih =>
      obtain ⟨k, v⟩ := e
      obtain ⟨k', v'⟩ := e'
      obtain ⟨rfl, hvalue⟩ : k = k' ∧ FieldInModels k.text? v v' := he
      rw [Entries.getText?_cons, Entries.getText?_cons]
      by_cases hk : k.text? = some field
      · rw [if_pos hk, if_pos hk]
        exact .some (hk ▸ hvalue)
      · rw [if_neg hk, if_neg hk]
        exact ih

theorem InModels.getText?_eq
    (h : InModels input input')
    (hfield : field ∉ conditionFields) :
    Entries.getText? input field = Entries.getText? input' field := by
  have hrel := h.getText?_rel field
  generalize Entries.getText? input field = given at hrel ⊢
  generalize Entries.getText? input' field = given' at hrel ⊢
  cases hrel with
  | none =>
      rfl
  | some hvalue =>
      rcases hvalue with heq | ⟨⟨f, hmem, hname⟩, _⟩
      · rw [heq]
      · exact absurd (Option.some.inj hname ▸ hmem) hfield

/-- A value that is put under a name is the same in both rules. -/
theorem InModels.set
    (h : InModels input input')
    (key value : Value) :
    InModels (Entries.set input key value) (Entries.set input' key value) := by
  induction h with
  | nil =>
      exact .cons ⟨rfl, .inl rfl⟩ .nil
  | @cons e e' rest rest' he hrest ih =>
      obtain ⟨k, v⟩ := e
      obtain ⟨k', v'⟩ := e'
      obtain ⟨rfl, hvalue⟩ : k = k' ∧ FieldInModels k.text? v v' := he
      rw [Entries.set, Entries.set]
      by_cases hk : k.isSame key = true
      · rw [if_pos hk, if_pos hk]
        exact .cons ⟨rfl, .inl rfl⟩ hrest
      · rw [if_neg hk, if_neg hk]
        exact .cons ⟨rfl, hvalue⟩ ih

theorem InModels.withDefaultName
    (h : InModels input input') :
    InModels (withDefaultName input) (withDefaultName input') := by
  have hsame :
      ∀ field, field ∉ conditionFields →
        Entries.getText? input field = Entries.getText? input' field :=
    fun field hfield => h.getText?_eq hfield
  unfold Rule.withDefaultName
  dsimp only
  rw [hsame "name" (by simp [conditionFields]), hsame "object" (by simp [conditionFields]),
    hsame "action" (by simp [conditionFields])]
  split
  · exact h
  · exact h.set _ _

section Fields

variable {α : Type} (h : InModels input input')
include h

theorem InModels.required_eq
    (hfield : field ∉ conditionFields)
    (read : Value → Verdict α) :
    Verdict.required input field read = Verdict.required input' field read := by
  rw [Verdict.required, Verdict.required, h.getText?_eq hfield]

theorem InModels.optional_eq
    (hfield : field ∉ conditionFields)
    (default : α)
    (read : Value → Verdict α) :
    Verdict.optional input field default read = Verdict.optional input' field default read := by
  rw [Verdict.optional, Verdict.optional, h.getText?_eq hfield]

theorem InModels.conditions_eq
    (field : String) :
    Verdict.optional input field [] readConditions =
      Verdict.optional input' field [] readConditions := by
  have hrel := h.getText?_rel field
  rw [Verdict.optional, Verdict.optional]
  generalize Entries.getText? input field = given at hrel ⊢
  generalize Entries.getText? input' field = given' at hrel ⊢
  cases hrel with
  | none =>
      rfl
  | some hvalue =>
      dsimp only
      rcases hvalue with heq | ⟨_, hspelled⟩
      · rw [heq]
      · rw [readConditions_of_spelled hspelled]

/-- Both rules have the same keys, so the same of them are refused. -/
theorem InModels.noOthers_eq
    (fields : List String) :
    Verdict.noOthers input fields = Verdict.noOthers input' fields := by
  have hflat :
      ∀ f : Value × Value → List Problem, (∀ e e', e.1 = e'.1 → f e = f e') →
        input.flatMap f = input'.flatMap f := by
    intro f hf
    induction h with
    | nil =>
        rfl
    | cons he _ ih =>
        rw [List.flatMap_cons, List.flatMap_cons, hf _ _ he.1, ih]
  unfold Verdict.noOthers
  dsimp only
  rw [hflat _ fun e e' he => by rw [he]]

end Fields

/-- A rule that is spelled is the rule that is written with models. -/
theorem read_eq_of_inModels
    (h : InModels input input') :
    read input = read input' := by
  have hnamed := h.withDefaultName
  rw [read, read, readNamed, readNamed,
    hnamed.required_eq (by simp [conditionFields]), hnamed.required_eq (by simp [conditionFields]),
    hnamed.required_eq (by simp [conditionFields]), hnamed.conditions_eq, hnamed.conditions_eq,
    hnamed.optional_eq (by simp [conditionFields]), hnamed.optional_eq (by simp [conditionFields]),
    hnamed.optional_eq (by simp [conditionFields]), hnamed.noOthers_eq]

end Spelled

/-- **Spelled conditions.**  Groups of checks spell themselves, a list of spelled groups gives these
groups, and a rule whose conditions are spelled is the rule that is written with models. -/
theorem read_conditions_as_spelled :
    (∀ groups, Shorthand.conditions (Value.ofGroups groups) = .ok groups) ∧
      (∀ entries groups, List.Forall₂ Shorthand.SpellsGroup entries groups →
        Shorthand.conditions (.list entries) = .ok groups) ∧
      ∀ input input', InModels input input' → read input = read input' :=
  ⟨Shorthand.conditions_ofGroups, fun _ _ => Shorthand.conditions_list,
    fun _ _ => read_eq_of_inModels⟩

/-- Conditions in every spelling. -/
def spelledAllow : List Value :=
  [.list [.bool true, .text "own", .record [(.text "role", .text "editor")],
      .tuple [.text "level", .int 2], (Check.named "staff").toValue],
    .text "admin",
    .tuple [.text "level", .list [.text "low", .text "high"]],
    .record [(.text "role", .text "author"), (.text "level", .int 1)],
    .list []]

/-- The checks that `spelledAllow` stands for. -/
def allowedGroups : List Group :=
  [[.literal true, .named "own", .withArg "role" (.text "editor"), .withArg "level" (.int 2),
      .named "staff"],
    [.named "admin"],
    [.withArg "level" (.list [.text "low", .text "high"])],
    [.withArg "role" (.text "author"), .withArg "level" (.int 1)],
    []]

/-- The data of a rule on articles. -/
def articleData (allow deny : Value) : Entries :=
  Value.textEntries
    [("object", .text "article"), ("action", .text "update"), ("name", .text "article_update"),
      ("allow", allow), ("deny", deny)]

def spelledArticle : Entries :=
  articleData (.list spelledAllow) (.list [.text "banned"])

/-- The rule that `spelledArticle` stands for. -/
def articleRule : Rule where
  object := "article"
  action := "update"
  name := "article_update"
  allow := allowedGroups
  deny := [[.named "banned"]]
  preHooks := []
  metadata := []
  description := none

theorem spelledArticle_in_models :
    List.Forall₂ Shorthand.SpellsGroup spelledAllow allowedGroups ∧
      Shorthand.conditions (.list spelledAllow) = .ok allowedGroups ∧
      InModels spelledArticle
        (articleData (Value.ofGroups articleRule.allow) (Value.ofGroups articleRule.deny)) ∧
      read spelledArticle =
        read (articleData (Value.ofGroups articleRule.allow) (Value.ofGroups articleRule.deny)) ∧
      read spelledArticle = .accepted articleRule := by
  have hallow : List.Forall₂ Shorthand.SpellsGroup spelledAllow allowedGroups := by
    refine .cons (.list ?_) (.cons (.single (.name rfl (by decide)))
      (.cons (.single (.pair rfl (by decide) _)) (.cons (.entries (by decide) ?_)
        (.cons (.list .nil) .nil))))
    · exact .cons (.constant true) (.cons (.name rfl (by decide))
        (.cons (.entry _ rfl (by decide) _) (.cons (.pair rfl (by decide) _)
          (.cons (.model rfl) .nil))))
    · exact .cons ⟨"role", rfl, by decide, rfl⟩ (.cons ⟨"level", rfl, by decide, rfl⟩ .nil)
  have hdeny :
      List.Forall₂ Shorthand.SpellsGroup [.text "banned"] [[.named "banned"]] :=
    .cons (.single (.name rfl (by decide))) .nil
  have hmodels :
      InModels spelledArticle
        (articleData (Value.ofGroups articleRule.allow) (Value.ofGroups articleRule.deny)) :=
    .cons ⟨rfl, .inl rfl⟩ (.cons ⟨rfl, .inl rfl⟩
      (.cons ⟨rfl, .inl rfl⟩
        (.cons ⟨rfl, .inr ⟨⟨"allow", by simp [conditionFields], rfl⟩, _, _, hallow, rfl, rfl⟩⟩
          (.cons ⟨rfl, .inr ⟨⟨"deny", by simp [conditionFields], rfl⟩, _, _, hdeny, rfl, rfl⟩⟩
            .nil))))
  obtain ⟨_, hlist, hread⟩ := read_conditions_as_spelled
  have haccepted : read spelledArticle = .accepted articleRule := by
    have hname : Entries.getText? spelledArticle "name" = some (.text "article_update") :=
      getText?_textEntries _ _
    have hconditions :
        ∀ entries groups, List.Forall₂ Shorthand.SpellsGroup entries groups →
          readConditions (.list entries) = .accepted groups := by
      intro entries groups hall
      rw [readConditions, hlist _ _ hall]
      rfl
    have hgiven : withDefaultName spelledArticle = spelledArticle := by
      rw [withDefaultName, hname]
      rfl
    rw [read, hgiven]
    show readNamed (Value.textEntries _) = _
    rw [readNamed, Verdict.noOthers_textEntries (by simp [fieldNames]),
      Verdict.required_textEntries rfl (Verdict.name_text (by simp)),
      Verdict.required_textEntries rfl (Verdict.name_text (by simp)),
      Verdict.required_textEntries rfl (Verdict.name_text (by simp)),
      Verdict.optional_textEntries rfl (hconditions _ _ hallow),
      Verdict.optional_textEntries rfl (hconditions _ _ hdeny)]
    simp only [Verdict.optional, getText?_textEntries]
    rfl
  exact ⟨hallow, hlist _ _ hallow, hmodels, hread _ _ hmodels, haccepted⟩

end Rule

end AccessPolicy
