import AccessPolicy.Proofs.WrittenRules

/-!
# What rules hold of plain data

Data is plain if it is made of null, truth values, numbers and texts, by lists and by maps.  The
keys of such a map are neither lists nor maps, which cannot be keys.

**Inheritance.**  Shorthand takes data apart: a check holds an argument, a hook holds a module and
arguments, and metadata holds values, each of which stands somewhere in the data of the document.
So what the items of lists and the values of maps inherit, they have if the data of the document
has it (`Value.Inherited`, `PolicyDocument.holds_of_toRules`).
-/

namespace AccessPolicy

namespace Value

section Plain

/-- Whether a value is null, a truth value, a number or a text. -/
def isPlainScalar : Value → Bool
  | .null => true
  | .bool _ => true
  | .int _ => true
  | .float _ => true
  | .text _ => true
  | _ => false

mutual

/-- Whether a value is plain data: a scalar, a list, or a map whose keys are scalars. -/
def isPlain : Value → Bool
  | .list xs => arePlain xs
  | .map (.builtin .map) entries => areEntriesPlain entries
  | v => v.isPlainScalar

def arePlain : List Value → Bool
  | [] => true
  | v :: rest => isPlain v && arePlain rest

def areEntriesPlain : List (Value × Value) → Bool
  | [] => true
  | (k, v) :: rest => k.isPlainScalar && isPlain v && areEntriesPlain rest

end

theorem isPlain_list_iff
    {xs : List Value} :
    (Value.list xs).isPlain = true ↔ ∀ x ∈ xs, x.isPlain = true := by
  rw [isPlain]
  induction xs with
  | nil =>
      simp [arePlain]
  | cons x xs ih =>
      simp [arePlain, ih]

theorem isPlain_record_iff
    {entries : Entries} :
    (record entries).isPlain = true
      ↔
    ∀ e ∈ entries, e.1.isPlainScalar = true ∧ e.2.isPlain = true := by
  rw [record, isPlain]
  induction entries with
  | nil =>
      simp [areEntriesPlain]
  | cons e rest ih =>
      simp [areEntriesPlain, ih, and_assoc]

/-- Plain data is a scalar, a list, or a map of the plain type. -/
theorem isPlain_cases
    {v : Value}
    (hv : v.isPlain = true) :
    v.isPlainScalar = true ∨ (∃ xs, v = .list xs) ∨ ∃ entries, v = .record entries := by
  unfold isPlain at hv
  split at hv
  · exact .inr (.inl ⟨_, rfl⟩)
  · exact .inr (.inr ⟨_, rfl⟩)
  · exact .inl hv

theorem eq_map_of_isPlain
    {type : TypeRef}
    {entries : Entries}
    (h : (Value.map type entries).isPlain = true) :
    type = .builtin .map := by
  obtain hscalar | ⟨xs, hlist⟩ | ⟨entries', hmap⟩ := isPlain_cases h
  · cases hscalar
  · cases hlist
  · cases hmap
    rfl

theorem isWritable_list
    (xs : List Value) :
    (Value.list xs).isWritable = xs.all isWritable := by
  rw [isWritable]
  induction xs with
  | nil =>
      rfl
  | cons x xs ih =>
      rw [areWritable, List.all_cons, ih]

theorem isWritable_record
    (entries : Entries) :
    (record entries).isWritable = entries.all fun e => e.1.isWritable && e.2.isWritable := by
  have hroot : ((TypeRef.builtin .map).root == .builtin .readOnlyMap) = false := by
    decide
  rw [record, isWritable, hroot, Bool.false_or]
  induction entries with
  | nil =>
      rfl
  | cons e rest ih =>
      rw [areEntriesWritable, List.all_cons, ih]

/-- What holds of scalars, and of lists and maps if it holds of their items and values, holds of
plain data. -/
@[elab_as_elim]
theorem isPlain_induct
    {P : (v : Value) → v.isPlain = true → Prop}
    (scalar : ∀ v hv, v.isPlainScalar = true → P v hv)
    (list : ∀ xs hxs, (∀ x ∈ xs, ∃ hx, P x hx) → P (.list xs) hxs)
    (record : ∀ entries hentries, (∀ e ∈ entries, e.1.isPlainScalar = true ∧ ∃ hv, P e.2 hv) →
      P (.record entries) hentries)
    (v : Value)
    (hv : v.isPlain = true) :
    P v hv := by
  obtain hscalar | ⟨xs, rfl⟩ | ⟨entries, rfl⟩ := isPlain_cases hv
  · exact scalar v hv hscalar
  · refine list xs hv fun x hx => ?_
    have hplain := isPlain_list_iff.mp hv x hx
    exact ⟨hplain, isPlain_induct scalar list record x hplain⟩
  · refine record entries hv fun e he => ?_
    obtain ⟨hkey, hplain⟩ := isPlain_record_iff.mp hv e he
    exact ⟨hkey, hplain, isPlain_induct scalar list record e.2 hplain⟩
termination_by sizeOf v
decreasing_by
  · have hitem := List.sizeOf_lt_of_mem hx
    simp_all
    omega
  · have hentry := List.sizeOf_lt_of_mem he
    obtain ⟨k, v'⟩ := e
    simp_all [Value.record]
    omega

end Plain

section Inheritance

/-- A property of plain data that is inherited: what counts as false has it, and if a list or a
map has it, then the items or values do. -/
structure Inherited (P : Value → Prop) : Prop where
  isPlain : ∀ v, P v → v.isPlain = true
  of_isTrue_eq_false : ∀ v, v.isPlain = true → v.isTrue = false → P v
  item : ∀ xs, P (.list xs) → ∀ x ∈ xs, P x
  value : ∀ type entries, P (.map type entries) → ∀ e ∈ entries, P e.2

theorem inherited_isPlain :
    Inherited fun v => v.isPlain = true where
  isPlain := fun _ h => h
  of_isTrue_eq_false := fun _ h _ => h
  item := fun _ h => isPlain_list_iff.mp h
  value := by
    intro type entries hplain e he
    obtain rfl := eq_map_of_isPlain hplain
    exact (isPlain_record_iff.mp hplain e he).2

theorem inherited_isWritable :
    Inherited fun v => v.isPlain = true ∧ v.isWritable = true where
  isPlain := fun _ h => h.1
  of_isTrue_eq_false := by
    intro v hv hfalse
    refine ⟨hv, ?_⟩
    cases v with
    | int i =>
        have hzero : i = 0 := by
          simpa [isTrue] using hfalse
        subst hzero
        rfl
    | list xs =>
        obtain rfl : xs = [] := by
          simpa [isTrue] using hfalse
        rfl
    | map type entries =>
        obtain rfl : entries = [] := by
          simpa [isTrue] using hfalse
        simp [isWritable, areEntriesWritable]
    | _ =>
        first
          | rfl
          | cases hv
  item := by
    rintro xs ⟨hplain, hwritable⟩ x hx
    rw [isWritable_list, List.all_eq_true] at hwritable
    exact ⟨isPlain_list_iff.mp hplain x hx, hwritable x hx⟩
  value := by
    rintro type entries ⟨hplain, hwritable⟩ e he
    obtain rfl := eq_map_of_isPlain hplain
    have hall := (isWritable_record entries).symm.trans hwritable
    rw [List.all_eq_true] at hall
    exact ⟨(isPlain_record_iff.mp hplain e he).2, (Bool.and_eq_true_iff.mp (hall e he)).2⟩

end Inheritance
end Value

section Values

/-- The values that a check holds. -/
def Check.values : Check → List Value
  | .withArg _ arg => [arg]
  | _ => []

/-- The values that a hook holds beside its module. -/
def Hook.values (h : Hook) : List Value :=
  h.fixedArgs.map Prod.snd

/-- The module that a hook names; null if it names none. -/
def Hook.module (h : Hook) : Value :=
  h.moduleIn .null

/-- The arguments of the checks and hooks of a rule. -/
def Rule.arguments (r : Rule) : List Value :=
  r.allow.flatten.flatMap Check.values ++ r.deny.flatten.flatMap Check.values ++
    r.preHooks.flatMap Hook.values

/-- The values that a rule holds: arguments and metadata. -/
def Rule.values (r : Rule) : List Value :=
  r.arguments ++ r.metadata.map Prod.snd

end Values

/-- What each result of an operation has, all results of the operation on a list have. -/
theorem forall_of_mapM
    {α β : Type}
    {f : α → Except Failure β}
    {Q : β → Prop}
    {xs : List α}
    {ys : List β}
    (h : xs.mapM f = .ok ys)
    (hall : ∀ x ∈ xs, ∀ y, f x = .ok y → Q y) :
    ∀ y ∈ ys, Q y := by
  intro y hy
  obtain ⟨x, hx, hxy⟩ := exists_of_mem_right (mapM_eq_ok_iff_forall₂.mp h) hy
  exact hall x hx y hxy

/-- What is read of a map is read of the values of its entries. -/
theorem Verdict.exists_mem_of_mapOf
    {α : Type}
    {read : Value → Verdict α}
    {v : Value}
    {items : List (String × α)}
    (h : mapOf read v = .accepted items) :
    ∃ type entries, v = .map type entries ∧
      ∀ x ∈ items, ∃ e ∈ entries, read e.2 = .accepted x.2 := by
  obtain ⟨type, entries, all, rfl, rfl, hall⟩ := mapOf_eq_accepted_iff.mp h
  refine ⟨type, entries, rfl, fun x hx => ?_⟩
  obtain ⟨e, he, hread⟩ := exists_of_mem_right hall (mem_of_mem_lastNamed hx)
  exact ⟨e, he, hread.2⟩

section Forms

variable {raw : Value}

theorem Check.ofValue?_of_isPlain
    (hraw : raw.isPlain = true) :
    Check.ofValue? raw = none := by
  obtain hscalar | ⟨xs, rfl⟩ | ⟨entries, rfl⟩ := Value.isPlain_cases hraw
  · cases raw <;> first | rfl | cases hscalar
  · rfl
  · rfl

theorem Hook.ofValue?_of_isPlain
    (hraw : raw.isPlain = true) :
    Hook.ofValue? raw = none := by
  obtain hscalar | ⟨xs, rfl⟩ | ⟨entries, rfl⟩ := Value.isPlain_cases hraw
  · cases raw <;> first | rfl | cases hscalar
  · rfl
  · rfl

end Forms

namespace Shorthand

variable {P : Value → Prop} {raw : Value}

section Checks

theorem values_of_named
    {name : Value}
    {c : Check}
    (h : named name = .ok c) :
    c.values = [] := by
  rw [named, Verdict.toExcept_eq_ok_iff, Check.readNamed, Verdict.seqLeft_eq_accepted_iff] at h
  obtain ⟨n, _, rfl⟩ := Verdict.map_eq_accepted_iff.mp h.1
  rfl

theorem values_of_withArg
    {name arg : Value}
    {c : Check}
    (h : withArg name arg = .ok c) :
    c.values = [arg] := by
  have harg :
      Verdict.optional (Value.textEntries [("name", name), ("arg", arg)]) "arg" .null
          Verdict.anything =
        .accepted arg :=
    Verdict.optional_textEntries rfl (Verdict.anything_eq arg) .null
  rw [withArg, Verdict.toExcept_eq_ok_iff, Check.readWithArg,
    Verdict.seqLeft_eq_accepted_iff] at h
  obtain ⟨f, a, hf, ha, rfl⟩ := Verdict.seq_eq_accepted_iff.mp h.1
  obtain ⟨n, _, rfl⟩ := Verdict.map_eq_accepted_iff.mp hf
  obtain rfl := Verdict.accepted.inj (harg.symm.trans ha)
  rfl

theorem isArgPair_of_isPlain
    (hraw : raw.isPlain = true) :
    isArgPair raw = false := by
  obtain hscalar | ⟨xs, rfl⟩ | ⟨entries, rfl⟩ := Value.isPlain_cases hraw
  · cases raw <;> first | rfl | cases hscalar
  · rfl
  · rfl

variable (hP : Value.Inherited P)
include hP

/-- A check inherits from the value that stands for it. -/
theorem inherit_of_check
    {c : Check}
    (hraw : P raw)
    (h : check raw = .ok c) :
    ∀ v ∈ c.values, P v := by
  have hplain := hP.isPlain _ hraw
  unfold check at h
  rw [Check.ofValue?_of_isPlain hplain] at h
  dsimp only at h
  -- Tags and tuples are no plain data.
  split at h
  · obtain rfl := Except.ok.inj h
    simp [Check.values]
  · simp [values_of_named h]
  · cases hplain
  · cases hplain
  · rename_i type name arg
    rw [values_of_withArg h, List.forall_mem_singleton]
    exact hP.value _ _ hraw _ List.mem_cons_self
  · cases h

theorem inherit_of_group
    {g : Group}
    (hraw : P raw)
    (h : group raw = .ok g) :
    ∀ c ∈ g, ∀ v ∈ c.values, P v := by
  have hplain := hP.isPlain _ hraw
  have hone :
      ∀ g, (check raw).map ([·]) = .ok g → ∀ c ∈ g, ∀ v ∈ c.values, P v := by
    intro g hg
    obtain ⟨c, hc, rfl⟩ := except_map_eq_ok_iff.mp hg
    simpa using inherit_of_check hP hraw hc
  unfold group at h
  rw [isArgPair_of_isPlain hplain, if_neg Bool.false_ne_true] at h
  split at h
  · rename_i xs
    exact forall_of_mapM h fun x hx c hc => inherit_of_check hP (hP.item _ hraw x hx) hc
  · cases hplain
  · refine forall_of_mapM h fun e he c hc => ?_
    rw [values_of_withArg hc, List.forall_mem_singleton]
    exact hP.value _ _ hraw e he
  · exact hone g h

theorem inherit_of_conditions
    {groups : List Group}
    (hraw : P raw)
    (h : conditions raw = .ok groups) :
    ∀ g ∈ groups, ∀ c ∈ g, ∀ v ∈ c.values, P v := by
  have hplain := hP.isPlain _ hraw
  unfold conditions at h
  rw [isArgPair_of_isPlain hplain, if_neg Bool.false_ne_true] at h
  split at h
  · obtain rfl := Except.ok.inj h
    simp
  · exact forall_of_mapM h fun x hx g hg => inherit_of_group hP (hP.item _ hraw x hx) hg
  · cases hplain
  · obtain ⟨g, hg, rfl⟩ := except_map_eq_ok_iff.mp h
    exact List.forall_mem_singleton.mpr (inherit_of_group hP hraw hg)

end Checks

section Hooks

theorem values_of_namedHook
    {name : Value}
    {h : Hook}
    (hh : namedHook name = .ok h) :
    h.module = .null ∧ h.values = [] := by
  rw [namedHook, Verdict.toExcept_eq_ok_iff, Hook.readNamed, Verdict.seqLeft_eq_accepted_iff] at hh
  obtain ⟨n, _, rfl⟩ := Verdict.map_eq_accepted_iff.mp hh.1
  exact ⟨rfl, rfl⟩

theorem values_of_moduleHook
    {module name : Value}
    {h : Hook}
    (hh : moduleHook module name = .ok h) :
    h.module = module ∧ h.values = [] := by
  rw [moduleHook, Verdict.toExcept_eq_ok_iff, Hook.readInModule,
    Verdict.seqLeft_eq_accepted_iff] at hh
  obtain ⟨f, n, hf, _, rfl⟩ := Verdict.seq_eq_accepted_iff.mp hh.1
  obtain ⟨m, hm, rfl⟩ := Verdict.map_eq_accepted_iff.mp hf
  have hmodule :
      Verdict.required (Value.textEntries [("module", module), ("name", name)]) "module"
          Verdict.anything =
        .accepted module :=
    Verdict.required_textEntries rfl (Verdict.anything_eq module)
  obtain rfl := Verdict.accepted.inj (hmodule.symm.trans hm)
  refine ⟨?_, rfl⟩
  cases module <;> rfl

/-- Fixed arguments are values of the map that gives them. -/
theorem values_of_moduleArgsHook
    {module name args : Value}
    {h : Hook}
    (hh : moduleArgsHook module name args = .ok h) :
    h.module = module ∧
      ∃ type entries, args = .map type entries ∧ ∀ v ∈ h.values, ∃ e ∈ entries, e.2 = v := by
  unfold moduleArgsHook at hh
  split at hh
  · rename_i type entries
    rw [Verdict.toExcept_eq_ok_iff, Hook.readInModuleWith, Verdict.seqLeft_eq_accepted_iff] at hh
    obtain ⟨f, fixed, hf, hfixed, rfl⟩ := Verdict.seq_eq_accepted_iff.mp hh.1
    obtain ⟨g, n, hg, _, rfl⟩ := Verdict.seq_eq_accepted_iff.mp hf
    obtain ⟨m, hm, rfl⟩ := Verdict.map_eq_accepted_iff.mp hg
    have hmodule :
        Verdict.required
            (Value.textEntries
              [("module", module), ("name", name), ("args", Value.record entries)])
            "module" Verdict.anything =
          .accepted module :=
      Verdict.required_textEntries rfl (Verdict.anything_eq module)
    obtain rfl := Verdict.accepted.inj (hmodule.symm.trans hm)
    have hargs :
        Entries.getText?
            (Value.textEntries
              [("module", module), ("name", name), ("args", Value.record entries)])
            "args" =
          some (Value.record entries) :=
      getText?_textEntries _ _
    refine ⟨by cases module <;> rfl, type, entries, rfl, fun v hv => ?_⟩
    obtain ⟨x, hx, rfl⟩ := List.mem_map.mp hv
    obtain ⟨w, hw, hread⟩ | ⟨hw, _⟩ := Verdict.optional_eq_accepted_iff.mp hfixed
    · obtain ⟨_, _, rfl, hall⟩ := Verdict.exists_mem_of_mapOf hread
      obtain ⟨e, he, haccepted⟩ := hall x hx
      cases hargs.symm.trans hw
      exact ⟨e, he, Verdict.accepted.inj haccepted⟩
    · cases hargs.symm.trans hw
  · split at hh
    · obtain ⟨_, _, hh⟩ := except_bind_eq_ok_iff.mp hh
      cases hh
    · cases hh

variable (hP : Value.Inherited P)
include hP

theorem inherit_of_moduleArgsHook
    {module name args : Value}
    {h : Hook}
    (hmodule : P module)
    (hargs : P args)
    (hh : moduleArgsHook module name args = .ok h) :
    P h.module ∧ ∀ v ∈ h.values, P v := by
  obtain ⟨hm, type, entries, rfl, hvalues⟩ := values_of_moduleArgsHook hh
  refine ⟨hm ▸ hmodule, fun v hv => ?_⟩
  obtain ⟨e, he, rfl⟩ := hvalues v hv
  exact hP.value _ _ hargs e he

theorem inherit_of_hookOfMap
    {type : TypeRef}
    {entries : Entries}
    {h : Hook}
    (hentries : P (.map type entries))
    (hh : hookOfMap entries = .ok h) :
    P h.module ∧ ∀ v ∈ h.values, P v := by
  have hnull : P .null := hP.of_isTrue_eq_false .null rfl rfl
  have hget :
      ∀ key, P ((Entries.getText? entries key).getD .null) := by
    intro key
    cases hfound : Entries.getText? entries key with
    | none =>
        exact hnull
    | some v =>
        obtain ⟨e, he, rfl⟩ := Entries.exists_mem_of_get? hfound
        exact hP.value _ _ hentries e he
  unfold hookOfMap at hh
  dsimp only at hh
  split at hh
  · rename_i name _ _
    split at hh
    · obtain ⟨hm, hv⟩ := values_of_namedHook hh
      rw [hm, hv]
      exact ⟨hnull, by simp⟩
    · obtain ⟨hm, hv⟩ := values_of_moduleHook hh
      rw [hm, hv]
      exact ⟨hget "module", by simp⟩
    · exact inherit_of_moduleArgsHook hP (hget "module") (hget "args") hh
  · cases hh

/-- A hook inherits from the value that stands for it. -/
theorem inherit_of_hook
    {h : Hook}
    (hraw : P raw)
    (hh : hook raw = .ok h) :
    P h.module ∧ ∀ v ∈ h.values, P v := by
  have hplain := hP.isPlain _ hraw
  unfold hook at hh
  rw [Hook.ofValue?_of_isPlain hplain] at hh
  dsimp only at hh
  -- Here, too, tags and tuples are left out, so that only lists give a module by its place.
  split at hh
  · obtain ⟨hm, hv⟩ := values_of_namedHook hh
    rw [hm, hv]
    exact ⟨hP.of_isTrue_eq_false .null rfl rfl, by simp⟩
  · cases hplain
  · exact inherit_of_hookOfMap hP hraw hh
  · obtain ⟨hm, hv⟩ := values_of_moduleHook hh
    rw [hm, hv]
    exact ⟨hP.item _ hraw _ List.mem_cons_self, by simp⟩
  · cases hplain
  · have hitems := hP.item _ hraw
    simp only [List.forall_mem_cons] at hitems
    exact inherit_of_moduleArgsHook hP hitems.1 hitems.2.2.1 hh
  · cases hplain
  · cases hh

theorem inherit_of_hooks
    {hs : List Hook}
    (hraw : P raw)
    (h : hooks raw = .ok hs) :
    ∀ h ∈ hs, P h.module ∧ ∀ v ∈ h.values, P v := by
  have hplain := hP.isPlain _ hraw
  unfold hooks at h
  split at h
  · obtain rfl := Except.ok.inj h
    simp
  · exact forall_of_mapM h fun x hx h hh => inherit_of_hook hP (hP.item _ hraw x hx) hh
  · cases hplain
  · obtain ⟨k, hk, rfl⟩ := except_map_eq_ok_iff.mp h
    exact List.forall_mem_singleton.mpr (inherit_of_hook hP hraw hk)

end Hooks

section Metadata

variable (hP : Value.Inherited P)
include hP

theorem inherit_of_metadataPair
    {p : Value × Value}
    (hraw : P raw)
    (h : metadataPair raw = .ok p) :
    P p.2 := by
  have hplain := hP.isPlain _ hraw
  unfold metadataPair at h
  split at h
  · obtain rfl := Except.ok.inj h
    exact hP.value _ _ hraw _ List.mem_cons_self
  · obtain rfl := Except.ok.inj h
    exact hP.item _ hraw _ (List.mem_cons_of_mem _ List.mem_cons_self)
  · cases hplain
  · cases h

/-- The values of metadata inherit; its keys do not, since they become texts. -/
theorem inherit_of_metadata
    {pairs : Entries}
    (hraw : P raw)
    (h : metadata raw = .ok pairs) :
    ∀ p ∈ pairs, P p.2 := by
  unfold metadata at h
  split at h
  · obtain rfl := Except.ok.inj h
    simp
  · split at h
    · obtain rfl := Except.ok.inj h
      exact List.forall_mem_map.mpr (hP.value _ _ hraw)
    · cases h
  · rename_i hnull hmap
    obtain hscalar | ⟨xs, rfl⟩ | ⟨entries, rfl⟩ := Value.isPlain_cases (hP.isPlain _ hraw)
    · cases raw with
      | text s =>
          -- The characters of a text are no pairs.
          refine forall_of_mapM h fun x hx p hp => ?_
          obtain ⟨c, _, rfl⟩ := List.mem_map.mp hx
          cases hp
      | null =>
          exact absurd rfl hnull
      | _ =>
          first
            | cases h
            | cases hscalar
    · exact forall_of_mapM h fun x hx p hp => inherit_of_metadataPair hP (hP.item _ hraw x hx) hp
    · exact absurd rfl (hmap _ entries)

end Metadata

end Shorthand

section Documents

variable {P : Value → Prop}

/-- The shorthand of an action has a property. -/
structure ActionDefinition.Holds (P : Value → Prop) (a : ActionDefinition) : Prop where
  allow : P a.allow
  deny : P a.deny
  preHooks : P a.preHooks
  metadata : P a.metadata

/-- The values that a rule holds have a property, and so have the modules of its hooks. -/
structure Rule.Holds (P : Value → Prop) (r : Rule) : Prop where
  values : ∀ v ∈ r.values, P v
  modules : ∀ h ∈ r.preHooks, P h.module

variable (hP : Value.Inherited P)
include hP

/-- A rule inherits from the action that declares it. -/
theorem ActionEntry.Declares.holds
    {x : ActionEntry}
    {r : Rule}
    (hr : x.Declares r)
    (hx : x.definition.Holds P) :
    r.Holds P := by
  have hallow := Shorthand.inherit_of_conditions hP hx.allow hr.allow
  have hdeny := Shorthand.inherit_of_conditions hP hx.deny hr.deny
  have hhooks := Shorthand.inherit_of_hooks hP hx.preHooks hr.preHooks
  obtain ⟨pairs, hpairs, hall⟩ := hr.metadata
  have hmetadata : ∀ m ∈ r.metadata, P m.2 := by
    intro m hm
    obtain ⟨p, hp, _, heq⟩ := exists_of_mem_right hall hm
    exact heq ▸ Shorthand.inherit_of_metadata hP hx.metadata hpairs p hp
  refine ⟨fun v hv => ?_, fun h hh => (hhooks h hh).1⟩
  simp only [Rule.values, Rule.arguments, List.mem_append, List.mem_flatMap, List.mem_flatten,
    List.mem_map] at hv
  obtain ((⟨c, ⟨g, hg, hc⟩, hv⟩ | ⟨c, ⟨g, hg, hc⟩, hv⟩) | ⟨h, hh, hv⟩) | ⟨m, hm, rfl⟩ := hv
  · exact hallow g hg c hc v hv
  · exact hdeny g hg c hc v hv
  · exact (hhooks h hh).2 v hv
  · exact hmetadata m hm

theorem Verdict.inherit_of_optional
    {type : TypeRef}
    {entries : Entries}
    {field : String}
    {v : Value}
    (hentries : P (.map type entries))
    (h : optional entries field (.list []) anything = .accepted v) :
    P v := by
  obtain ⟨w, hw, hread⟩ | ⟨_, rfl⟩ := optional_eq_accepted_iff.mp h
  · obtain ⟨e, he, rfl⟩ := Entries.exists_mem_of_get? hw
    exact accepted.inj hread ▸ hP.value _ _ hentries e he
  · exact hP.of_isTrue_eq_false _ rfl rfl

/-- What the values of a map give when they are read, all that is read of a field with such a map
has. -/
theorem Verdict.forall_of_optional_mapOf
    {α : Type}
    {read : Value → Verdict α}
    {Q : α → Prop}
    {type : TypeRef}
    {entries : Entries}
    {field : String}
    {items : List (String × α)}
    (hread : ∀ {w a}, P w → read w = .accepted a → Q a)
    (hentries : P (.map type entries))
    (h : optional entries field [] (mapOf read) = .accepted items) :
    ∀ x ∈ items, Q x.2 := by
  obtain ⟨w, hw, hmap⟩ | ⟨_, rfl⟩ := optional_eq_accepted_iff.mp h
  · obtain ⟨e, he, rfl⟩ := Entries.exists_mem_of_get? hw
    have hvalue := hP.value _ _ hentries e he
    obtain ⟨type', entries', heq, hall⟩ := exists_mem_of_mapOf hmap
    intro x hx
    obtain ⟨e', he', haccepted⟩ := hall x hx
    exact hread (hP.value _ _ (heq ▸ hvalue) e' he') haccepted
  · simp

theorem ActionDefinition.holds_of_read
    {v : Value}
    {a : ActionDefinition}
    (hv : P v)
    (h : read v = .accepted a) :
    a.Holds P := by
  obtain hscalar | ⟨xs, rfl⟩ | ⟨entries, rfl⟩ := Value.isPlain_cases (hP.isPlain _ hv)
  · cases v <;> first | cases h | cases hscalar
  · cases h
  · have hfields : readFields entries = .accepted a := h
    obtain ⟨hmk, _⟩ := Verdict.seqLeft_eq_accepted_iff.mp hfields
    obtain ⟨_, metadata, hothers, hmetadata, rfl⟩ := Verdict.seq_eq_accepted_iff.mp hmk
    obtain ⟨_, hooks, hdenies, hhooks, rfl⟩ := Verdict.seq_eq_accepted_iff.mp hothers
    obtain ⟨_, deny, hallows, hdeny, rfl⟩ := Verdict.seq_eq_accepted_iff.mp hdenies
    obtain ⟨_, allow, hdescription, hallow, rfl⟩ := Verdict.seq_eq_accepted_iff.mp hallows
    obtain ⟨description, _, rfl⟩ := Verdict.map_eq_accepted_iff.mp hdescription
    exact ⟨Verdict.inherit_of_optional hP hv hallow, Verdict.inherit_of_optional hP hv hdeny,
      Verdict.inherit_of_optional hP hv hhooks, Verdict.inherit_of_optional hP hv hmetadata⟩

theorem ObjectDefinition.holds_of_read
    {v : Value}
    {o : ObjectDefinition}
    (hv : P v)
    (h : read v = .accepted o) :
    ∀ a ∈ o.actions, a.2.Holds P := by
  obtain hscalar | ⟨xs, rfl⟩ | ⟨entries, rfl⟩ := Value.isPlain_cases (hP.isPlain _ hv)
  · cases v <;> first | cases h | cases hscalar
  · cases h
  · have hfields : readFields entries = .accepted o := h
    obtain ⟨hmk, _⟩ := Verdict.seqLeft_eq_accepted_iff.mp hfields
    obtain ⟨f, actions, hf, hactions, rfl⟩ := Verdict.seq_eq_accepted_iff.mp hmk
    obtain ⟨path, _, rfl⟩ := Verdict.map_eq_accepted_iff.mp hf
    exact Verdict.forall_of_optional_mapOf hP (fun hw => ActionDefinition.holds_of_read hP hw)
      hv hactions

theorem PolicyDocument.inherit_orEmpty
    {v : Value}
    (hv : P v) :
    P (orEmpty v) := by
  unfold orEmpty
  split
  · exact hv
  · exact hP.of_isTrue_eq_false _ rfl rfl

/-- A document is read from the fields of a map. -/
theorem PolicyDocument.exists_fields_of_validate
    {v : Value}
    {d : PolicyDocument}
    (hv : P v)
    (h : validate (orEmpty v) = .ok d) :
    ∃ entries, P (.record entries) ∧ readFields entries = .accepted d := by
  have hempty := inherit_orEmpty hP hv
  rw [validate, Verdict.toExcept_eq_ok_iff] at h
  generalize orEmpty v = w at hempty h
  obtain hscalar | ⟨xs, rfl⟩ | ⟨entries, rfl⟩ := Value.isPlain_cases (hP.isPlain _ hempty)
  · cases w <;> first | cases h | cases hscalar
  · cases h
  · exact ⟨entries, hempty, h⟩

theorem PolicyDocument.holds_of_validate
    {v : Value}
    {d : PolicyDocument}
    (hv : P v)
    (h : validate (orEmpty v) = .ok d) :
    ∀ x ∈ d.entries, x.definition.Holds P := by
  obtain ⟨entries, hentries, hread⟩ := exists_fields_of_validate hP hv h
  exact forall_mem_entries.mpr
    (Verdict.forall_of_optional_mapOf hP (fun hw => ObjectDefinition.holds_of_read hP hw)
      hentries (objects_of_readFields hread).2)

/-- **Rules inherit from documents.**  What the data of a document has and hands on to its parts,
the values in the rules of the document have. -/
theorem PolicyDocument.holds_of_toRules
    {v : Value}
    {d : PolicyDocument}
    {rules : List Rule}
    (hv : P v)
    (h : validate (orEmpty v) = .ok d)
    (hrules : d.toRules = .ok rules) :
    ∀ r ∈ rules, r.Holds P := by
  intro r hr
  obtain ⟨x, hx, hdeclares⟩ := exists_of_mem_right (forall₂_declares_of_toRules hrules) hr
  exact hdeclares.holds hP (holds_of_validate hP hv h x hx)

end Documents
end AccessPolicy
