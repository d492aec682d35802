import AccessPolicy.Proofs.Requests
import AccessPolicy.Proofs.TableBuild
import AccessPolicy.Proofs.TextEntries

/-!
# Forms of a check module

The functions of a policy may be given as a map, as a table, as a module, as an object with
members, or by the path of a module.  `Presents` relates a table of functions to each of these
forms.

**Names.**  A module and an object have more members than they are given.  Names that none has of
its own accord are found alike in all forms (`Environment.resolve_of_presents`); under
`universalNames` a form may find something that the table does not have.

**Building.**  `EndAlike` relates operations that give the same result or fail alike, that is,
with one failure but for the label of the module that it tells.  It goes through sequences and
lists, and so from single references up to tables.
-/

namespace AccessPolicy

/-- A class of the host program without members. -/
def plainClass (name : String) : TypeRef :=
  .declared name .plain [] none false (.builtin .object)

/-- The names that modules and objects have without being given them. -/
def universalNames : List String :=
  ["__class__", "__delattr__", "__dict__", "__dir__", "__doc__", "__eq__", "__format__",
    "__ge__", "__getattribute__", "__getstate__", "__gt__", "__hash__", "__init__",
    "__init_subclass__", "__le__", "__loader__", "__lt__", "__module__", "__name__", "__ne__",
    "__new__", "__package__", "__reduce__", "__reduce_ex__", "__repr__", "__setattr__",
    "__sizeof__", "__spec__", "__str__", "__subclasshook__", "__weakref__"]

/-- Among them are the members of every object that can be called. -/
theorem memberNames_subset :
    Builtin.object.memberNames ⊆ universalNames := by
  decide +kernel

/-- The forms in which a table of functions is given: a map, a table of the library, a module, an
object with members, an instance of a class without any, computed ones included, or the path of a
module. -/
inductive Presents (env : Environment) (table : Fields) : Value → Prop
  | map (type : TypeRef) :
      Presents env table (.map type (Value.textEntries table))
  | registry (id name : String) :
      Presents env table (.module ⟨id, .table, name⟩ table)
  | file (id name : String) :
      Presents env table (.module ⟨id, .file, name⟩ table)
  | object (id name : String) :
      Presents env table (.module ⟨id, .objectForm, name⟩ table)
  | entity (i : Nat) (name : String)
      (hclass : ∀ n, env.classMember? (plainClass name) n = none)
      (hhandling : env.handlingOf (plainClass name) = {}) :
      Presents env table (.entity i (plainClass name) table)
  | path (p id name : String)
      (himport : env.importModule p = .ok (.module ⟨id, .file, name⟩ table)) :
      Presents env table (.text p)

theorem numberData?_of_root
    {n : String}
    {v : Value}
    (hv : v.typeOf = .builtin .module ∨ ∃ name, v.typeOf = plainClass name) :
    v.numberData? n = none := by
  have hnumber :
      v.isInstance (.builtin .int) = false ∧ v.isInstance (.builtin .float) = false := by
    unfold Value.isInstance
    rcases hv with h | ⟨name, h⟩
    · rw [h]
      decide
    · rw [h]
      simp [TypeRef.isSubtypeOf, plainClass, TypeRef.lineage, Builtin.bases]
  unfold Value.numberData?
  simp [hnumber.1, hnumber.2]

section Names

variable {n : String} (hn : n ∉ universalNames)
include hn

theorem commonData?_of_not_mem
    (v : Value) :
    v.commonData? n = none := by
  have hne :
      n ≠ "__class__" ∧ n ≠ "__doc__" ∧ n ≠ "__hash__" ∧ n ≠ "__dict__" ∧ n ≠ "__module__" ∧
        n ≠ "__weakref__" := by
    refine ⟨?_, ?_, ?_, ?_, ?_, ?_⟩
    all_goals
      rintro rfl
      exact hn (by simp [universalNames])
  unfold Value.commonData?
  split <;> simp_all

theorem namingData?_of_not_mem
    {r : ModuleRef}
    (hr : r.form ≠ .typeForm)
    (members : Fields) :
    (Value.module r members).namingData? n = none := by
  have hne : n ≠ "__name__" ∧ n ≠ "__loader__" ∧ n ≠ "__package__" ∧ n ≠ "__spec__" := by
    refine ⟨?_, ?_, ?_, ?_⟩
    all_goals
      rintro rfl
      exact hn (by simp [universalNames])
  unfold Value.namingData?
  split <;> simp_all

theorem hasCallable_of_not_mem
    {t : TypeRef}
    (ht : t = .builtin .module ∨ ∃ name, t = plainClass name) :
    t.hasCallable n = false := by
  have hhash : n ≠ "__hash__" := by
    rintro rfl
    exact hn (by simp [universalNames])
  have hobject : n ∉ Builtin.object.memberNames :=
    fun h => hn (memberNames_subset h)
  rcases ht with rfl | ⟨name, rfl⟩
  · have hmodule : n = "" ∨ n ∉ Builtin.module.memberNames := by
      have hnames : Builtin.module.memberNames = [""] := by
        decide +kernel
      rw [hnames, List.mem_singleton]
      exact em (n = "")
    rw [TypeRef.hasCallable, if_neg hhash]
    simp only [TypeRef.lineage, Builtin.bases]
    rw [List.map_cons, List.map_nil, List.any_cons, List.any_cons, List.any_nil]
    simp only [List.contains_eq_mem, decide_eq_false hobject, Bool.and_false, Bool.or_false]
    rcases hmodule with rfl | hmodule
    · rfl
    · rw [decide_eq_false hmodule, Bool.and_false]
  · simp [TypeRef.hasCallable, if_neg hhash, TypeRef.lineage, plainClass, Builtin.bases, hobject]

/-- A module has no member of such a name unless it is given one. -/
theorem givenMember?_module
    {r : ModuleRef}
    (hr : r.form = .file ∨ r.form = .objectForm)
    (members : Fields) :
    (Value.module r members).givenMember? n = none := by
  have hform : r.form ≠ .typeForm := by
    rcases hr with h | h <;> simp [h]
  have htype :
      (Value.module r members).typeOf = .builtin .module ∨
        ∃ name, (Value.module r members).typeOf = plainClass name := by
    rcases hr with h | h
    · exact .inl (by simp [Value.typeOf, h])
    · exact .inr ⟨r.name, by simp [Value.typeOf, h, plainClass]⟩
  simp [Value.givenMember?, commonData?_of_not_mem hn, numberData?_of_root htype,
    namingData?_of_not_mem hn hform, hasCallable_of_not_mem hn htype, hform]

/-- Neither has an instance of a class without members. -/
theorem givenMember?_entity
    (i : Nat)
    (name : String)
    (fields : Fields) :
    (Value.entity i (plainClass name) fields).givenMember? n = none := by
  have htype :
      (Value.entity i (plainClass name) fields).typeOf = .builtin .module ∨
        ∃ name', (Value.entity i (plainClass name) fields).typeOf = plainClass name' :=
    .inr ⟨name, rfl⟩
  have hclass : (plainClass name).hasCallable n = false :=
    hasCallable_of_not_mem hn (.inr ⟨name, rfl⟩)
  simp [Value.givenMember?, commonData?_of_not_mem hn, numberData?_of_root htype,
    Value.namingData?, Value.typeOf, hclass]

/-- A module has the members that it is given. -/
theorem Environment.lookup?_module
    (env : Environment)
    {r : ModuleRef}
    (hr : r.form = .file ∨ r.form = .objectForm)
    (members : Fields) :
    env.lookup? (.module r members) n = Fields.get? members n := by
  have hform : r.form ≠ .table := by
    rcases hr with h | h <;> simp [h]
  rw [lookup?, if_neg hform, member?, declaredMember?, if_neg hform, givenMember?_module hn hr,
    Option.or_none]

/-- In every form, the function of such a name is the one that the table has. -/
theorem Environment.resolve_of_presents
    {env : Environment}
    {table : Fields}
    {m : Value}
    (hm : Presents env table m) :
    env.resolve m n = .ok ((Fields.get? table n).filter Value.isCallable) := by
  cases hm with
  | map type =>
      simp [resolve, Value.text?, lookup?, getText?_textEntries]
  | registry id name =>
      simp [resolve, Value.text?, lookup?]
  | file id name =>
      simp [resolve, Value.text?, env.lookup?_module hn]
  | object id name =>
      simp [resolve, Value.text?, env.lookup?_module hn]
  | entity i name hclass hhandling =>
      simp [resolve, Value.text?, lookup?, member?, declaredMember?, hclass, hhandling,
        givenMember?_entity hn]
  | path p id name himport =>
      have hpath : env.importPath p = .ok (.module ⟨id, .file, name⟩ table) := by
        simp [importPath, himport]
      have hfound :
          env.lookup? (.module ⟨id, .file, name⟩ table) n = Fields.get? table n :=
        env.lookup?_module hn (.inl rfl) table
      simp only [resolve, Value.text?, hpath, ← hfound]
      rfl

end Names

/-- The name of a form is a text, so that failures can tell it. -/
theorem Presents.isWritable_moduleLabel
    {env : Environment}
    {table : Fields}
    {m : Value}
    (hnames : ∀ f ∈ table, f.1 ∉ universalNames)
    (hm : Presents env table m) :
    m.moduleLabel.isWritable = true := by
  have hunnamed : Fields.get? table "__name__" = none := by
    rw [Fields.get?, Option.map_eq_none_iff, List.find?_eq_none]
    intro f hf hname
    refine hnames f hf ?_
    rw [eq_of_beq hname]
    simp [universalNames]
  have hlabel :
      ∀ v : Value, ∀ s : String, ((v.nameText?).getD (.text s)).isWritable = true := by
    intro v s
    cases hname : v.nameText? with
    | none =>
        rfl
    | some t =>
        have htext : t.text?.isSome = true := (Option.filter_eq_some_iff.mp hname).2
        cases t <;> simp_all [Value.text?, Value.isWritable]
  cases hm with
  | map type =>
      simpa [Value.moduleLabel, Value.ownMember?] using hlabel _ _
  | registry id name =>
      simpa [Value.moduleLabel, Value.ownMember?] using hlabel _ _
  | file id name =>
      simp [Value.moduleLabel, Value.ownMember?, hunnamed, Value.isWritable]
  | object id name =>
      simpa [Value.moduleLabel, Value.ownMember?, hunnamed] using hlabel _ _
  | entity i name hclass hhandling =>
      simpa [Value.moduleLabel, Value.ownMember?, hunnamed] using hlabel _ _
  | path p id name himport =>
      rfl

/-- Failures that differ at most in the label of the module that lacks a check or a hook. -/
inductive Failure.SameButLabel : Failure → Failure → Prop
  | same (e : Failure) :
      SameButLabel e e
  | check (policy name rule label label' : Value) :
      SameButLabel (ofCause (.unknownCheck policy name rule label))
        (ofCause (.unknownCheck policy name rule label'))
  | hook (policy name rule label label' : Value) :
      SameButLabel (ofCause (.unknownHook policy name rule label))
        (ofCause (.unknownHook policy name rule label'))

/-- Operations that give the same result, or fail but for a label alike. -/
inductive EndAlike
    {α : Type} :
    Except Failure α → Except Failure α → Prop
  | result (a : α) :
      EndAlike (.ok a) (.ok a)
  | failure {e e' : Failure} (h : e.SameButLabel e') :
      EndAlike (.error e) (.error e')

namespace EndAlike

variable {α β : Type}

theorem refl
    (x : Except Failure α) :
    EndAlike x x := by
  cases x with
  | error e =>
      exact .failure (.same e)
  | ok a =>
      exact .result a

theorem bind
    {x y : Except Failure α}
    {f g : α → Except Failure β}
    (hxy : EndAlike x y)
    (hfg : ∀ a, EndAlike (f a) (g a)) :
    EndAlike (x >>= f) (y >>= g) := by
  cases hxy with
  | result a =>
      exact hfg a
  | failure h =>
      exact .failure h

theorem mapM
    {f g : α → Except Failure β}
    {xs : List α}
    (hfg : ∀ a ∈ xs, EndAlike (f a) (g a)) :
    EndAlike (xs.mapM f) (xs.mapM g) := by
  induction xs with
  | nil =>
      exact .result []
  | cons a as ih =>
      rw [List.mapM_cons, List.mapM_cons]
      refine (hfg a List.mem_cons_self).bind fun b => ?_
      refine (ih fun a ha => hfg a (List.mem_cons_of_mem _ ha)).bind fun bs => ?_
      exact .result (b :: bs)

end EndAlike

/-- A check or hook that looks up an ordinary name if it looks in the check module. -/
def Caller.HasOrdinaryName (ref : Caller) : Prop :=
  (∀ module, ref.moduleIn module = module) → ∀ n, ref.name? = some n → n ∉ universalNames

/-- Rules whose checks and hooks ask the check module for ordinary names only. -/
def Rule.AsksOrdinaryNames (r : Rule) : Prop :=
  ∀ ref ∈ r.references, ref.HasOrdinaryName

section Binding

variable
  {env : Environment}
  {table : Fields}
  {m m' : Value}
  {rule policy : String}
  (hnames : ∀ f ∈ table, f.1 ∉ universalNames)
  (hm : Presents env table m)
  (hm' : Presents env table m')
include hnames hm hm'

theorem Condition.endAlike_bindCheck
    {c : Check}
    (hc : (Caller.check c).HasOrdinaryName) :
    EndAlike (bindCheck env m rule policy c) (bindCheck env m' rule policy c) := by
  cases hname : c.name? with
  | none =>
      simp only [bindCheck, hname]
      exact .result _
  | some n =>
      have hn : n ∉ universalNames := hc (fun _ => rfl) n hname
      simp only [bindCheck, hname]
      rw [Environment.resolve_of_presents hn hm, Environment.resolve_of_presents hn hm']
      cases (Fields.get? table n).filter Value.isCallable with
      | some f =>
          exact .result _
      | none =>
          refine .failure ?_
          rw [unknownCheck, if_pos (hm.isWritable_moduleLabel hnames), unknownCheck,
            if_pos (hm'.isWritable_moduleLabel hnames)]
          exact .check ..

theorem Hydration.endAlike_bindHook
    {h : Hook}
    (hh : (Caller.hook h).HasOrdinaryName) :
    EndAlike (bindHook env m rule policy h) (bindHook env m' rule policy h) := by
  have hmodule :
      (∀ k, h.moduleIn k = k) ∨ ∃ own, ∀ k, h.moduleIn k = own := by
    unfold Hook.moduleIn
    split
    · exact .inl fun _ => rfl
    · exact .inl fun _ => rfl
    · exact .inl fun _ => rfl
    · exact .inr ⟨_, fun _ => rfl⟩
    · exact .inr ⟨_, fun _ => rfl⟩
  rcases hmodule with hshared | ⟨own, hown⟩
  · have hn : h.name ∉ universalNames := hh hshared _ rfl
    rw [bindHook, bindHook, hshared, hshared, Environment.resolve_of_presents hn hm,
      Environment.resolve_of_presents hn hm']
    cases (Fields.get? table h.name).filter Value.isCallable with
    | some f =>
        exact .result _
    | none =>
        refine .failure ?_
        simp only [unknownHook, hshared, hm.isWritable_moduleLabel hnames,
          hm'.isWritable_moduleLabel hnames, if_true]
        exact .hook ..
  · -- A hook with a module of its own is not looked up in the check module.
    simp only [bindHook, unknownHook, hown]
    exact .refl _

theorem CompiledRule.endAlike_ofRule
    {r : Rule}
    (hr : r.AsksOrdinaryNames) :
    EndAlike (ofRule env m policy r) (ofRule env m' policy r) := by
  have hgroups :
      ∀ groups : List Group, (∀ g ∈ groups, ∀ c ∈ g, Caller.check c ∈ r.references) →
        EndAlike (Condition.bind env m r.name policy groups)
          (Condition.bind env m' r.name policy groups) := by
    intro groups hmem
    refine .mapM fun g hg => .mapM fun c hc => ?_
    exact Condition.endAlike_bindCheck hnames hm hm' (hr _ (hmem g hg c hc))
  have hhooks :
      EndAlike (Hydration.bind env m r.name policy r.preHooks)
        (Hydration.bind env m' r.name policy r.preHooks) := by
    refine .mapM fun h hh => Hydration.endAlike_bindHook hnames hm hm' (hr _ ?_)
    exact List.mem_append_right _ (List.mem_map_of_mem hh)
  refine (hgroups r.allow ?_).bind fun allow => (hgroups r.deny ?_).bind fun deny =>
    hhooks.bind fun hooks => .refl _
  · intro g hg c hc
    simp only [Rule.references, List.mem_append, List.mem_map]
    exact .inl (.inl ⟨c, List.mem_flatten_of_mem hg hc, rfl⟩)
  · intro g hg c hc
    simp only [Rule.references, List.mem_append, List.mem_map]
    exact .inl (.inr ⟨c, List.mem_flatten_of_mem hg hc, rfl⟩)

/-- The two passes for duplicates do not look at the check module. -/
theorem RuleTable.endAlike_ofRules
    {rules : List Rule}
    (hrules : ∀ r ∈ rules, r.AsksOrdinaryNames) :
    EndAlike (ofRules env rules m policy) (ofRules env rules m' policy) := by
  refine (EndAlike.refl _).bind fun _ => (EndAlike.refl _).bind fun _ => ?_
  refine (EndAlike.mapM fun r hr => ?_).bind fun compiled => .refl _
  exact CompiledRule.endAlike_ofRule hnames hm hm' (hrules r hr)

end Binding

namespace Policy

/-- The requests to a policy see its table and its settings for failures, and nothing of its
check module. -/
theorem requests_withCheckModule
    (env : Environment)
    (p : Policy)
    (m : Value)
    (name : String)
    (subject object options : Value) :
    let q := { p with config := { p.config with checkModule := m } }
    q.decide env name subject object options = p.decide env name subject object options ∧
    q.isAuthorized env name subject object options =
      p.isAuthorized env name subject object options ∧
    q.authorize env name subject object options = p.authorize env name subject object options ∧
    q.enforce env name subject object options = p.enforce env name subject object options :=
  ⟨rfl, rfl, rfl, rfl⟩

/-- A table of functions with ordinary names serves rules that ask for ordinary names alike in
each of its forms: a policy is built with all or with none, the policies answer every request
with the same run, and failures to build differ at most in the label of the module. -/
theorem forms_agree
    {env : Environment}
    {table : Fields}
    (hnames : ∀ f ∈ table, f.1 ∉ universalNames)
    {m m' : Value}
    (hm : Presents env table m)
    (hm' : Presents env table m')
    {rules : List Rule}
    (hrules : ∀ r ∈ rules, r.AsksOrdinaryNames)
    (config : PolicyConfig)
    (schemas : List (String × Value)) :
    let build := fun v => ofRules env rules { config with checkModule := v } schemas
    ((∃ p, build m = .ok p) ↔ ∃ p, build m' = .ok p) ∧
    (∀ p p', build m = .ok p → build m' = .ok p' →
      p'.table = p.table ∧
      ∀ name subject object options,
        p'.decide env name subject object options = p.decide env name subject object options ∧
        p'.isAuthorized env name subject object options =
          p.isAuthorized env name subject object options ∧
        p'.authorize env name subject object options =
          p.authorize env name subject object options ∧
        p'.enforce env name subject object options =
          p.enforce env name subject object options) ∧
    ∀ e e', build m = .error e → build m' = .error e' → e.SameButLabel e' := by
  intro build
  have htables :
      EndAlike (RuleTable.ofRules env rules m config.name)
        (RuleTable.ofRules env rules m' config.name) :=
    RuleTable.endAlike_ofRules hnames hm hm' hrules
  have hbuild :
      ∀ v, build v = RuleTable.ofRules env rules v config.name >>= fun t =>
        .ok ⟨t, { config with checkModule := v }, schemas⟩ :=
    fun _ => rfl
  rw [hbuild, hbuild]
  generalize RuleTable.ofRules env rules m config.name = x at htables
  generalize RuleTable.ofRules env rules m' config.name = y at htables
  cases htables with
  | result t =>
      refine ⟨⟨fun _ => ⟨_, rfl⟩, fun _ => ⟨_, rfl⟩⟩, ?_, ?_⟩
      · intro p p' hp hp'
        cases hp
        cases hp'
        exact ⟨rfl, fun name subject object options =>
          requests_withCheckModule env ⟨t, { config with checkModule := m }, schemas⟩ m' name
            subject object options⟩
      · intro e e' he
        cases he
  | failure h =>
      refine ⟨?_, ?_, ?_⟩
      · constructor <;> rintro ⟨p, hp⟩ <;> cases hp
      · intro p p' hp
        cases hp
      · intro e e' he he'
        cases he
        cases he'
        exact h

section Newsroom

/-- The functions of the newsroom as a table, whose forms are given below. -/
def newsroomFunctions : Fields :=
  [("load", .function ⟨"load", 0⟩), ("role", .function ⟨"role", 1⟩),
    ("locked", .function ⟨"locked", 2⟩)]

/-- The newsroom with a module of its functions that can be imported. -/
def openNewsroom : Environment :=
  { newsroom with
    importable :=
      [("newsroom.checks", .module ⟨"newsroom.checks", .file, "newsroom.checks"⟩
        newsroomFunctions)] }

/-- Articles are deleted by whoever owns them, which no function of the newsroom tells. -/
def ownerRule : Rule :=
  { updateRule with action := "delete", name := "article_delete", allow := [[.named "owner"]] }

/-- Articles are printed by anybody, if a text of them can be made. -/
def printRule : Rule :=
  { updateRule with action := "print", name := "article_print", allow := [[.named "__str__"]] }

/-- A policy of the newsroom is built with its functions by path as it is with their table, and
its rule for owners fails for the same check. -/
theorem newsroom_forms_agree :
    (∃ p p',
      ofRules openNewsroom [updateRule] { checkModule := newsroomChecks } [] = .ok p ∧
      ofRules openNewsroom [updateRule] { checkModule := .text "newsroom.checks" } [] = .ok p' ∧
      p'.decide openNewsroom "article_update" (.text "writer") .null .null =
        p.decide openNewsroom "article_update" (.text "writer") .null .null) ∧
    ∃ e e',
      ofRules openNewsroom [ownerRule] { checkModule := newsroomChecks } [] = .error e ∧
      ofRules openNewsroom [ownerRule] { checkModule := .text "newsroom.checks" } [] =
        .error e' ∧
      e.SameButLabel e' := by
  have hnames : ∀ f ∈ newsroomFunctions, f.1 ∉ universalNames := by
    simp [newsroomFunctions, universalNames]
  have htable : Presents openNewsroom newsroomFunctions newsroomChecks :=
    .registry "newsroom" "checks"
  have hpath : Presents openNewsroom newsroomFunctions (.text "newsroom.checks") :=
    .path "newsroom.checks" "newsroom.checks" "newsroom.checks" rfl
  have hall :
      ∀ r ∈ [updateRule, ownerRule], ∀ n ∈ r.references.filterMap Caller.name?,
        n ∉ universalNames := by
    decide +kernel
  have hordinary :
      ∀ r ∈ [updateRule, ownerRule], r.AsksOrdinaryNames := by
    intro r hr ref href _ n hn
    exact hall r hr n (List.mem_filterMap.mpr ⟨ref, href, hn⟩)
  have hwriters : ∀ r ∈ [updateRule], r.AsksOrdinaryNames :=
    fun r hr => hordinary r (by simp_all)
  have howners : ∀ r ∈ [ownerRule], r.AsksOrdinaryNames :=
    fun r hr => hordinary r (by simp_all)
  have hupdate := forms_agree hnames htable hpath hwriters {} []
  have howner := forms_agree hnames htable hpath howners {} []
  refine ⟨?_, ?_⟩
  · have hbuilt :
        ∃ p, ofRules openNewsroom [updateRule] { checkModule := newsroomChecks } [] = .ok p :=
      ⟨_, rfl⟩
    obtain ⟨p', hp'⟩ := hupdate.1.mp hbuilt
    obtain ⟨p, hp⟩ := hbuilt
    exact ⟨p, p', hp, hp', ((hupdate.2.1 p p' hp hp').2 _ _ _ _).1⟩
  · have hfails :
        ∃ e, ofRules openNewsroom [ownerRule] { checkModule := newsroomChecks } [] = .error e :=
      ⟨_, rfl⟩
    obtain ⟨e, he⟩ := hfails
    cases hpathed :
        ofRules openNewsroom [ownerRule] { checkModule := .text "newsroom.checks" } [] with
    | ok p' =>
        obtain ⟨p, hp⟩ := howner.1.mpr ⟨p', hpathed⟩
        cases he.symm.trans hp
    | error e' =>
        exact ⟨e, e', he, rfl, howner.2.2 e e' he hpathed⟩

/-- Under a name that every object has, an object finds a function where a map has none. -/
theorem forms_differ_on_universal_name :
    (∀ f ∈ newsroomFunctions, f.1 ∉ universalNames ∧ f.2.isCallable = true) ∧
    Presents newsroom newsroomFunctions
      (.module ⟨"newsroom", .objectForm, "Checks"⟩ newsroomFunctions) ∧
    Presents newsroom newsroomFunctions
      (.map (.builtin .map) (Value.textEntries newsroomFunctions)) ∧
    (∃ p, ofRules newsroom [printRule]
      { checkModule := .module ⟨"newsroom", .objectForm, "Checks"⟩ newsroomFunctions } [] =
        .ok p) ∧
    ∀ p, ofRules newsroom [printRule]
      { checkModule := .map (.builtin .map) (Value.textEntries newsroomFunctions) } [] ≠ .ok p := by
  have hobject :
      (ofRules newsroom [printRule]
        { checkModule := .module ⟨"newsroom", .objectForm, "Checks"⟩ newsroomFunctions }
        []).toOption.isSome = true := by
    decide +kernel
  have hmap :
      (ofRules newsroom [printRule]
        { checkModule := .map (.builtin .map) (Value.textEntries newsroomFunctions) }
        []).toOption.isSome = false := by
    decide +kernel
  refine ⟨?_, .object _ _, .map _, ?_, ?_⟩
  · simp [newsroomFunctions, universalNames, Value.isCallable]
  · obtain ⟨p, hp⟩ := Option.isSome_iff_exists.mp hobject
    exact ⟨p, toOption_eq_some_iff.mp hp⟩
  · intro p hp
    rw [toOption_eq_some_iff.mpr hp] at hmap
    cases hmap

end Newsroom

end Policy

end AccessPolicy
