import AccessPolicy.Proofs.Decision
import AccessPolicy.Proofs.Shorthand.Spellings

/-!
# What values spell as hooks

A hook without arguments, to be found in the check module, is spelled in many ways: by its name
alone, with no module, with the check module itself, with empty arguments, and as a map.
`SpellsHook` has them all.  They give different hooks.

**Runs.**  Bound hooks that call the same functions with the same fixed arguments run alike: the
same calls with the same outcome, except that the failure of a hook that returned no pair tells
which hook it was (`Hydration.RunsAlike`).  This is shown for one hook and carried along a chain of
them (`Hydration.runsAlike_hydrate`).

**Spellings.**  All spellings of a hook run alike, and all spellings of a hook with arguments give
the same hook (`hook_spellings_run_alike`).
-/

namespace AccessPolicy

namespace Hydration

section Alike

/-- Two hooks call the same function with the same fixed arguments. -/
def CallAlike (b b' : BoundHook) : Prop :=
  b.function = b'.function ∧ b.hook.fixedArgs = b'.hook.fixedArgs

/-- The outcomes of two runs are the same, or corresponding hooks returned the same value, which
is no pair.  The failures then differ in the hook that they tell, or in that one of the hooks
cannot be told. -/
inductive OutcomesAgree (bound bound' : List BoundHook) :
    Except Failure (Value × Value) → Except Failure (Value × Value) → Prop
  | same
      (x : Except Failure (Value × Value)) :
      OutcomesAgree bound bound' x x
  | noPair
      {b b' : BoundHook}
      (corresponding : (b, b') ∈ bound.zip bound')
      {v : Value}
      (noPair : ∀ s o, v ≠ .tuple [s, o]) :
      OutcomesAgree bound bound' (.error (b.invalidResult v)) (.error (b'.invalidResult v))

/-- Two runs have the same events, and the same outcome but for the hook that a failure tells. -/
def RunsAlike (bound bound' : List BoundHook) (x x' : Run (Value × Value)) : Prop :=
  x.events = x'.events ∧ OutcomesAgree bound bound' x.outcome x'.outcome

variable {b b' : BoundHook} {bound bound' : List BoundHook}

theorem RunsAlike.refl
    (x : Run (Value × Value)) :
    RunsAlike bound bound' x x :=
  ⟨rfl, .same _⟩

theorem OutcomesAgree.mono
    {more more' : List BoundHook}
    (hmore : ∀ p ∈ bound.zip bound', p ∈ more.zip more')
    {x x' : Except Failure (Value × Value)}
    (h : OutcomesAgree bound bound' x x') :
    OutcomesAgree more more' x x' := by
  cases h with
  | same =>
      exact .same _
  | noPair corresponding noPair =>
      exact .noPair (hmore _ corresponding) noPair

/-- What follows two runs that are alike is alike if it is for each pair they may give. -/
theorem RunsAlike.bind
    {x x' : Run (Value × Value)}
    (h : RunsAlike bound bound' x x')
    {f f' : Value × Value → Run (Value × Value)}
    (hrest : ∀ p, RunsAlike bound bound' (f p) (f' p)) :
    RunsAlike bound bound' (x >>= f) (x' >>= f') := by
  obtain ⟨events, outcome⟩ := x
  obtain ⟨events', outcome'⟩ := x'
  obtain ⟨hevents, houtcome⟩ := h
  obtain rfl : events = events' := hevents
  cases houtcome with
  | same =>
      cases outcome with
      | ok p =>
          obtain ⟨hfollowing, hlast⟩ := hrest p
          exact ⟨congrArg (events ++ ·) hfollowing, hlast⟩
      | error e =>
          exact .refl _
  | noPair corresponding noPair =>
      exact ⟨rfl, .noPair corresponding noPair⟩

/-- Hooks that call alike run alike. -/
theorem runsAlike_run
    (h : CallAlike b b')
    (env : Environment)
    (options : Entries)
    (subject object : Value) :
    RunsAlike [b] [b'] (b.run env options subject object) (b'.run env options subject object) := by
  obtain ⟨hfunction, hargs⟩ := h
  have hcall :
      env.callValue b.function (b.hook.callArguments options subject object) =
        env.callValue b'.function (b'.hook.callArguments options subject object) := by
    rw [hfunction, Hook.callArguments, Hook.callArguments, hargs]
  rw [BoundHook.run, BoundHook.run, hcall]
  obtain ⟨events, outcome⟩ := env.callValue b'.function _
  cases outcome with
  | error e =>
      exact .refl _
  | ok v =>
      refine ⟨rfl, ?_⟩
      show OutcomesAgree [b] [b'] (b.pairOf v) (b'.pairOf v)
      unfold BoundHook.pairOf
      split
      · exact .same _
      · rename_i hpair
        exact .noPair List.mem_cons_self fun s o heq => hpair s o heq

variable (hall : List.Forall₂ CallAlike bound bound')
include hall

/-- Chains of hooks that call alike, one by one, run alike. -/
theorem runsAlike_runAll
    (env : Environment)
    (options : Entries)
    (subject object : Value) :
    RunsAlike bound bound' (runAll env options bound subject object)
      (runAll env options bound' subject object) := by
  induction hall generalizing subject object with
  | nil =>
      exact .refl _
  | @cons b b' rest rest' hb _ ih =>
      have hfirst :
          RunsAlike (b :: rest) (b' :: rest') (b.run env options subject object)
            (b'.run env options subject object) := by
        obtain ⟨hevents, houtcome⟩ := runsAlike_run hb env options subject object
        refine ⟨hevents, houtcome.mono fun p hp => ?_⟩
        obtain rfl := List.mem_singleton.mp hp
        exact List.mem_cons_self
      rw [runAll, runAll]
      refine hfirst.bind fun p => ?_
      obtain ⟨hevents, houtcome⟩ := ih p.1 p.2
      refine ⟨hevents, houtcome.mono fun q hq => ?_⟩
      rw [List.zip_cons_cons]
      exact List.mem_cons_of_mem _ hq

theorem runsAlike_hydrate
    (env : Environment)
    (options subject object : Value) :
    RunsAlike bound bound' (hydrate env options bound subject object)
      (hydrate env options bound' subject object) := by
  have hempty : bound.isEmpty = bound'.isEmpty := by
    cases hall <;> rfl
  unfold hydrate
  rw [hempty]
  split
  · exact .refl _
  · cases optionEntries options with
    | error e =>
        exact .refl _
    | ok entries =>
        exact runsAlike_runAll hall env entries subject object

end Alike

end Hydration

namespace Shorthand

section Models

variable {module name : Value} {n : String} (hname : name.text? = some n) (hn : n ≠ "")
include hname hn

theorem name_eq_accepted :
    Verdict.name name = .accepted n :=
  Verdict.name_eq_accepted_iff.mpr
    ⟨Verdict.text_eq_accepted_iff.mpr (Value.readable?_of_text? hname), hn⟩

theorem namedHook_eq :
    namedHook name = .ok (.named n) := by
  show (Hook.readNamed (Value.textEntries [("name", name)])).toExcept _ = _
  rw [Verdict.toExcept_eq_ok_iff, Hook.readNamed, Verdict.noOthers_textEntries (by simp),
    Verdict.required_textEntries rfl (name_eq_accepted hname hn)]
  rfl

theorem moduleHook_eq
    (module : Value) :
    moduleHook module name = .ok (.inModule module n) := by
  show (Hook.readInModule (Value.textEntries [("module", module), ("name", name)])).toExcept _ = _
  rw [Verdict.toExcept_eq_ok_iff, Hook.readInModule, Verdict.noOthers_textEntries (by simp),
    Verdict.required_textEntries rfl (Verdict.anything_eq module),
    Verdict.required_textEntries rfl (name_eq_accepted hname hn)]
  rfl

/-- The entries of a map with text keys, under their texts. -/
def HasTextArgs (entries : Entries) (args : Fields) : Prop :=
  List.Forall₂ (fun e f => e.1.text? = some f.1 ∧ e.2 = f.2) entries args ∧
    (args.map Prod.fst).Nodup

/-- A hook with a map of arguments is made if their names are texts. -/
theorem moduleArgsHook_eq
    {entries : Entries}
    {args : Fields}
    (hargs : HasTextArgs entries args)
    (type : TypeRef)
    (module : Value) :
    moduleArgsHook module name (.map type entries) = .ok (.inModuleWith module n args) := by
  obtain ⟨hall, hnodup⟩ := hargs
  have hread :
      Verdict.mapOf Verdict.anything (Value.record entries) = .accepted args := by
    rw [Verdict.mapOf_eq_accepted_iff]
    refine ⟨_, entries, args, rfl, (Verdict.lastNamed_of_nodup hnodup).symm, hall.imp ?_⟩
    rintro e f ⟨htext, hvalue⟩
    exact ⟨Verdict.text_eq_accepted_iff.mpr (Value.readable?_of_text? htext),
      hvalue ▸ Verdict.anything_eq _⟩
  show
    (Hook.readInModuleWith
      (Value.textEntries
        [("module", module), ("name", name), ("args", Value.record entries)])).toExcept _ = _
  rw [Verdict.toExcept_eq_ok_iff, Hook.readInModuleWith, Verdict.noOthers_textEntries (by simp),
    Verdict.required_textEntries rfl (Verdict.anything_eq module),
    Verdict.required_textEntries rfl (name_eq_accepted hname hn),
    Verdict.optional_textEntries rfl hread]
  rfl

end Models

section HookForms

/-- A map tells the name, the module and the arguments of a hook, and nothing else; what it does
not tell is null. -/
structure HasFields (entries : Entries) (module name args : Value) : Prop where
  known : ∀ e ∈ entries, ∃ key ∈ hookKeys, e.1.text? = some key
  function : Entries.getText? entries "function" = some name
  module : (Entries.getText? entries "module").getD .null = module
  args : (Entries.getText? entries "args").getD .null = args

/-- A value has three parts: it is a list or a tuple of them, or a map. -/
inductive HasParts : Value → Value → Value → Value → Prop
  | items
      {v module name args : Value}
      (three : items? v = some [module, name, args]) :
      HasParts v module name args
  | fields
      {entries : Entries}
      {module name args : Value}
      (type : TypeRef)
      (has : HasFields entries module name args) :
      HasParts (.map type entries) module name args

/-- What a value spells as a hook without arguments, for a policy with this check module. -/
inductive SpellsHook (checkModule : Value) (n : String) : Value → Hook → Prop
  | name
      {v : Value}
      (text : v.text? = some n) :
      SpellsHook checkModule n v (.named n)
  | pair
      {v module name : Value}
      (two : items? v = some [module, name])
      (own : module = .null ∨ module = checkModule)
      (text : name.text? = some n) :
      SpellsHook checkModule n v (.inModule module n)
  | noArgs
      {v module name : Value}
      {type : TypeRef}
      (parts : HasParts v module name (.map type []))
      (own : module = .null ∨ module = checkModule)
      (text : name.text? = some n) :
      SpellsHook checkModule n v (.inModuleWith module n [])
  | noModule
      {entries : Entries}
      {name : Value}
      (type : TypeRef)
      (has : HasFields entries .null name .null)
      (text : name.text? = some n) :
      SpellsHook checkModule n (.map type entries) (.named n)
  | ownModule
      {entries : Entries}
      {name : Value}
      (type : TypeRef)
      (has : HasFields entries checkModule name .null)
      (given : checkModule ≠ .null)
      (text : name.text? = some n) :
      SpellsHook checkModule n (.map type entries) (.inModule checkModule n)

variable {v module name args : Value} {entries : Entries}

/-- The hook that the parts of a map stand for. -/
def hookOfParts (module name args : Value) : Except Failure Hook :=
  match args, module with
  | .null, .null => namedHook name
  | .null, m => moduleHook m name
  | args, m => moduleArgsHook m name args

theorem hookOfMap_eq
    (h : HasFields entries module name args) :
    hookOfMap entries = hookOfParts module name args := by
  unfold hookOfMap
  dsimp only
  split
  · rename_i hname
    obtain rfl := Option.some.inj (h.function.symm.trans hname)
    rw [h.module, h.args]
    rfl
  · rename_i hnone
    refine (hnone name (List.all_eq_true.mpr fun e he => ?_) h.function).elim
    obtain ⟨key, hkey, htext⟩ := h.known e he
    rw [htext]
    exact List.contains_iff_mem.mpr hkey

theorem hook_of_map
    {type : TypeRef} :
    hook (.map type entries) = hookOfMap entries := by
  rfl

theorem hook_of_pair
    (h : items? v = some [module, name]) :
    hook v = moduleHook module name := by
  unfold items? at h
  split at h
  · obtain rfl := Option.some.inj h
    rfl
  · obtain rfl := Option.some.inj h
    rfl
  · cases h

/-- All ways to give three parts are read alike, if the last one is a map. -/
theorem hook_of_parts
    {type : TypeRef}
    {given : Entries}
    (h : HasParts v module name (.map type given)) :
    hook v = moduleArgsHook module name (.map type given) := by
  cases h with
  | items three =>
      unfold items? at three
      split at three
      · obtain rfl := Option.some.inj three
        rfl
      · obtain rfl := Option.some.inj three
        rfl
      · cases three
  | fields _ has =>
      rw [hook_of_map, hookOfMap_eq has]
      rfl

/-- A map with text keys, if it has no others than those of hooks. -/
theorem hasFields_textEntries
    {given : Fields}
    (hknown : ∀ f ∈ given, f.1 ∈ hookKeys)
    (hfunction : Fields.get? given "function" = some name) :
    HasFields (Value.textEntries given) ((Fields.get? given "module").getD .null) name
      ((Fields.get? given "args").getD .null) where
  known := by
    intro e he
    obtain ⟨f, hf, rfl⟩ := List.mem_map.mp he
    exact ⟨f.1, hknown f hf, rfl⟩
  function := by
    rw [getText?_textEntries, hfunction]
  module := by
    rw [getText?_textEntries]
  args := by
    rw [getText?_textEntries]

variable {checkModule : Value} {n : String} {h : Hook}

/-- A spelled hook is read. -/
theorem SpellsHook.hook_eq
    (hn : n ≠ "")
    (hspells : SpellsHook checkModule n v h) :
    hook v = .ok h := by
  cases hspells with
  | name text =>
      have hnamed := namedHook_eq text hn
      cases v with
      | text s =>
          exact hnamed
      | tag t =>
          exact hnamed
      | _ =>
          cases text
  | pair two own text =>
      rw [hook_of_pair two, moduleHook_eq text hn]
  | noArgs parts own text =>
      rw [hook_of_parts parts, moduleArgsHook_eq text hn ⟨.nil, .nil⟩]
  | noModule type has text =>
      rw [hook_of_map, hookOfMap_eq has]
      exact namedHook_eq text hn
  | ownModule type has given text =>
      rw [hook_of_map, hookOfMap_eq has, ← moduleHook_eq text hn]
      cases checkModule with
      | null =>
          exact absurd rfl given
      | _ =>
          rfl

/-- A hook that names no module, or the check module, is found in the check module. -/
theorem moduleIn_of_own
    (own : module = .null ∨ module = checkModule)
    (n : String) :
    (Hook.inModule module n).moduleIn checkModule = checkModule ∧
      ∀ args, (Hook.inModuleWith module n args).moduleIn checkModule = checkModule := by
  obtain rfl | rfl := own
  · exact ⟨rfl, fun _ => rfl⟩
  · cases module <;> exact ⟨rfl, fun _ => rfl⟩

/-- A spelled hook calls a function of the check module without fixed arguments. -/
theorem SpellsHook.calls
    (hspells : SpellsHook checkModule n v h) :
    h.name = n ∧ h.moduleIn checkModule = checkModule ∧ h.fixedArgs = [] := by
  cases hspells with
  | name text =>
      exact ⟨rfl, rfl, rfl⟩
  | pair two own text =>
      exact ⟨rfl, (moduleIn_of_own own n).1, rfl⟩
  | noArgs parts own text =>
      exact ⟨rfl, (moduleIn_of_own own n).2 [], rfl⟩
  | noModule type has text =>
      exact ⟨rfl, rfl, rfl⟩
  | ownModule type has given text =>
      exact ⟨rfl, (moduleIn_of_own (.inr rfl) n).1, rfl⟩

/-- The failure of a spelled hook can be written if the module can. -/
theorem SpellsHook.isWritable
    (hspells : SpellsHook checkModule n v h)
    (hlabel : checkModule.moduleLabel.isWritable = true) :
    h.isWritable = true := by
  have hnone : Value.null.moduleLabel.isWritable = true := by
    simp [Value.moduleLabel, Value.isWritable]
  have hempty : (Value.ofFields []).isWritable = true := by
    simp [Value.ofFields, Value.record, Value.textEntries, Value.isWritable,
      Value.areEntriesWritable]
  cases hspells with
  | name text =>
      rfl
  | pair two own text =>
      obtain rfl | rfl := own
      · exact hnone
      · exact hlabel
  | noArgs parts own text =>
      obtain rfl | rfl := own
      · simp [Hook.isWritable, hnone, hempty]
      · simp [Hook.isWritable, hlabel, hempty]
  | noModule type has text =>
      rfl
  | ownModule type has given text =>
      exact hlabel

end HookForms

section Agreement

variable {env : Environment} {checkModule f : Value} {n : String}

/-- A spelled hook is bound to the function of its name in the check module. -/
theorem SpellsHook.bind_eq
    {v : Value}
    {h : Hook}
    (hspells : SpellsHook checkModule n v h)
    (hfound : env.resolve checkModule n = .ok (some f))
    (rule policy : String) :
    Hydration.bind env checkModule rule policy [h] = .ok [⟨h, f⟩] := by
  obtain ⟨hname, hmodule, _⟩ := hspells.calls
  have hhook : Hydration.bindHook env checkModule rule policy h = .ok ⟨h, f⟩ := by
    rw [Hydration.bindHook, hname, hmodule, hfound]
    rfl
  rw [Hydration.bind, List.mapM_cons, hhook]
  rfl

theorem SpellsHook.callAlike
    {v v' : Value}
    {h h' : Hook}
    (hspells : SpellsHook checkModule n v h)
    (hspells' : SpellsHook checkModule n v' h') :
    Hydration.CallAlike ⟨h, f⟩ ⟨h', f⟩ :=
  ⟨rfl, hspells.calls.2.2.trans hspells'.calls.2.2.symm⟩

/-- Hooks, as a value, stand for themselves. -/
theorem hooks_ofHooks
    (hs : List Hook) :
    hooks (Value.ofHooks hs) = .ok hs := by
  have hread : (hs.map Hook.toValue).mapM Hook.ofValue? = some hs := by
    induction hs with
    | nil =>
        rfl
    | cons h rest ih =>
        simp [List.mapM_cons, ih]
  simp [hooks, Value.ofHooks, hread]

/-- If the name of the check module cannot be written, then a hook that is spelled without the
module is told by a failure, and one that is spelled with it fails as the name does. -/
theorem invalidResult_of_unwritable
    (hlabel : checkModule.moduleLabel.isWritable = false)
    (n : String)
    (f result : Value) :
    BoundHook.invalidResult ⟨.named n, f⟩ result =
        Failure.ofCause (.invalidHookResult (.text n) (.text result.typeName)) ∧
      BoundHook.invalidResult ⟨.inModule checkModule n, f⟩ result = .unwritable := by
  constructor
  · rfl
  · simp [BoundHook.invalidResult, Hook.isWritable, hlabel]

/-- **Spelled hooks.**  All spellings of a hook of the check module are read, are bound to the
same function, and run alike; a failure tells the hook if the name of the module can be written.
If it cannot, the failures of two spellings may be of different kinds, and this is the one corner
where they are (`invalidResult_of_unwritable`).  All spellings of a hook with arguments are read as
the same hook, and hooks that were read stand for themselves. -/
theorem hook_spellings_run_alike
    (hn : n ≠ "")
    (hfound : env.resolve checkModule n = .ok (some f)) :
    (∀ v h, SpellsHook checkModule n v h → hook v = .ok h ∧
        ∀ rule policy, Hydration.bind env checkModule rule policy [h] = .ok [⟨h, f⟩]) ∧
      (∀ v v' h h', SpellsHook checkModule n v h → SpellsHook checkModule n v' h' →
        ∀ options subject object, Hydration.RunsAlike [⟨h, f⟩] [⟨h', f⟩]
          (Hydration.hydrate env options [⟨h, f⟩] subject object)
          (Hydration.hydrate env options [⟨h', f⟩] subject object)) ∧
      (checkModule.moduleLabel.isWritable = true →
        ∀ v h, SpellsHook checkModule n v h → ∀ result,
          BoundHook.invalidResult ⟨h, f⟩ result =
            Failure.ofCause (.invalidHookResult (.text h.display) (.text result.typeName))) ∧
      (∀ v module name type entries args, HasParts v module name (.map type entries) →
        name.text? = some n → HasTextArgs entries args →
        hook v = .ok (.inModuleWith module n args)) ∧
      ∀ raw hs, hooks raw = .ok hs → hooks (Value.ofHooks hs) = .ok hs := by
  refine ⟨fun v h hv => ⟨hv.hook_eq hn, hv.bind_eq hfound⟩, ?_, ?_, ?_, ?_⟩
  · intro v v' h h' hv hv' options subject object
    exact Hydration.runsAlike_hydrate (.cons (hv.callAlike hv') .nil) env options subject object
  · intro hlabel v h hv result
    rw [BoundHook.invalidResult, if_pos (hv.isWritable hlabel)]
  · intro v module name type entries args hparts htext hargs
    rw [hook_of_parts hparts, moduleArgsHook_eq htext hn hargs]
  · exact fun _ hs _ => hooks_ofHooks hs

/-- The spellings of a hook of the newsroom, with the hooks that they give. -/
def loadSpellings : List (Value × Hook) :=
  let name := Value.text "load"
  let function := ("function", name)
  [(name, .named "load"),
    (.tuple [.null, name], .inModule .null "load"),
    (.list [.null, name], .inModule .null "load"),
    (.tuple [Policy.newsroomChecks, name], .inModule Policy.newsroomChecks "load"),
    (.tuple [.null, name, .record []], .inModuleWith .null "load" []),
    (Value.ofFields [function], .named "load"),
    (Value.ofFields [function, ("module", .null)], .named "load"),
    (Value.ofFields [("args", .null), function], .named "load"),
    (Value.ofFields [function, ("args", .record [])], .inModuleWith .null "load" [])]

theorem loadSpellings_run_alike :
    Policy.newsroom.resolve Policy.newsroomChecks "load" = .ok (some (.function ⟨"load", 0⟩)) ∧
      (∀ p ∈ loadSpellings, SpellsHook Policy.newsroomChecks "load" p.1 p.2) ∧
      (∀ p ∈ loadSpellings, ∀ q ∈ loadSpellings, hook p.1 = .ok p.2 ∧
        Hydration.RunsAlike [⟨p.2, .function ⟨"load", 0⟩⟩] [⟨q.2, .function ⟨"load", 0⟩⟩]
          (Hydration.hydrate Policy.newsroom .null [⟨p.2, .function ⟨"load", 0⟩⟩] (.text "ann")
            (.text "article"))
          (Hydration.hydrate Policy.newsroom .null [⟨q.2, .function ⟨"load", 0⟩⟩] (.text "ann")
            (.text "article"))) ∧
      hook (.list [Policy.newsroomChecks, .text "load", .record [(.text "depth", .int 2)]]) =
        .ok (.inModuleWith Policy.newsroomChecks "load" [("depth", .int 2)]) := by
  have hfound :
      Policy.newsroom.resolve Policy.newsroomChecks "load" =
        .ok (some (.function ⟨"load", 0⟩)) := by
    rfl
  have hspelled : ∀ p ∈ loadSpellings, SpellsHook Policy.newsroomChecks "load" p.1 p.2 := by
    have hfields :
        ∀ given : Fields, (∀ f ∈ given, f.1 ∈ hookKeys) →
          Fields.get? given "function" = some (.text "load") →
          HasFields (Value.textEntries given) ((Fields.get? given "module").getD .null)
            (.text "load") ((Fields.get? given "args").getD .null) :=
      fun _ => hasFields_textEntries
    simp only [loadSpellings, List.forall_mem_cons, List.not_mem_nil, false_imp_iff, implies_true,
      and_true]
    exact ⟨.name rfl, .pair rfl (.inl rfl) rfl, .pair rfl (.inl rfl) rfl, .pair rfl (.inr rfl) rfl,
      .noArgs (.items rfl) (.inl rfl) rfl,
      .noModule _ (hfields _ (by simp [hookKeys]) rfl) rfl,
      .noModule _ (hfields _ (by simp [hookKeys]) rfl) rfl,
      .noModule _ (hfields _ (by simp [hookKeys]) rfl) rfl,
      .noArgs (.fields _ (hfields _ (by simp [hookKeys]) rfl)) (.inl rfl) rfl⟩
  obtain ⟨hread, halike, _, hargs, _⟩ := hook_spellings_run_alike (by decide) hfound
  refine ⟨hfound, hspelled, fun p hp q hq => ⟨(hread _ _ (hspelled p hp)).1, ?_⟩, ?_⟩
  · exact halike _ _ _ _ (hspelled p hp) (hspelled q hq) _ _ _
  · exact hargs _ _ _ _ _ _ (.items rfl) rfl ⟨.cons ⟨rfl, rfl⟩ .nil, by simp⟩

end Agreement

end Shorthand

end AccessPolicy
