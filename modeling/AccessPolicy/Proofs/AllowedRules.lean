import AccessPolicy.Proofs.BuiltinCalls
import AccessPolicy.Proofs.Requests
import AccessPolicy.Proofs.RuleFilter

/-!
# The rules that are allowed

A policy tells which rules of an object a subject may perform on it.  It decides the rules of that
object one by one, and each decision is the one that a request for the rule comes to.

**Decisions.**  The outcome is read off the decisions (`outcome_keepAllowed`): the rules that are
allowed, or the failure of the first decision that fails.  What follows a failure is not decided
(`events_keepAllowed`).

**References.**  The object is named together with its value, or found by the class of the value:
it is the first object that was registered with exactly this class (`getObjectName?_eq_some_iff`).
A value of a class without an object is refused as a filter before anything is decided, and nothing
else is refused in this way.  What is called by a decision is an event, unless it is a type or comes
with one, and those fail with no coded fault.
-/

namespace AccessPolicy

section Refusal

/-- A failure refuses a filter. -/
def Failure.RefusesFilter (e : Failure) : Prop :=
  ∃ f option, e = .fault f ∧ f.cause = .invalidFilter option

theorem not_refusesFilter_of_isCodeless
    {α : Type}
    {x : Except Failure α}
    (hx : IsCodeless x)
    {e : Failure}
    (h : x = .error e) :
    ¬ e.RefusesFilter := by
  rintro ⟨f, _, rfl, _⟩
  exact hx f h

namespace Run

variable {α β : Type}

/-- A run that leaves no events does not refuse a filter. -/
def AcceptsFilters (x : Run α) : Prop :=
  x.events = [] → ∀ e, x.outcome = .error e → ¬ e.RefusesFilter

theorem AcceptsFilters.bind
    {x : Run α}
    {f : α → Run β}
    (hx : x.AcceptsFilters)
    (hf : ∀ a, (f a).AcceptsFilters) :
    (x >>= f).AcceptsFilters := by
  intro hevents e he
  cases houtcome : x.outcome with
  | error e' =>
      rw [events_bind_of_error houtcome] at hevents
      rw [outcome_bind_of_error houtcome] at he
      exact hx hevents e (by rw [houtcome, Except.error.inj he])
  | ok a =>
      rw [events_bind_of_ok houtcome, List.append_eq_nil_iff] at hevents
      rw [outcome_bind_of_ok houtcome] at he
      exact hf a hevents.2 e he

theorem acceptsFilters_of_ok
    {x : Run α}
    {a : α}
    (h : x.outcome = .ok a) :
    x.AcceptsFilters :=
  fun _ _ he => nomatch h.symm.trans he

theorem acceptsFilters_of_isCodeless
    {x : Except Failure α}
    (h : IsCodeless x) :
    (ofExcept x).AcceptsFilters :=
  fun _ _ he => not_refusesFilter_of_isCodeless h he

theorem acceptsFilters_of_event
    (event : Event)
    (events : List Event)
    (outcome : Except Failure α) :
    AcceptsFilters ⟨event :: events, outcome⟩ :=
  fun h => nomatch h

end Run

open Run

theorem Environment.acceptsFilters_callValue
    (env : Environment)
    (v : Value)
    (args : List Value) :
    (env.callValue v args).AcceptsFilters := by
  have hconsult : ∀ t object subject options,
      (env.consult t object subject options).AcceptsFilters := by
    intro t object subject options
    unfold consult
    split
    · exact acceptsFilters_of_event _ _ _
    · exact acceptsFilters_of_isCodeless (by simp)
  unfold callValue
  split
  · exact acceptsFilters_of_event _ _ _
  · exact acceptsFilters_of_isCodeless (by simp)
  · split
    · exact acceptsFilters_of_isCodeless (by simp)
    · exact acceptsFilters_of_isCodeless (by simp)
  · unfold callMethod
    split
    · exact acceptsFilters_of_event _ _ _
    · exact hconsult _ _ _ _
    · exact hconsult _ _ _ _
    · exact acceptsFilters_of_isCodeless (Value.isCodeless_callMember _ _ _)
  · exact acceptsFilters_of_isCodeless (by simp)

/-- A hook that returns no pair is refused as such. -/
theorem BoundHook.not_refusesFilter_invalidResult
    (h : BoundHook)
    (v : Value) :
    ¬ (h.invalidResult v).RefusesFilter := by
  rintro ⟨f, option, he, hcause⟩
  unfold invalidResult at he
  split at he
  · have hcause' := congrArg Fault.cause (Failure.fault.inj he)
    simp [hcause] at hcause'
  · cases he

theorem Run.kept_acceptsFilters
    (env : Environment) :
    Run.Kept env @Run.AcceptsFilters where
  result a := acceptsFilters_of_ok (outcome_result a)
  bind := AcceptsFilters.bind
  call := env.acceptsFilters_callValue
  wrongType := acceptsFilters_of_isCodeless (by simp)
  pair h v := by
    intro _ e he
    rw [outcome_ofExcept] at he
    unfold BoundHook.pairOf at he
    split at he
    · cases he
    · cases he
      exact h.not_refusesFilter_invalidResult v

end Refusal

namespace Policy

section Deciding

variable (env : Environment) (p : Policy) (subject object options : Value)

/-- Whether the decision on a rule fails. -/
def failsOn (r : Rule) : Bool :=
  (errorOf? (p.decide env r.name subject object options).outcome).isSome

/-- Whether a rule is decided to be allowed. -/
def allows (r : Rule) : Bool :=
  match (p.decide env r.name subject object options).outcome with
  | .ok d => d == .allowed
  | .error _ => false

theorem acceptsFilters_decide
    (name : String) :
    (p.decide env name subject object options).AcceptsFilters := by
  cases hget : p.table.get? name with
  | none =>
      exact Run.acceptsFilters_of_ok (outcome_decide_of_get?_eq_none hget subject object options)
  | some c =>
      rw [decide_of_get?_eq_some hget]
      exact ((Run.kept_acceptsFilters env).request subject object options c).bind fun d =>
        Run.acceptsFilters_of_ok rfl

/-- The rules that are decided are those up to the first whose decision fails. -/
theorem events_keepAllowed
    (rules : List Rule) :
    (p.keepAllowed env subject object options rules).events =
      (upTo (p.failsOn env subject object options) rules).flatMap fun r =>
        (p.decide env r.name subject object options).events := by
  induction rules with
  | nil =>
      rfl
  | cons r rest ih =>
      rw [keepAllowed, upTo]
      cases hdecide : (p.decide env r.name subject object options).outcome with
      | error e =>
          rw [Run.events_bind_of_error hdecide, failsOn, hdecide]
          simp
      | ok d =>
          -- Putting the rule before those that are kept leaves no events.
          rw [Run.events_bind_of_ok hdecide, Run.events_bind_of_silent _ fun _ => rfl, ih, failsOn,
            hdecide]
          simp

/-- Either some decision fails, and then the first failure is that of all, or else the rules are
kept that are allowed. -/
theorem outcome_keepAllowed
    (rules : List Rule) :
    (p.keepAllowed env subject object options rules).outcome =
      match rules.findSome? fun r =>
        errorOf? (p.decide env r.name subject object options).outcome with
      | some e => .error e
      | none => .ok (rules.filter (p.allows env subject object options)) := by
  induction rules with
  | nil =>
      rfl
  | cons r rest ih =>
      rw [keepAllowed, Run.outcome_bind, List.findSome?_cons, List.filter_cons, allows]
      cases (p.decide env r.name subject object options).outcome with
      | error e =>
          rfl
      | ok d =>
          rw [errorOf?_ok]
          show (p.keepAllowed env subject object options rest >>= fun more =>
            pure (if d == .allowed then r :: more else more)).outcome = _
          rw [Run.outcome_bind, ih]
          cases rest.findSome? fun r =>
              errorOf? (p.decide env r.name subject object options).outcome <;>
            rfl

theorem acceptsFilters_keepAllowed
    (rules : List Rule) :
    (p.keepAllowed env subject object options rules).AcceptsFilters := by
  induction rules with
  | nil =>
      exact Run.acceptsFilters_of_ok rfl
  | cons r rest ih =>
      exact (p.acceptsFilters_decide env subject object options r.name).bind fun d =>
        ih.bind fun more => Run.acceptsFilters_of_ok rfl

end Deciding

section Classes

/-- Two values refer to one class. -/
inductive SameClass : Value → Value → Prop
  | type
      (t : TypeRef) :
      SameClass (.type t) (.type t)
  | declared
      {ref : ModuleRef}
      (isClass : ref.form = .typeForm)
      (members members' : Fields) :
      SameClass (.module ref members) (.module ref members')

/-- The class of a value; a class stands for itself. -/
def classOf (v : Value) : Value :=
  if isType v then v else .type v.typeOf

/-- No object is registered for the class of a value. -/
def LacksObjectFor (p : Policy) (v : Value) : Prop :=
  ∀ s ∈ p.schemas, ¬ SameClass s.2 (classOf v)

/-- An object is the first that is registered for the class of a value. -/
def FirstObjectFor (p : Policy) (v : Value) (name : String) : Prop :=
  ∃ before registered after,
    p.schemas = before ++ (name, registered) :: after ∧
    SameClass registered (classOf v) ∧
    ∀ s ∈ before, ¬ SameClass s.2 (classOf v)

theorem isSameType_iff
    {registered v : Value} :
    isSameType registered v = true ↔ SameClass registered v := by
  constructor
  · intro h
    obtain ⟨htype, hagrees⟩ := (Bool.and_eq_true _ _).mp h
    cases registered with
    | type t =>
        cases v with
        | type u =>
            rw [Value.agrees, beq_iff_eq] at hagrees
            subst hagrees
            exact .type t
        | _ =>
            simp [Value.agrees] at hagrees
    | module ref members =>
        cases v with
        | module ref' members' =>
            rw [Value.agrees, beq_iff_eq] at hagrees
            subst hagrees
            exact .declared (beq_iff_eq.mp htype) members members'
        | _ =>
            simp [Value.agrees] at hagrees
    | _ =>
        cases htype
  · intro h
    cases h with
    | type t =>
        simp [isSameType, isType, Value.agrees]
    | declared isClass members members' =>
        simp [isSameType, isType, Value.agrees, isClass]

variable {p : Policy} {v : Value} {name : String}

theorem getObjectName?_eq_some_iff :
    p.getObjectName? v = some name ↔ p.FirstObjectFor v name := by
  show (p.schemas.find? fun s => isSameType s.2 (classOf v)).map (·.1) = some name ↔ _
  simp only [Option.map_eq_some_iff, List.find?_eq_some_iff_append, isSameType_iff,
    Bool.not_eq_true', ← Bool.not_eq_true]
  constructor
  · rintro ⟨s, ⟨hsame, before, after, hschemas, hbefore⟩, rfl⟩
    exact ⟨before, s.2, after, hschemas, hsame, hbefore⟩
  · rintro ⟨before, registered, after, hschemas, hsame, hbefore⟩
    exact ⟨(name, registered), ⟨hsame, before, after, hschemas, hbefore⟩, rfl⟩

theorem getObjectName?_eq_none_iff :
    p.getObjectName? v = none ↔ p.LacksObjectFor v := by
  show (p.schemas.find? fun s => isSameType s.2 (classOf v)).map (·.1) = none ↔ _
  simp only [Option.map_eq_none_iff, List.find?_eq_none, isSameType_iff]
  rfl

end Classes

section References

variable (env : Environment) (p : Policy)

/-- The refusal of a value without an object. -/
def unregistered (v : Value) : Fault :=
  Fault.of (.invalidFilter (.text "object"))
    { message := .text ("No object registered for type " ++ v.typeName)
      suggestion :=
        .text ("Pass an (object_name, object) tuple or register the class with " ++ "the object") }

theorem message_unregistered
    (v : Value) :
    (unregistered v).message = .text ("No object registered for type " ++ v.typeName) := by
  refine Fault.message_of ?_
  simp [Value.isTrue]

theorem referent_pair
    {ref : Value}
    {name : String}
    (h : ref.text? = some name)
    (object : Value) :
    p.referent (.tuple [ref, object]) = .ok (name, object) := by
  simp only [referent, h]

theorem referent_of_value
    {v : Value}
    (h : Shorthand.isArgPair v = false) :
    p.referent v =
      match p.getObjectName? v with
      | some name => .ok (name, v)
      | none => .error (.fault (unregistered v)) := by
  unfold referent
  dsimp only
  split
  · rename_i ref object
    have htext : ref.text? = none :=
      Option.not_isSome_iff_eq_none.mp (by simpa [Shorthand.isArgPair] using h)
    rw [htext]
    rfl
  · rfl

theorem filterAllowed_of_referent
    {ref object : Value}
    {name : String}
    (h : p.referent ref = .ok (name, object))
    (rules : List Rule)
    (subject options : Value) :
    p.filterAllowed env rules subject ref options =
      p.keepAllowed env subject object options (rules.filter fun r => r.object == name) := by
  have hfilter : RuleFilter.filterRules rules [("object", .text name)] =
      .ok (rules.filter fun r => r.object == name) := by
    refine RuleFilter.filterRules_one (by decide) (by simp) (fun r => ?_) rules
    show Except.ok ((Value.text r.object).agrees (.text name)) = _
    rw [Value.agrees]
    simp [Value.text?, eq_comm]
  unfold filterAllowed
  rw [h]
  show (Run.ofExcept (RuleFilter.filterRules rules [("object", .text name)]) >>= fun candidates =>
    p.keepAllowed env subject object options candidates) = _
  rw [hfilter]
  rfl

/-- A run decides some rules in order.  It keeps those that are allowed, or fails as the first
decision that fails; up to there it leaves the events of the decisions and no others. -/
structure KeepsAllowed (subject object options : Value) (rules : List Rule)
    (run : Run (List Rule)) : Prop where
  outcome_eq :
    run.outcome =
      match rules.findSome? fun r =>
        errorOf? (p.decide env r.name subject object options).outcome with
      | some e => .error e
      | none => .ok (rules.filter (p.allows env subject object options))
  events_eq :
    run.events =
      (upTo (p.failsOn env subject object options) rules).flatMap fun r =>
        (p.decide env r.name subject object options).events

/-- **The rules that are allowed are those that are decided to be.**  Any rules are filtered by the
name of an object together with its value, by deciding those of this object one by one.  A value
alone stands for itself with the first object that is registered for its class.  If there is none,
then the value is refused as a filter before anything else happens, and this is the only reason for
such a refusal. -/
theorem filterAllowed_decides
    (rules : List Rule)
    (subject options : Value) :
    (∀ ref name object, ref.text? = some name →
      p.KeepsAllowed env subject object options (rules.filter fun r => r.object == name)
        (p.filterAllowed env rules subject (.tuple [ref, object]) options)) ∧
    ∀ v, Shorthand.isArgPair v = false →
      (∀ name, p.FirstObjectFor v name →
        p.filterAllowed env rules subject v options =
          p.filterAllowed env rules subject (.tuple [.text name, v]) options) ∧
      (p.LacksObjectFor v →
        ∃ f, p.filterAllowed env rules subject v options = .fail (.fault f) ∧
          f.cause = .invalidFilter (.text "object") ∧
          f.message = .text ("No object registered for type " ++ v.typeName)) ∧
      ((p.filterAllowed env rules subject v options).events = [] ∧
          (∃ e, (p.filterAllowed env rules subject v options).outcome = .error e ∧
            e.RefusesFilter)
        ↔
      p.LacksObjectFor v) := by
  refine ⟨?_, fun v hv => ?_⟩
  · intro ref name object htext
    rw [filterAllowed_of_referent env p (p.referent_pair htext object)]
    exact ⟨p.outcome_keepAllowed env subject object options _,
      p.events_keepAllowed env subject object options _⟩
  · have hreferent := p.referent_of_value hv
    have hnamed : ∀ name, p.FirstObjectFor v name → p.referent v = .ok (name, v) := by
      intro name hfirst
      rw [hreferent, getObjectName?_eq_some_iff.mpr hfirst]
    have hrefused :
        p.LacksObjectFor v →
          p.filterAllowed env rules subject v options = .fail (.fault (unregistered v)) := by
      intro hlacks
      unfold filterAllowed
      rw [hreferent, getObjectName?_eq_none_iff.mpr hlacks]
      rfl
    refine ⟨?_, ?_, ?_, ?_⟩
    · intro name hfirst
      rw [filterAllowed_of_referent env p (hnamed name hfirst),
        filterAllowed_of_referent env p (p.referent_pair rfl v)]
    · intro hlacks
      exact ⟨unregistered v, hrefused hlacks, Fault.cause_of _ _, message_unregistered v⟩
    · rintro ⟨hevents, e, he, hfilter⟩
      cases hname : p.getObjectName? v with
      | none =>
          exact getObjectName?_eq_none_iff.mp hname
      | some name =>
          -- The run is that of deciding rules, which without events refuses no filter.
          rw [filterAllowed_of_referent env p (hnamed name (getObjectName?_eq_some_iff.mp hname))]
            at hevents he
          exact absurd hfilter (p.acceptsFilters_keepAllowed env subject v options _ hevents e he)
    · intro hlacks
      rw [hrefused hlacks]
      exact ⟨rfl, _, rfl, unregistered v, _, rfl, Fault.cause_of _ _⟩

end References

section Newsroom

/-- Editors delete articles that are not locked. -/
def removeRule : Rule :=
  { updateRule with
    action := "delete"
    name := "article_delete"
    allow := [[.withArg "role" (.text "editor")]] }

/-- In the newsroom articles come without a value, and so do notes.  Of the rules on articles a
writer is allowed the one for updates, however the article is given; a number is no article. -/
theorem newsroom_allows :
    ∃ p, Policy.ofRules newsroom [updateRule, removeRule] { checkModule := newsroomChecks }
          [("page", .type (.builtin .text)), ("article", .type (.builtin .null)),
            ("note", .type (.builtin .null))] = .ok p ∧
      Value.text? (.text "article") = some "article" ∧
      (p.filterAllowed newsroom p.table.rules (.text "writer") (.tuple [.text "article", .null])
        .null).outcome = .ok [updateRule] ∧
      Shorthand.isArgPair .null = false ∧
      (p.filterAllowed newsroom p.table.rules (.text "writer") .null .null).outcome =
        .ok [updateRule] ∧
      Shorthand.isArgPair (.int 3) = false ∧
      ∃ e, (p.filterAllowed newsroom p.table.rules (.text "writer") (.int 3) .null).outcome =
        .error e ∧ e.RefusesFilter := by
  have hbuilt :
      ∃ p, Policy.ofRules newsroom [updateRule, removeRule] { checkModule := newsroomChecks }
          [("page", .type (.builtin .text)), ("article", .type (.builtin .null)),
            ("note", .type (.builtin .null))] = .ok p ∧
        p.schemas = [("page", .type (.builtin .text)), ("article", .type (.builtin .null)),
          ("note", .type (.builtin .null))] ∧
        (p.decide newsroom updateRule.name (.text "writer") .null .null).outcome =
          .ok .allowed ∧
        (p.decide newsroom removeRule.name (.text "writer") .null .null).outcome =
          .ok .denied :=
    ⟨_, rfl, rfl, rfl, rfl⟩
  obtain ⟨p, hp, hschemas, hupdate, hdelete⟩ := hbuilt
  have hrules : p.table.rules = [updateRule, removeRule] := rules_eq_of_ofRules hp
  obtain ⟨hdecides, hclasses⟩ :=
    filterAllowed_decides newsroom p p.table.rules (.text "writer") .null
  have hpair := hdecides (.text "article") "article" .null rfl
  obtain ⟨hnamed, _⟩ := hclasses .null rfl
  obtain ⟨_, _, hrefused⟩ := hclasses (.int 3) rfl
  have houtcome : (p.filterAllowed newsroom p.table.rules (.text "writer")
      (.tuple [.text "article", .null]) .null).outcome = .ok [updateRule] := by
    have hcandidates :
        [updateRule, removeRule].filter (fun r => r.object == "article") =
          [updateRule, removeRule] :=
      rfl
    rw [hpair.outcome_eq, hrules, hcandidates]
    simp [allows, hupdate, hdelete]
  have hfirst : p.FirstObjectFor .null "article" := by
    refine ⟨[("page", .type (.builtin .text))], .type (.builtin .null), _, hschemas, .type _, ?_⟩
    intro s hs hsame
    rw [List.mem_singleton.mp hs] at hsame
    cases hsame
  have hlacks : p.LacksObjectFor (.int 3) := by
    intro s hs hsame
    simp only [hschemas, List.mem_cons, List.not_mem_nil, or_false] at hs
    rcases hs with rfl | rfl | rfl <;>
      cases hsame
  refine ⟨p, hp, rfl, houtcome, rfl, ?_, rfl, (hrefused.mpr hlacks).2⟩
  rw [hnamed "article" hfirst]
  exact houtcome

end Newsroom

end Policy
end AccessPolicy
