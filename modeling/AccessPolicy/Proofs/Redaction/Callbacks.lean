import AccessPolicy.Proofs.Redaction.Updates
import Mathlib.Data.List.Induction

/-!
# Which callback redacts an object

A registry is filled by calls: a callback is registered for a type at once, or a decorator is made
for the type first and applied to callbacks later.  This module says which callback serves a type
after any sequence of calls, and which one an object is redacted by.

**Calls.**  What the calls register can be told from the calls alone (`registrations`).  A registry
has for each type the callback that was registered for it last (`get?_after`).

**Hierarchies.**  A type and its bases are asked in the order of a hierarchy.  The order may be any,
as types may have several bases.  The callback of the first type in it that has one serves
(`lookupIn?_after_eq_some_iff`), and one more callback serves only if its type stands before all
others that have one (`findSome?_register`).

**Objects.**  The spec of an object is what its callback says of it
(`Viewing.specOf_eq_askThrough`).  The callback that its type brings itself comes before all
registered ones, and is asked through the object.
-/

namespace AccessPolicy
namespace Redaction

namespace Registry

/-- A call that fills a registry.  Without a callback it makes a decorator, which can be applied any
time later and more than once. -/
inductive Call where
  | register (type : TypeRef) (callback? : Option Callback)
  | decorate (decorator : Nat) (callback : Callback)

/-- A registry and the types for which decorators were made, in order. -/
structure Session where
  registry : Registry := {}
  decorators : List TypeRef := []

/-- A session after a call.  A decorator that is not made yet cannot be applied. -/
def Session.step (s : Session) : Call → Session
  | .register t (some c) => { s with registry := s.registry.register t c }
  | .register t none => { s with decorators := s.decorators ++ [t] }
  | .decorate i c =>
      match s.decorators[i]? with
      | some t => { s with registry := s.registry.register t c }
      | none => s

/-- The registry that some calls fill. -/
def after (calls : List Call) : Registry :=
  (calls.foldl Session.step {}).registry

namespace Call

/-- The type for which a call makes a decorator. -/
def decorated? : Call → Option TypeRef
  | .register t none => some t
  | _ => none

/-- What a call registers, by itself or by a decorator for one of some types. -/
def entry? (decorators : List TypeRef) : Call → Option (TypeRef × Callback)
  | .register t callback? => callback?.map fun c => (t, c)
  | .decorate i c => decorators[i]?.map fun t => (t, c)

end Call

/-- The types for which some calls make decorators, in order. -/
def decorators (calls : List Call) : List TypeRef :=
  calls.filterMap Call.decorated?

/-- What some calls register, in order, after decorators were made for some types. -/
def registrations : List TypeRef → List Call → List (TypeRef × Callback)
  | _, [] => []
  | made, call :: rest =>
      (call.entry? made).toList ++ registrations (made ++ call.decorated?.toList) rest

/-- The types for which some calls register callbacks. -/
def registered (calls : List Call) : List TypeRef :=
  (registrations [] calls).map Prod.fst

/-- Whether a callback is the last one that some calls register for a type. -/
def LastRegisters (calls : List Call) (t : TypeRef) (c : Callback) : Prop :=
  ∃ before behind, registrations [] calls = before ++ (t, c) :: behind ∧
    t ∉ behind.map Prod.fst

/-- Whether a type lies in an order, and none of some others before it. -/
def StandsFirst (others order : List TypeRef) (t : TypeRef) : Prop :=
  ∃ nearer further, order = nearer ++ t :: further ∧ ∀ u ∈ nearer, u ∉ others

section Register

variable (r : Registry) (t u : TypeRef) (c : Callback)

theorem lookup_cons_eq_ite
    (e : TypeRef × Callback)
    (rest : List (TypeRef × Callback)) :
    (e :: rest).lookup u = if u = e.1 then some e.2 else rest.lookup u := by
  rw [List.lookup_cons]
  split <;> simp_all

/-- A registered callback replaces that of its type and no other. -/
theorem get?_register :
    (r.register t c).get? u = if u = t then some c else r.get? u := by
  show (register.go t c r.callbacks).lookup u = if u = t then some c else r.callbacks.lookup u
  induction r.callbacks with
  | nil =>
      rw [register.go, lookup_cons_eq_ite]
  | cons e rest ih =>
      obtain ⟨s, d⟩ := e
      rw [register.go, lookup_cons_eq_ite]
      by_cases hs : s = t
      · subst hs
        rw [if_pos rfl, lookup_cons_eq_ite]
        split <;> rfl
      · rw [if_neg hs, lookup_cons_eq_ite, ih]
        by_cases hu : u = s
        · subst hu
          simp [hs]
        · simp [hu]

end Register

section Calls

variable {calls : List Call} {t : TypeRef} {c : Callback}

/-- A session registers what its calls register, one after the other. -/
theorem registry_foldl_step
    (calls : List Call)
    (s : Session) :
    (calls.foldl Session.step s).registry =
      (registrations s.decorators calls).foldl (fun r e => r.register e.1 e.2) s.registry := by
  induction calls generalizing s with
  | nil =>
      rfl
  | cons call rest ih =>
      rw [List.foldl_cons, ih, registrations, List.foldl_append]
      cases call with
      | register t callback? =>
          cases callback? <;> simp [Session.step, Call.entry?, Call.decorated?]
      | decorate i c =>
          cases hi : s.decorators[i]? <;>
            simp [Session.step, Call.entry?, Call.decorated?, hi]

/-- What one more call registers comes last. -/
theorem registrations_concat
    (made : List TypeRef)
    (calls : List Call)
    (call : Call) :
    registrations made (calls ++ [call]) =
      registrations made calls ++ (call.entry? (made ++ decorators calls)).toList := by
  induction calls generalizing made with
  | nil =>
      simp [registrations, decorators]
  | cons first rest ih =>
      have hmade :
          made ++ first.decorated?.toList ++ decorators rest =
            made ++ decorators (first :: rest) := by
        rw [List.append_assoc, decorators, decorators, List.filterMap_cons]
        cases first.decorated? <;> rfl
      rw [List.cons_append, registrations, ih, hmade, registrations, List.append_assoc]

theorem after_eq
    (calls : List Call) :
    after calls = (registrations [] calls).foldl (fun r e => r.register e.1 e.2) {} :=
  registry_foldl_step calls {}

/-- One more call that registers a callback registers it in the registry so far. -/
theorem after_concat
    {call : Call}
    (hentry : call.entry? (decorators calls) = some (t, c)) :
    after (calls ++ [call]) = (after calls).register t c := by
  rw [after_eq, registrations_concat, List.nil_append, hentry, List.foldl_append, ← after_eq]
  rfl

/-- Callbacks that are registered one after the other: each type has the last of its own. -/
theorem get?_foldl_register
    (entries : List (TypeRef × Callback)) :
    (entries.foldl (fun r e => r.register e.1 e.2) ({} : Registry)).get? t =
      entries.reverse.lookup t := by
  induction entries using List.reverseRecOn with
  | nil =>
      rfl
  | append_singleton entries e ih =>
      rw [List.foldl_append, List.foldl_cons, List.foldl_nil, get?_register, ih,
        List.reverse_append, List.reverse_singleton, List.singleton_append, lookup_cons_eq_ite]

theorem forall_bne_fst_iff
    {entries : List (TypeRef × Callback)} :
    (∀ e ∈ entries, (t != e.1) = true) ↔ t ∉ entries.map Prod.fst := by
  simp only [bne_iff_ne, List.mem_map, not_exists, not_and]
  exact forall₂_congr fun _ _ => ne_comm

/-- A registry has for a type the callback that the calls register last for it. -/
theorem get?_after :
    (after calls).get? t = some c ↔ LastRegisters calls t c := by
  rw [after_eq, get?_foldl_register, List.lookup_eq_some_iff]
  -- The entry is looked up from the end, so that what is behind it comes first.
  constructor
  · rintro ⟨behind, before, heq, hbehind⟩
    refine ⟨before.reverse, behind.reverse, ?_, ?_⟩
    · rw [← List.reverse_reverse (registrations [] calls), heq]
      simp
    · rw [← forall_bne_fst_iff]
      exact fun e he => hbehind e (List.mem_reverse.mp he)
  · rintro ⟨before, behind, heq, hbehind⟩
    refine ⟨behind.reverse, before.reverse, ?_, ?_⟩
    · rw [heq]
      simp
    · exact fun e he => forall_bne_fst_iff.mpr hbehind e (List.mem_reverse.mp he)

theorem get?_after_eq_none_iff :
    (after calls).get? t = none ↔ t ∉ registered calls := by
  rw [after_eq, get?_foldl_register, List.lookup_eq_none_iff, registered, ← forall_bne_fst_iff]
  simp only [List.mem_reverse]

end Calls

section Hierarchies

variable {r : Registry} {h : Hierarchy} {t base : TypeRef} {c : Callback}
variable {others order : List TypeRef}

theorem not_standsFirst_nil :
    ¬ StandsFirst others [] base := by
  rintro ⟨nearer, further, heq, _⟩
  cases nearer <;> cases heq

/-- A type stands first in an order if it is the first one, or if that is none of the others. -/
theorem standsFirst_cons_iff
    {u : TypeRef} :
    StandsFirst others (u :: order) base
      ↔
    u = base ∨ (u ∉ others ∧ StandsFirst others order base) := by
  constructor
  · rintro ⟨nearer, further, heq, hnearer⟩
    cases nearer with
    | nil =>
        exact .inl (List.cons.inj heq).1
    | cons u' nearer =>
        obtain ⟨rfl, hrest⟩ := List.cons.inj heq
        obtain ⟨hu, hnearer⟩ := List.forall_mem_cons.mp hnearer
        exact .inr ⟨hu, nearer, further, hrest, hnearer⟩
  · rintro (rfl | ⟨hu, nearer, further, rfl, hnearer⟩)
    · exact ⟨[], order, rfl, fun _ h => absurd h List.not_mem_nil⟩
    · exact ⟨u :: nearer, further, rfl, List.forall_mem_cons.mpr ⟨hu, hnearer⟩⟩

/-- One more callback serves if its type stands before all others that have one, and otherwise the
one that served so far. -/
theorem findSome?_register
    (hothers : ∀ u, r.get? u = none ↔ u ∉ others)
    (base : TypeRef)
    (c : Callback)
    (order : List TypeRef) :
    (StandsFirst others order base → order.findSome? (r.register base c).get? = some c) ∧
    (¬ StandsFirst others order base →
      order.findSome? (r.register base c).get? = order.findSome? r.get?) := by
  induction order with
  | nil =>
      exact ⟨fun hfirst => absurd hfirst not_standsFirst_nil, fun _ => rfl⟩
  | cons u order ih =>
      rw [standsFirst_cons_iff, List.findSome?_cons, List.findSome?_cons, get?_register]
      by_cases hu : u = base
      · simp [hu]
      · cases hget : r.get? u with
        | some d =>
            -- The type has a callback itself, so that none behind it is found.
            have hmem : u ∈ others := by
              by_contra hnot
              rw [(hothers u).mpr hnot] at hget
              cases hget
            simp [hu, hmem]
        | none =>
            have hnot : u ∉ others := (hothers u).mp hget
            simpa [hu, hnot] using ih

/-- The callback that some calls register last for the first type with one in an order serves. -/
theorem lookupIn?_after_eq_some_iff
    {calls : List Call} :
    (after calls).lookupIn? h t = some c
      ↔
    ∃ base, StandsFirst (registered calls) (h t) base ∧ LastRegisters calls base c := by
  rw [lookupIn?, List.findSome?_eq_some_iff]
  simp only [get?_after, get?_after_eq_none_iff]
  constructor
  · rintro ⟨nearer, base, further, heq, hlast, hnearer⟩
    exact ⟨base, ⟨nearer, further, heq, hnearer⟩, hlast⟩
  · rintro ⟨base, ⟨nearer, further, heq, hnearer⟩, hlast⟩
    exact ⟨nearer, base, further, heq, hlast, hnearer⟩

theorem lookupIn?_after_eq_none_iff
    {calls : List Call} :
    (after calls).lookupIn? h t = none ↔ ∀ u ∈ h t, u ∉ registered calls := by
  rw [lookupIn?, List.findSome?_eq_none_iff]
  simp only [get?_after_eq_none_iff]

end Hierarchies

end Registry

section Objects

variable {w : Viewing} {v : Value} {c : Callback}

/-- What a callback says of an object when it is asked: what it gives, read as a spec. -/
def Callback.ask (c : Callback) (object subject options : Value) : Run Spec := do
  let items : List Value ← ⟨[.consult c.label subject options], do
    let given ← c.run [object, subject, options]
    match given.parts? with
    | some items => .ok items
    | none => .error .wrongType⟩
  return Entry.ofList items

/-- What a callback says of an object to the subject of a request. -/
def Viewing.ask (w : Viewing) (c : Callback) (object : Value) : Run Spec := do
  let options ← Run.ofExcept w.optionMap
  c.ask object w.subject options

/-- What a callback says of an object through which it is asked: nothing if the object has a
member of its own in the place of its callback. -/
def Viewing.askThrough (w : Viewing) (c : Callback) (object : Value) : Run Spec := do
  let _ ← Run.ofExcept w.optionMap
  if hidesCallback w.env object then .fail .wrongType
  else w.ask c object

/-- The spec of an object is what its callback says of it. -/
theorem Viewing.specOf_eq_askThrough
    (hcallback : callbackOf? w.env w.registry v = some c) :
    w.specOf v = w.askThrough c v := by
  rw [specOf, specValues, askThrough, Run.bind_assoc]
  refine Run.bind_congr (fun _ _ => ?_)
  cases hidesCallback w.env v with
  | true =>
      rfl
  | false =>
      rw [if_neg Bool.false_ne_true, if_neg Bool.false_ne_true, callbackValues, Run.bind_assoc,
        hcallback]
      rfl

/-- An object whose type brings no callback has nothing in the place of one. -/
theorem Viewing.askThrough_of_registered
    (hown : ownCallback? w.env v.typeOf = none) :
    w.askThrough c v = w.ask c v := by
  have hhides : hidesCallback w.env v = false := by
    simp [hidesCallback, hown]
  rw [askThrough, hhides, ask]
  cases w.optionMap <;> rfl

/-- The callback that the type of an object brings comes before all registered ones. -/
theorem callbackOf?_of_own
    {env : Environment}
    (hown : ownCallback? env v.typeOf = some c)
    (registry : Option Registry) :
    callbackOf? env registry v = some c := by
  rw [callbackOf?, hown]
  rfl

theorem callbackOf?_of_registered
    {env : Environment}
    (hown : ownCallback? env v.typeOf = none)
    (r : Registry) :
    callbackOf? env (some r) v = r.lookup? v.typeOf := by
  rw [callbackOf?, hown]
  rfl

end Objects

namespace Registry

/-- **The nearest callback serves.**  After any calls that fill a registry, and in whatever order a
type and its bases are asked, the type is served by the callback that was registered last for the
first type in this order with one, and by none iff no type in it has one.  One more callback matters
only if its type lies in the order and no type before it has one, and then it is the one that
serves.  An object whose type brings a callback itself is redacted by this one, asked through the
object, whatever is registered, and any other object by the registered one that serves its type. -/
theorem nearest_callback_serves
    (h : Hierarchy)
    (calls : List Call)
    (t : TypeRef) :
    let r := after calls
    (∀ c, r.lookupIn? h t = some c ↔
      ∃ base, StandsFirst (registered calls) (h t) base ∧ LastRegisters calls base c) ∧
    (r.lookupIn? h t = none ↔ ∀ base ∈ h t, base ∉ registered calls) ∧
    (∀ call base c, call.entry? (decorators calls) = some (base, c) →
      let r' := after (calls ++ [call])
      (r'.lookupIn? h t ≠ r.lookupIn? h t → StandsFirst (registered calls) (h t) base) ∧
      (StandsFirst (registered calls) (h t) base → r'.lookupIn? h t = some c)) ∧
    ∀ (w : Viewing) (v : Value) (c : Callback),
      (ownCallback? w.env v.typeOf = some c → ∀ registry : Option Registry,
        ({ w with registry } : Viewing).specOf v = w.askThrough c v ∧
        (v ≠ .null → v.items? = none →
          redact { w with registry } v =
            w.askThrough c v >>= fun spec => apply { w with registry } depthLimit spec v)) ∧
      (ownCallback? w.env v.typeOf = none → w.registry = some r →
        r.lookup? v.typeOf = some c → w.specOf v = w.ask c v) := by
  intro r
  refine ⟨fun c => lookupIn?_after_eq_some_iff, lookupIn?_after_eq_none_iff, ?_, ?_⟩
  · intro call base c hentry r'
    have hr' : r' = r.register base c := after_concat hentry
    obtain ⟨hfirst, hnot⟩ :=
      findSome?_register (r := r) (fun _ => get?_after_eq_none_iff) base c (h t)
    rw [hr']
    exact ⟨fun hchanged => by_contra fun hlater => hchanged (hnot hlater), hfirst⟩
  · intro w v c
    constructor
    · intro hown registry
      have hspec : ({ w with registry } : Viewing).specOf v = w.askThrough c v :=
        Viewing.specOf_eq_askThrough (callbackOf?_of_own hown registry)
      refine ⟨hspec, ?_⟩
      intro hnull hitems
      rw [redact_eq_redactObject hnull hitems, redactObject, hspec]
    · intro hown hregistry hlookup
      have hcallback : callbackOf? w.env w.registry v = some c := by
        rw [hregistry, callbackOf?_of_registered hown, hlookup]
      rw [Viewing.specOf_eq_askThrough hcallback, Viewing.askThrough_of_registered hown]

section Catalogue

/-- A type of things in a catalogue. -/
def catalogued (name : String) (base : TypeRef) : TypeRef :=
  .declared name .plain [] none false base

def thingType : TypeRef :=
  catalogued "Thing" (.builtin .object)

def printedType : TypeRef :=
  catalogued "Printed" thingType

def digitalType : TypeRef :=
  catalogued "Digital" thingType

def hybridType : TypeRef :=
  catalogued "Hybrid" printedType

/-- Hybrid things are both printed and digital; the base that these share is asked after both. -/
def catalogue : Hierarchy := fun t =>
  if t = hybridType then [hybridType, printedType, digitalType, thingType, .builtin .object]
  else t.lineage

/-- Readers bring a callback of their own. -/
def readerType : TypeRef :=
  .declared "Reader" .plain [] none true (.builtin .object)

/-- A callback that hides one field. -/
def hides (field : String) : Callback :=
  ⟨field, fun _ => .ok (.list [.text field])⟩

/-- A decorator for digital things is made early and applied late, and things get another callback
in place of their first one. -/
def catalogueCalls : List Call :=
  [.register thingType (some (hides "price")), .register digitalType none,
    .register readerType (some (hides "name")), .register digitalType (some (hides "key")),
    .decorate 0 (hides "licence"), .register thingType (some (hides "owner"))]

/-- A visitor looks at the catalogue and its readers, with the callbacks of a registry. -/
def visitorViewing (r : Registry) : Viewing where
  env :=
    { apply := fun _ _ => .error .wrongType
      importable := []
      classMembers := fun _ => []
      callback := fun t => if t = readerType then some (hides "address").run else none }
  subject := .text "visitor"
  options := .null
  marker := .null
  registry := some r

def reader (address : Value) : Value :=
  .object readerType [("name", .text "Ada"), ("address", address)]

def recording : Value :=
  .object digitalType [("licence", .text "CC-0")]

/-- A hybrid thing is served as a digital one, and as a printed one as soon as these have a
callback.  A reader is redacted as readers say, whatever is registered for them, and a recording as
a digital thing. -/
theorem hybrid_served_as_digital :
    let r := after catalogueCalls
    let printed := Call.register printedType (some (hides "pages"))
    r.lookupIn? catalogue hybridType = some (hides "licence") ∧
    printed.entry? (decorators catalogueCalls) = some (printedType, hides "pages") ∧
    (after (catalogueCalls ++ [printed])).lookupIn? catalogue hybridType =
      some (hides "pages") ∧
    StandsFirst (registered catalogueCalls) (catalogue hybridType) printedType ∧
    ownCallback? (visitorViewing r).env (reader .null).typeOf =
      some ⟨"Reader", (hides "address").run⟩ ∧
    (redact (visitorViewing r) (reader (.text "Dock 1"))).outcome = .ok (reader .null) ∧
    ownCallback? (visitorViewing r).env recording.typeOf = none ∧
    r.lookup? recording.typeOf = some (hides "licence") ∧
    (visitorViewing r).specOf recording = (visitorViewing r).ask (hides "licence") recording := by
  intro r printed
  obtain ⟨hsome, _, hmore, hobjects⟩ :=
    nearest_callback_serves catalogue catalogueCalls hybridType
  have hlast : LastRegisters catalogueCalls digitalType (hides "licence") :=
    ⟨(registrations [] catalogueCalls).take 3, (registrations [] catalogueCalls).drop 4, rfl,
      by decide⟩
  have hserved : r.lookupIn? catalogue hybridType = some (hides "licence") :=
    (hsome _).mpr ⟨digitalType,
      ⟨[hybridType, printedType], [thingType, .builtin .object], rfl, by decide⟩, hlast⟩
  obtain ⟨hchanges, hserves⟩ := hmore printed printedType (hides "pages") rfl
  have hpages :=
    hserves ⟨[hybridType], [digitalType, thingType, .builtin .object], rfl, by decide⟩
  have hchanged :
      (after (catalogueCalls ++ [printed])).lookupIn? catalogue hybridType ≠
        r.lookupIn? catalogue hybridType := by
    rw [hpages, hserved]
    intro hsame
    have hlabel : "pages" = "licence" := congrArg Callback.label (Option.some.inj hsame)
    exact absurd hlabel (by decide)
  obtain ⟨hown, _⟩ :=
    hobjects (visitorViewing r) (reader (.text "Dock 1")) ⟨"Reader", (hides "address").run⟩
  have hreader := (hown rfl (some r)).2 (fun h => by cases h) rfl
  have hrecording : r.lookup? recording.typeOf = some (hides "licence") :=
    ((nearest_callback_serves TypeRef.lineage catalogueCalls digitalType).1 _).mpr
      ⟨digitalType, ⟨[], [thingType, .builtin .object], rfl, by decide⟩, hlast⟩
  obtain ⟨_, hregistered⟩ := hobjects (visitorViewing r) recording (hides "licence")
  refine ⟨hserved, rfl, hpages, hchanges hchanged, rfl, ?_, rfl, hrecording,
    hregistered rfl rfl hrecording⟩
  exact (congrArg Run.outcome hreader).trans rfl

end Catalogue

end Registry

end Redaction
end AccessPolicy
