import AccessPolicy.Proofs.Redaction.Updates

/-!
# Values that differ in hidden fields only

Two values are alike for a spec if they are the same but for the contents of positions that
the spec hides.  The spec reaches into a value in two ways: a nested entry has a spec for what
is in a field, and a delegated one leaves it to the callback of what is in the field.

**Inner specs.**  All entries of a spec for a field are put together into the spec of what is in
it (`inner`).  It does not matter in which order they stand, since a relation that is wanted for
a spec only asks which fields it hides.

**Depth.**  `Alike` says how deep in a value the differences may be.  At depth zero values are
the same, and at the next depth the slots of an object are compared: a slot that is hidden may
have any contents, and the contents of all others are alike at the depth below, item by item if
they are lists or tuples.

**Objects.**  What holds of an object that differs, besides, is a parameter of `Alike`.
-/

namespace AccessPolicy
namespace Redaction

/-- The spec that the callback of a value gives, whether or not it can be asked through the
value. -/
def Viewing.callbackSpec (w : Viewing) (v : Value) : Except Failure Spec :=
  (w.callbackValues v).outcome.map Entry.ofList

/-- The spec that the callback of a value gives; no entries if it gives none. -/
def Viewing.ownSpec (w : Viewing) (v : Value) : Spec :=
  match w.callbackSpec v with
  | .ok spec => spec
  | .error _ => []

/-- Whether what callbacks give for values, for a subject and options, depends on the types of
these only. -/
def Viewing.SpecsByType (w : Viewing) : Prop :=
  ∀ v v', v'.typeOf = v.typeOf → w.callbackSpec v' = w.callbackSpec v

namespace Entry

/-- What an entry applies to the value of a field. -/
def innerOf (w : Viewing) (name : String) (x : Value) : Entry → Spec
  | .nested key spec => if key.text? = some name then spec else []
  | .delegate key _ => if key.text? = some name then w.ownSpec x else []
  | _ => []

/-- The field that an entry reads in order to rework what is in it. -/
def reworked? : Entry → Option String
  | .nested key _ => key.text?
  | .delegate key _ => key.text?
  | _ => none

end Entry

/-- What a spec applies to the value of a field. -/
def inner (w : Viewing) (spec : Spec) (name : String) (x : Value) : Spec :=
  spec.flatMap (Entry.innerOf w name x)

/-- Two values are in a relation for the spec of the first, or their items are. -/
def EachAlike (R : Spec → Value → Value → Prop) (specOf : Value → Spec) (x x' : Value) : Prop :=
  (x.items? = none ∧ x'.items? = none ∧ R (specOf x) x x') ∨
    ∃ xs xs', x.items? = some xs ∧ x'.items? = some xs' ∧ x'.typeOf = x.typeOf ∧
      List.Forall₂ (fun a a' => R (specOf a) a a') xs xs'

/-- Two slots have the same key, and contents that are hidden or in a relation. -/
def SlotAlike (w : Viewing) (R : Spec → Value → Value → Prop) (spec : Spec)
    (e e' : Value × Value) : Prop :=
  e.1 = e'.1 ∧
    match e.1.text? with
    | none => e.2 = e'.2
    | some n => .hide n ∈ spec ∨ EachAlike R (inner w spec n) e.2 e'.2

/-- Two values are the same, or objects of the same type and identity whose slots are alike. -/
def Alike (w : Viewing) (ok : Spec → Value → Prop) : Nat → Spec → Value → Value → Prop
  | 0, _, v, v' => v = v'
  | k + 1, spec, v, v' =>
      v = v' ∨
        (v.hasFields = true ∧ v.isNotLoaded = false ∧ v' = v.withSlots v'.slots ∧
          (Entries.names v.slots).Nodup ∧ ok spec v ∧
          List.Forall₂ (SlotAlike w (Alike w ok k) spec) v.slots v'.slots)

/-- What nested and delegated entries of a spec find in an object are fields of it. -/
def ReadsFields (w : Viewing) (spec : Spec) (v : Value) : Prop :=
  ∀ e ∈ spec, ∀ n, e.reworked? = some n →
    (w.read? v n).isSome = true → (w.env.field? v n).isSome = true

/-- Two values, or the items of two lists or tuples, differ at most in positions that are
hidden by their own specs and by the specs that these apply to their parts. -/
def DiffersInHidden (w : Viewing) (ok : Spec → Value → Prop) (v v' : Value) : Prop :=
  ∃ k, EachAlike (Alike w ok k) w.ownSpec v v'

section Basics

variable {w : Viewing} {ok : Spec → Value → Prop}

theorem Viewing.callbackSpec_eq
    {v : Value}
    (hhides : hidesCallback w.env v = false) :
    w.callbackSpec v = (w.specOf v).outcome := by
  unfold callbackSpec specOf
  rw [specValues_eq hhides, Run.outcome_bind]
  cases (w.callbackValues v).outcome <;> rfl

theorem Viewing.callbackSpec_of_specOf
    {v : Value}
    {spec : Spec}
    (h : (w.specOf v).outcome = .ok spec) :
    w.callbackSpec v = .ok spec :=
  (callbackSpec_eq (hidesCallback_of_specOf h)).trans h

theorem Viewing.ownSpec_of_specOf
    {v : Value}
    {spec : Spec}
    (h : (w.specOf v).outcome = .ok spec) :
    w.ownSpec v = spec := by
  unfold ownSpec
  rw [callbackSpec_of_specOf h]

/-- Two values of one type that both give a spec give the same. -/
theorem Viewing.SpecsByType.eq
    (hspecs : w.SpecsByType)
    {v v' : Value}
    (htype : v'.typeOf = v.typeOf)
    {spec spec' : Spec}
    (h : (w.specOf v).outcome = .ok spec)
    (h' : (w.specOf v').outcome = .ok spec') :
    spec = spec' := by
  have hsame := hspecs v v' htype
  rw [callbackSpec_of_specOf h, callbackSpec_of_specOf h'] at hsame
  exact (Except.ok.inj hsame).symm

/-- Specs depend on types only if what callbacks give does. -/
theorem Viewing.specsByType_of_run
    (hrun :
      ∀ v v' c options, v'.typeOf = v.typeOf → callbackOf? w.env w.registry v = some c →
        c.run [v', w.subject, options] = c.run [v, w.subject, options]) :
    w.SpecsByType := by
  intro v v' htype
  have hcallback : callbackOf? w.env w.registry v' = callbackOf? w.env w.registry v := by
    unfold callbackOf?
    rw [htype]
  have hname : v'.typeName = v.typeName := by
    unfold Value.typeName
    rw [htype]
  unfold callbackSpec callbackValues
  rw [hcallback, hname]
  cases hc : callbackOf? w.env w.registry v with
  | none =>
      rfl
  | some c =>
      simp only [hrun v v' c _ htype hc]

theorem Viewing.Gives.specsByType
    {P : Value → Prop}
    (h : w.Gives P) :
    w.SpecsByType := by
  refine specsByType_of_run ?_
  intro v v' c options _ hcallback
  obtain ⟨given, _, hrun⟩ := h.run hcallback
  rw [hrun, hrun]

theorem Viewing.ownSpec_congr
    (hspecs : w.SpecsByType)
    {v v' : Value}
    (htype : v'.typeOf = v.typeOf) :
    w.ownSpec v' = w.ownSpec v := by
  unfold ownSpec
  rw [hspecs v v' htype]

/-- What a spec applies to a value depends on the type of the value only. -/
theorem inner_congr
    (hspecs : w.SpecsByType)
    {x x' : Value}
    (htype : x'.typeOf = x.typeOf)
    (spec : Spec)
    (name : String) :
    inner w spec name x' = inner w spec name x := by
  have hentry : ∀ e : Entry, e.innerOf w name x' = e.innerOf w name x := by
    intro e
    cases e with
    | delegate key type =>
        rw [Entry.innerOf, Entry.innerOf, Viewing.ownSpec_congr hspecs htype]
    | _ =>
        rfl
  unfold inner
  exact List.flatMap_congr fun e _ => hentry e

theorem inner_cons
    (e : Entry)
    (spec : Spec)
    (name : String)
    (x : Value) :
    inner w (e :: spec) name x = e.innerOf w name x ++ inner w spec name x := by
  rfl

theorem alike_refl
    (k : Nat)
    (spec : Spec)
    (v : Value) :
    Alike w ok k spec v v := by
  cases k with
  | zero =>
      rfl
  | succ k =>
      exact Or.inl rfl

theorem eachAlike_refl
    {R : Spec → Value → Value → Prop}
    (hrefl : ∀ spec v, R spec v v)
    (specOf : Value → Spec)
    (x : Value) :
    EachAlike R specOf x x := by
  cases hitems : x.items? with
  | none =>
      exact Or.inl ⟨hitems, hitems, hrefl _ x⟩
  | some xs =>
      exact Or.inr ⟨xs, xs, hitems, hitems, rfl, List.forall₂_same.mpr fun a _ => hrefl _ a⟩

theorem typeOf_of_alike
    {k : Nat}
    {spec : Spec}
    {v v' : Value}
    (h : Alike w ok k spec v v') :
    v'.typeOf = v.typeOf := by
  cases k with
  | zero =>
      rw [show v = v' from h]
  | succ k =>
      rcases h with rfl | ⟨_, _, hv', _⟩
      · rfl
      · rw [hv', Value.typeOf_withSlots]

/-- Values that are alike are skipped both or not at all, and in the first case are the same. -/
theorem isSkipped_of_alike
    {k : Nat}
    {spec : Spec}
    {v v' : Value}
    (h : Alike w ok k spec v v') :
    isSkipped v' = isSkipped v ∧ (isSkipped v = true → v = v') := by
  cases k with
  | zero =>
      have heq : v = v' := h
      subst heq
      exact ⟨rfl, fun _ => rfl⟩
  | succ k =>
      rcases h with rfl | ⟨hfields, hloaded, hv', _⟩
      · exact ⟨rfl, fun _ => rfl⟩
      · have hskip :
            ∀ x : Value, x.hasFields = true → x.isNotLoaded = false → isSkipped x = false := by
          intro x hx hx'
          cases x with
          | null =>
              cases hx
          | _ =>
              exact hx'
        have hv := hskip v hfields hloaded
        have hfields' : v'.hasFields = true := by
          rw [hv', Value.hasFields_withSlots, hfields]
        have hloaded' : v'.isNotLoaded = false := by
          rw [hv', Value.isNotLoaded_withSlots, hloaded]
        refine ⟨by rw [hv, hskip v' hfields' hloaded'], ?_⟩
        intro hskipped
        rw [hv] at hskipped
        cases hskipped

/-- The same holds of contents that are alike item by item. -/
theorem isSkipped_of_eachAlike
    {k : Nat}
    {specOf : Value → Spec}
    {x x' : Value}
    (h : EachAlike (Alike w ok k) specOf x x') :
    isSkipped x' = isSkipped x ∧ (isSkipped x = true → x = x') := by
  rcases h with ⟨_, _, h⟩ | ⟨xs, xs', hxs, hxs', _, _⟩
  · exact isSkipped_of_alike h
  · have hskip : ∀ {y : Value} {ys : List Value}, y.items? = some ys → isSkipped y = false := by
      intro y ys hy
      cases y <;> first | rfl | cases hy
    rw [hskip hxs, hskip hxs']
    exact ⟨rfl, fun h => by cases h⟩

theorem eq_of_eachAlike
    {specOf : Value → Spec}
    {x x' : Value}
    (h : EachAlike (fun _ v v' => v = v') specOf x x') :
    x = x' := by
  rcases h with ⟨_, _, rfl⟩ | ⟨xs, xs', hxs, hxs', htype, hall⟩
  · rfl
  · rw [List.forall₂_eq_eq_eq] at hall
    subst hall
    cases x <;> cases hxs <;> cases x' <;> cases hxs' <;> first | rfl | cases htype

theorem EachAlike.imp
    {R R' : Spec → Value → Value → Prop}
    {specOf specOf' : Value → Spec}
    {x x' : Value}
    (h : EachAlike R specOf x x')
    (himp : ∀ a a', R (specOf a) a a' → R' (specOf' a) a a') :
    EachAlike R' specOf' x x' := by
  rcases h with ⟨hx, hx', h⟩ | ⟨xs, xs', hxs, hxs', htype, hall⟩
  · exact Or.inl ⟨hx, hx', himp x x' h⟩
  · exact Or.inr ⟨xs, xs', hxs, hxs', htype, hall.imp fun a a' h => himp a a' h⟩

/-- Values that are alike for no spec at all are the same. -/
theorem eq_of_alike_nil
    {k : Nat}
    {v v' : Value}
    (h : Alike w ok k [] v v') :
    v = v' := by
  induction k generalizing v v' with
  | zero =>
      exact h
  | succ k ih =>
      rcases h with rfl | ⟨_, _, hv', _, _, hslots⟩
      · rfl
      · have hsame : v.slots = v'.slots := by
          rw [← List.forall₂_eq_eq_eq]
          refine hslots.imp ?_
          rintro ⟨key, x⟩ ⟨key', x'⟩ ⟨hkey, h⟩
          dsimp only at hkey h
          subst hkey
          have hx : x = x' := by
            cases hn : key.text? with
            | none =>
                rw [hn] at h
                exact h
            | some n =>
                rw [hn] at h
                rcases h with hhide | heach
                · cases hhide
                · have hsame : EachAlike (fun _ a a' => a = a') (inner w [] n) x x' :=
                    heach.imp fun a a' ha => ih ha
                  exact eq_of_eachAlike hsame
          rw [hx]
        rw [hv', ← hsame, Value.withSlots_slots]

/-- Items in a relation are taken to items in another one, one by one. -/
theorem forall₂_of_steps
    {R R' : Spec → Value → Value → Prop}
    {specOf specOf' : Value → Spec}
    {f f' : Value → Run Value}
    {xs xs' ys ys' : List Value}
    (hstep :
      ∀ a a' b b', R (specOf a) a a' → (f a).outcome = .ok b → (f' a').outcome = .ok b' →
        R' (specOf' b) b b')
    (hpairs : List.Forall₂ (fun a a' => R (specOf a) a a') xs xs')
    (hall : List.Forall₂ (fun a b => (f a).outcome = .ok b) xs ys)
    (hall' : List.Forall₂ (fun a b => (f' a).outcome = .ok b) xs' ys') :
    List.Forall₂ (fun b b' => R' (specOf' b) b b') ys ys' := by
  induction hpairs generalizing ys ys' with
  | nil =>
      cases hall
      cases hall'
      exact List.Forall₂.nil
  | cons ha _ ih =>
      cases hall with
      | cons hb hbs =>
          cases hall' with
          | cons hb' hbs' =>
              exact List.Forall₂.cons (hstep _ _ _ _ ha hb hb') (ih hbs hbs')

/-- What is done to contents that are alike, item by item, gives contents that are alike. -/
theorem eachAlike_of_redactEach
    {R R' : Spec → Value → Value → Prop}
    {specOf specOf' : Value → Spec}
    {f f' : Value → Run Value}
    {x x' y y' : Value}
    (hitems : ∀ a b, (f a).outcome = .ok b → b.items? = a.items?)
    (hitems' : ∀ a b, (f' a).outcome = .ok b → b.items? = a.items?)
    (hstep :
      ∀ a a' b b', R (specOf a) a a' → (f a).outcome = .ok b → (f' a').outcome = .ok b' →
        R' (specOf' b) b b')
    (hx : EachAlike R specOf x x')
    (hy : (redactEach f x).outcome = .ok y)
    (hy' : (redactEach f' x').outcome = .ok y') :
    EachAlike R' specOf' y y' := by
  -- Both contents are lists or neither is, since they are alike.
  rcases redactEach_eq_ok hy with ⟨hnone, hy⟩ | ⟨xs, ys, hxs, hys, htype, hall⟩
  · rcases redactEach_eq_ok hy' with ⟨hnone', hy'⟩ | ⟨xs', _, hxs', _⟩
    · rcases hx with ⟨_, _, hx⟩ | ⟨xs, _, hxs, _⟩
      · left
        refine ⟨?_, ?_, hstep x x' y y' hx hy hy'⟩
        · rw [hitems x y hy, hnone]
        · rw [hitems' x' y' hy', hnone']
      · rw [hnone] at hxs
        cases hxs
    · rcases hx with ⟨_, hnone', _⟩ | ⟨xs, _, hxs, _⟩
      · rw [hnone'] at hxs'
        cases hxs'
      · rw [hnone] at hxs
        cases hxs
  · rcases hx with ⟨hnone, _, _⟩ | ⟨as, as', has, has', htypes, hpairs⟩
    · rw [hnone] at hxs
      cases hxs
    · rw [hxs] at has
      cases has
      rcases redactEach_eq_ok hy' with ⟨hnone', _⟩ | ⟨xs', ys', hxs', hys', htype', hall'⟩
      · rw [hnone'] at has'
        cases has'
      · rw [hxs'] at has'
        cases has'
        right
        refine ⟨ys, ys', hys, hys', by rw [htype', htypes, htype], ?_⟩
        exact forall₂_of_steps hstep hpairs hall hall'

end Basics
end Redaction
end AccessPolicy
