import AccessPolicy.Proofs.Redaction.Updates

/-!
# Redaction discloses no hidden field

A spec hides fields of an object and, by nested entries, fields of the objects in it.  What is
hidden stays hidden: no entry, before or after the one that hides a field, brings its value
back.

**Places.**  A position inside of a value is a list of places, each a field of an object or an
item of a list or tuple.  `Reaches` says that the fields of a path lead to a position: through
fields, through the items of a list in a field, and through nothing that was not loaded.

**Veils.**  A position is veiled if the marker stands there or at a place on the way to it.
The marker is a scalar, so a veil is never looked behind.

**Steps.**  `Hides` is what is shown of applying specs at one depth: veils stay, what a path
reaches is still reached or veiled afterwards, and what the spec hides is veiled.  Each depth
follows from the one below it (`hides_apply_succ`).
-/

namespace AccessPolicy

/-- Whether a value has no parts: a truth value, a number, a text, a member of a closed set
or nothing. -/
def Value.isScalar : Value → Bool
  | .null => true
  | .bool _ => true
  | .int _ => true
  | .float _ => true
  | .text _ => true
  | .tag _ => true
  | _ => false

namespace Redaction

/-- A place in a value: a field of an object, or an item of a list or tuple. -/
inductive Place where
  | field (name : String)
  | item (index : Nat)
deriving DecidableEq, Repr

namespace Viewing

variable (w : Viewing)

/-- The part of a value at a place. -/
def part? (v : Value) : Place → Option Value
  | .field name => w.env.field? v name
  | .item i => v.items?.bind fun xs => xs[i]?

/-- The part of a value at a position. -/
def at? (v : Value) : List Place → Option Value
  | [] => some v
  | p :: rest => (w.part? v p).bind fun x => at? x rest

end Viewing

/-- A spec has entries that lead along the names of a path and hide a field at the end. -/
def HasPath : List String → String → Spec → Prop
  | [], field, spec => .hide field ∈ spec
  | n :: path, field, spec =>
      ∃ key inner, .nested key inner ∈ spec ∧ key.text? = some n ∧ HasPath path field inner

/-- A property of a value in a field, or of an item if that is a list or tuple; nothing that
was not loaded has it. -/
def Within (R : Value → List Place → Prop) (x : Value) (pos : List Place) : Prop :=
  match x.items? with
  | none => x.isNotLoaded = false ∧ R x pos
  | some xs =>
      ∃ i y pos', pos = .item i :: pos' ∧ xs[i]? = some y ∧ y.isNotLoaded = false ∧ R y pos'

/-- The names of a path and a last field lead to a position in a value where there is a
field of that name. -/
def Reaches (w : Viewing) : List String → String → Value → List Place → Prop
  | [], field, v, pos => pos = [.field field] ∧ (w.env.field? v field).isSome
  | n :: path, field, v, pos =>
      ∃ x pos', pos = .field n :: pos' ∧ w.env.field? v n = some x ∧
        Within (Reaches w path field) x pos'

/-- Each position of a value that a path of a spec leads to has the marker in a result, or a
place on the way to it has. -/
def HiddenIn (w : Viewing) (spec : Spec) (v r : Value) : Prop :=
  ∀ path field pos,
    HasPath path field spec →
    Reaches w path field v pos →
    ∃ q, q ≠ [] ∧ q <+: pos ∧ w.at? r q = some w.marker

/-- The marker stands at a position or on the way to it. -/
inductive Veiled (w : Viewing) : Value → List Place → Prop
  | here (pos : List Place) :
      Veiled w w.marker pos
  | part
      {v x : Value}
      {p : Place}
      {pos : List Place}
      (hpart : w.part? v p = some x)
      (hveil : Veiled w x pos) :
      Veiled w v (p :: pos)

section Parts

variable {w : Viewing}

/-- A position is veiled iff some part on the way to it is the marker. -/
theorem veiled_iff
    (v : Value)
    (pos : List Place) :
    Veiled w v pos ↔ ∃ q, q <+: pos ∧ w.at? v q = some w.marker := by
  constructor
  · intro h
    induction h with
    | here pos =>
        exact ⟨[], List.nil_prefix, rfl⟩
    | @part v x p pos hpart _ ih =>
        obtain ⟨q, hq, hat⟩ := ih
        refine ⟨p :: q, List.cons_prefix_cons.mpr ⟨rfl, hq⟩, ?_⟩
        simp [Viewing.at?, hpart, hat]
  · rintro ⟨q, hq, hat⟩
    induction q generalizing v pos with
    | nil =>
        cases hat
        exact Veiled.here pos
    | cons p q ih =>
        obtain ⟨pos', rfl⟩ : ∃ pos', pos = p :: pos' := by
          obtain ⟨rest, rfl⟩ := hq
          exact ⟨q ++ rest, rfl⟩
        simp only [Viewing.at?, Option.bind_eq_some_iff] at hat
        obtain ⟨x, hpart, hx⟩ := hat
        exact Veiled.part hpart (ih x pos' (List.cons_prefix_cons.mp hq).2 hx)

variable [w.env.HandlesUsually]

theorem hasFields_of_isScalar
    {v : Value}
    (h : v.isScalar = true) :
    v.hasFields = false := by
  cases v <;> simp_all [Value.isScalar, Value.hasFields]

theorem items?_of_isScalar
    {v : Value}
    (h : v.isScalar = true) :
    v.items? = none := by
  cases v <;> simp_all [Value.isScalar, Value.items?]

theorem getElem?_of_forall₂
    {R : Value → Value → Prop}
    {xs ys : List Value}
    (hall : List.Forall₂ R xs ys)
    {i : Nat}
    {x : Value}
    (hx : xs[i]? = some x) :
    ∃ y, ys[i]? = some y ∧ R x y := by
  obtain ⟨hi, rfl⟩ := List.getElem?_eq_some_iff.mp hx
  have hi' : i < ys.length := by
    rw [← hall.length_eq]
    exact hi
  exact ⟨ys[i], List.getElem?_eq_getElem hi', hall.get hi hi'⟩

end Parts

/-- What is shown of applying specs, as far down as `again` goes. -/
structure Hides (w : Viewing) (again : Spec → Value → Run Value) : Prop where
  isNotLoaded_eq :
    ∀ {spec v r}, Entry.AllNameFields spec → (again spec v).outcome = .ok r →
      r.isNotLoaded = v.isNotLoaded
  items?_eq :
    ∀ {spec v r}, Entry.AllNameFields spec → (again spec v).outcome = .ok r →
      r.items? = v.items?
  veiled :
    ∀ {spec v r pos}, Entry.AllNameFields spec → (again spec v).outcome = .ok r →
      Veiled w v pos → Veiled w r pos
  reaches :
    ∀ {spec v r path field pos}, Entry.AllNameFields spec → (again spec v).outcome = .ok r →
      Reaches w path field v pos → Reaches w path field r pos ∨ Veiled w r pos
  hidden :
    ∀ {spec v r path field pos}, Entry.AllNameFields spec → (again spec v).outcome = .ok r →
      HasPath path field spec → Reaches w path field v pos → Veiled w r pos

section Steps

variable {w : Viewing} {again : Spec → Value → Run Value}

/-- What an entry makes of a single value: nothing, or what some spec makes of it. -/
def Touches (again : Spec → Value → Run Value) (x y : Value) : Prop :=
  y = x ∨ ∃ spec, Entry.AllNameFields spec ∧ (again spec x).outcome = .ok y

/-- An entry puts the marker in place of a value, or touches it or each of its items. -/
theorem reworks_cases
    (hcallbacks : w.CallbacksNameFields)
    {x y : Value}
    (h : Reworks w again x y) :
    y = w.marker ∨ (x.items? = none ∧ Touches again x y) ∨
      ∃ xs ys, x.items? = some xs ∧ y.items? = some ys ∧
        List.Forall₂ (Touches again) xs ys := by
  cases h with
  | hide =>
      exact Or.inl rfl
  | @nested spec _ _ hspec _ h =>
      right
      rcases redactEach_eq_ok h with ⟨hnone, hy⟩ | ⟨xs, ys, hxs, hys, _, hall⟩
      · exact Or.inl ⟨hnone, Or.inr ⟨spec, hspec, hy⟩⟩
      · exact Or.inr ⟨xs, ys, hxs, hys, hall.imp fun a b hab => Or.inr ⟨spec, hspec, hab⟩⟩
  | @delegate key type _ _ _ h =>
      right
      have htouch :
          ∀ {a b : Value}, (delegateItem w again key type a).outcome = .ok b →
            Touches again a b := by
        intro a b hab
        rcases delegateItem_eq_ok_iff.mp hab with ⟨_, hb⟩ | ⟨_, _, spec, hspec, hb⟩
        · exact Or.inl hb
        · exact Or.inr ⟨spec, hcallbacks a spec hspec, hb⟩
      rcases redactEach_eq_ok h with ⟨hnone, hy⟩ | ⟨xs, ys, hxs, hys, _, hall⟩
      · exact Or.inl ⟨hnone, htouch hy⟩
      · exact Or.inr ⟨xs, ys, hxs, hys, hall.imp fun a b hab => htouch hab⟩

section Values

/-- A veil on a value in a field stays when the value is touched. -/
theorem veiled_of_touches
    (hagain : Hides w again)
    {x y : Value}
    {pos : List Place}
    (h : Touches again x y)
    (hveil : Veiled w x pos) :
    Veiled w y pos := by
  rcases h with rfl | ⟨spec, hspec, hy⟩
  · exact hveil
  · exact hagain.veiled hspec hy hveil

variable (hmarker : w.marker.isScalar = true) (hagain : Hides w again)
variable (hcallbacks : w.CallbacksNameFields)
include hmarker hagain hcallbacks

/-- A veil in a field stays whatever an entry makes of the field. -/
theorem veiled_of_reworks
    {x y : Value}
    {pos : List Place}
    (h : Reworks w again x y)
    (hveil : Veiled w x pos) :
    Veiled w y pos := by
  rcases reworks_cases hcallbacks h with rfl | ⟨_, htouch⟩ | ⟨xs, ys, hxs, hys, hall⟩
  · exact Veiled.here pos
  · exact veiled_of_touches hagain htouch hveil
  · cases hveil with
    | here =>
        rw [items?_of_isScalar hmarker] at hxs
        cases hxs
    | @part _ x' p pos' hpart hveil =>
        cases p with
        | field n =>
            rw [Viewing.part?, w.env.field?_of_items? hxs] at hpart
            cases hpart
        | item i =>
            rw [Viewing.part?, hxs] at hpart
            obtain ⟨y', hy', htouch⟩ := getElem?_of_forall₂ hall hpart
            refine Veiled.part (x := y') ?_
              (veiled_of_touches hagain htouch hveil)
            rw [Viewing.part?, hys]
            exact hy'

/-- What a path reaches in a field is reached or veiled whatever an entry makes of the
field. -/
theorem within_of_reworks
    {path : List String}
    {field : String}
    {x y : Value}
    {pos : List Place}
    (h : Reworks w again x y)
    (hreach : Within (Reaches w path field) x pos ∨ Veiled w x pos) :
    Within (Reaches w path field) y pos ∨ Veiled w y pos := by
  have htouched :
      ∀ {a b : Value} {pos : List Place},
        Touches again a b →
        a.isNotLoaded = false →
        Reaches w path field a pos →
        b.isNotLoaded = false ∧ b.items? = a.items? ∧
          (Reaches w path field b pos ∨ Veiled w b pos) := by
    intro a b pos hab hloaded ha
    rcases hab with rfl | ⟨spec, hspec, hb⟩
    · exact ⟨hloaded, rfl, Or.inl ha⟩
    · rw [hagain.isNotLoaded_eq hspec hb, hagain.items?_eq hspec hb]
      exact ⟨hloaded, rfl, hagain.reaches hspec hb ha⟩
  rcases hreach with hreach | hveil
  · rcases reworks_cases hcallbacks h with rfl | ⟨hnone, htouch⟩ | ⟨xs, ys, hxs, hys, hall⟩
    · exact Or.inr (Veiled.here pos)
    · unfold Within at hreach
      rw [hnone] at hreach
      obtain ⟨hloaded, hitems, hy⟩ := htouched htouch hreach.1 hreach.2
      rcases hy with hy | hy
      · left
        unfold Within
        rw [hitems, hnone]
        exact ⟨hloaded, hy⟩
      · exact Or.inr hy
    · unfold Within at hreach
      rw [hxs] at hreach
      obtain ⟨i, a, pos', rfl, ha, hloaded, hreach⟩ := hreach
      obtain ⟨b, hb, htouch⟩ := getElem?_of_forall₂ hall ha
      obtain ⟨hloaded', _, hy⟩ := htouched htouch hloaded hreach
      rcases hy with hy | hy
      · left
        unfold Within
        rw [hys]
        exact ⟨i, b, pos', rfl, hb, hloaded', hy⟩
      · right
        refine Veiled.part (x := b) ?_ hy
        rw [Viewing.part?, hys]
        exact hb
  · exact Or.inr (veiled_of_reworks hmarker hagain hcallbacks h hveil)

omit hmarker hcallbacks in
/-- What a nested spec hides in a field is veiled when the spec was applied to the field. -/
theorem veiled_of_redactEach
    {spec : Spec}
    {path : List String}
    {field : String}
    {x y : Value}
    {pos : List Place}
    (hspec : Entry.AllNameFields spec)
    (hpath : HasPath path field spec)
    (h : (redactEach (again spec) x).outcome = .ok y)
    (hreach : Within (Reaches w path field) x pos) :
    Veiled w y pos := by
  unfold Within at hreach
  rcases redactEach_eq_ok h with ⟨hnone, hy⟩ | ⟨xs, ys, hxs, hys, _, hall⟩
  · rw [hnone] at hreach
    exact hagain.hidden hspec hy hpath hreach.2
  · rw [hxs] at hreach
    obtain ⟨i, a, pos', rfl, ha, _, hreach⟩ := hreach
    obtain ⟨b, hb, hab⟩ := getElem?_of_forall₂ hall ha
    refine Veiled.part (x := b) ?_ (hagain.hidden hspec hab hpath hreach)
    rw [Viewing.part?, hys]
    exact hb

end Values

theorem isSkipped_of_within
    {path : List String}
    {field : String}
    {x : Value}
    {pos : List Place}
    (hreach : Within (Reaches w path field) x pos) :
    isSkipped x = false := by
  unfold Within at hreach
  cases x with
  | null =>
      cases path with
      | nil =>
          simp [Value.items?, Reaches, Environment.field?, Value.hasFields] at hreach
      | cons n path =>
          simp [Value.items?, Reaches, Environment.field?, Value.hasFields] at hreach
  | object t fields =>
      exact hreach.1
  | _ =>
      rfl

end Steps

section Objects

variable {w : Viewing} {d : Nat}
variable [w.env.HandlesUsually]

/-- Of an object with a field, the result has what the updates make of the field. -/
theorem field?_eq_current?
    {v x : Value}
    {updates : Entries}
    {n : String}
    (hupdates : Entries.IsNamed IsFieldName updates)
    (hfield : w.env.field? v n = some x) :
    w.env.field? (v.withSlots (Entries.merge v.slots updates)) n =
      current? w v updates n := by
  rw [field?_of_apply (w.env.hasFields_of_field? hfield) hupdates, hfield]
  unfold current?
  rw [w.read?_of_field? hfield]

/-- What every entry keeps of a field, the result has. -/
theorem exists_field?_of_keeps
    {spec : Spec}
    {v r x : Value}
    {n : String}
    {Q : Value → Prop}
    (hspec : Entry.AllNameFields spec)
    (h : (apply w (d + 1) spec v).outcome = .ok r)
    (hfield : w.env.field? v n = some x)
    (hkeeps : ∀ x y, Reworks w (apply w d) x y → Q x → Q y)
    (hx : Q x) :
    ∃ y, w.env.field? r n = some y ∧ Q y := by
  obtain ⟨d', updates, hd, hcollect, hupdates, hr⟩ := apply_eq_ok hspec h
  cases hd
  rw [if_pos (w.env.hasFields_of_field? hfield)] at hr
  have hstart : current? w v [] n = some x := w.read?_of_field? hfield
  obtain ⟨y, hy, hQ⟩ :=
    (collect_keeps hspec Entries.isNamed_nil hcollect).2 Q n x hkeeps hstart hx
  refine ⟨y, ?_, hQ⟩
  rw [hr, field?_eq_current? hupdates hfield, hy]

/-- What one entry brings about in a field, and every later entry keeps, the result has. -/
theorem exists_field?_of_mem
    {spec : Spec}
    {e : Entry}
    {v r x : Value}
    {n : String}
    {Q R : Value → Prop}
    (hspec : Entry.AllNameFields spec)
    (h : (apply w (d + 1) spec v).outcome = .ok r)
    (hfield : w.env.field? v n = some x)
    (hx : Q x)
    (hbefore : ∀ x y, Reworks w (apply w d) x y → Q x → Q y)
    (he : e ∈ spec)
    (hentry :
      ∀ updates updates' x,
        (applyEntry w (apply w d) v updates e).outcome = .ok updates' →
        current? w v updates n = some x →
        Q x →
        ∃ y, current? w v updates' n = some y ∧ R y)
    (hafter : ∀ x y, Reworks w (apply w d) x y → R x → R y) :
    ∃ y, w.env.field? r n = some y ∧ R y := by
  obtain ⟨d', updates, hd, hcollect, hupdates, hr⟩ := apply_eq_ok hspec h
  cases hd
  rw [if_pos (w.env.hasFields_of_field? hfield)] at hr
  -- The first property lasts up to the entry, and the second from there on.
  obtain ⟨before, after, rfl⟩ := List.append_of_mem he
  obtain ⟨hspecBefore, hspecEntry, hspecAfter⟩ :=
    (Entry.allNameFields_append before (e :: after)).mp hspec
  rw [collect_append, except_bind_eq_ok_iff] at hcollect
  obtain ⟨first, hfirst, hrest⟩ := hcollect
  obtain ⟨second, happly, hlast⟩ := collect_cons_eq_ok hrest
  have hstart : current? w v [] n = some x := w.read?_of_field? hfield
  obtain ⟨hnamed, hkeeps⟩ := collect_keeps hspecBefore Entries.isNamed_nil hfirst
  obtain ⟨x₁, hx₁, hQ₁⟩ := hkeeps Q n x hbefore hstart hx
  obtain ⟨x₂, hx₂, hQ₂⟩ := hentry first second x₁ happly hx₁ hQ₁
  have hnamed' := (applyEntry_eq_ok hspecEntry hnamed happly).1
  obtain ⟨y, hy, hQ⟩ := (collect_keeps hspecAfter hnamed' hlast).2 R n x₂ hafter hx₂ hQ₂
  refine ⟨y, ?_, hQ⟩
  rw [hr, field?_eq_current? hupdates hfield, hy]

variable (hmarker : w.marker.isScalar = true) (hcallbacks : w.CallbacksNameFields)
variable (hagain : Hides w (apply w d))
include hmarker hcallbacks hagain

/-- A veil stays when a spec is applied. -/
theorem veiled_of_apply
    {spec : Spec}
    {v r : Value}
    {pos : List Place}
    (hspec : Entry.AllNameFields spec)
    (h : (apply w (d + 1) spec v).outcome = .ok r)
    (hveil : Veiled w v pos) :
    Veiled w r pos := by
  cases hfields : v.hasFields with
  | false =>
      obtain ⟨_, _, _, _, _, hr⟩ := apply_eq_ok hspec h
      rw [hfields] at hr
      rw [hr]
      exact hveil
  | true =>
      cases hveil with
      | here =>
          rw [hasFields_of_isScalar hmarker] at hfields
          cases hfields
      | @part _ x p pos' hpart hveil =>
          cases p with
          | field n =>
              obtain ⟨y, hy, hQ⟩ :=
                exists_field?_of_keeps (Q := fun x => Veiled w x pos') hspec h hpart
                  (fun _ _ hxy hx => veiled_of_reworks hmarker hagain hcallbacks hxy hx) hveil
              exact Veiled.part hy hQ
          | item i =>
              exfalso
              simp only [Viewing.part?, Option.bind_eq_some_iff] at hpart
              obtain ⟨xs, hxs, _⟩ := hpart
              rw [Value.items?_of_hasFields hfields] at hxs
              cases hxs

/-- What a path reaches is reached or veiled after a spec was applied. -/
theorem reaches_of_apply
    {spec : Spec}
    {v r : Value}
    {path : List String}
    {field : String}
    {pos : List Place}
    (hspec : Entry.AllNameFields spec)
    (h : (apply w (d + 1) spec v).outcome = .ok r)
    (hreach : Reaches w path field v pos) :
    Reaches w path field r pos ∨ Veiled w r pos := by
  cases path with
  | nil =>
      obtain ⟨rfl, hsome⟩ := hreach
      obtain ⟨x, hx⟩ := Option.isSome_iff_exists.mp hsome
      obtain ⟨y, hy, _⟩ :=
        exists_field?_of_keeps (Q := fun _ => True) hspec h hx (fun _ _ _ _ => trivial) trivial
      left
      exact ⟨rfl, by simp [hy]⟩
  | cons n path =>
      obtain ⟨x, pos', rfl, hx, hwithin⟩ := hreach
      obtain ⟨y, hy, hQ⟩ :=
        exists_field?_of_keeps
          (Q := fun x => Within (Reaches w path field) x pos' ∨ Veiled w x pos') hspec h hx
          (fun _ _ hxy hx => within_of_reworks hmarker hagain hcallbacks hxy hx) (Or.inl hwithin)
      rcases hQ with hQ | hQ
      · left
        exact ⟨y, pos', rfl, hy, hQ⟩
      · right
        exact Veiled.part hy hQ

/-- What a spec hides is veiled when it was applied. -/
theorem hidden_of_apply
    {spec : Spec}
    {v r : Value}
    {path : List String}
    {field : String}
    {pos : List Place}
    (hspec : Entry.AllNameFields spec)
    (h : (apply w (d + 1) spec v).outcome = .ok r)
    (hpath : HasPath path field spec)
    (hreach : Reaches w path field v pos) :
    Veiled w r pos := by
  cases path with
  | nil =>
      obtain ⟨rfl, hsome⟩ := hreach
      obtain ⟨x, hx⟩ := Option.isSome_iff_exists.mp hsome
      obtain ⟨y, hy, hQ⟩ :=
        exists_field?_of_mem (Q := fun _ => True) (R := fun x => Veiled w x []) hspec h hx
          trivial (fun _ _ _ _ => trivial) hpath
          (by
            intro updates updates' x' hentry _ _
            have hresult := applyEntry_hide_eq_ok hentry
            rw [w.read?_of_field? hx, Option.isSome_some, if_pos rfl] at hresult
            refine ⟨w.marker, ?_, Veiled.here []⟩
            rw [hresult, current?_set rfl, if_pos rfl])
          (fun _ _ hxy hx => veiled_of_reworks hmarker hagain hcallbacks hxy hx)
      exact Veiled.part hy hQ
  | cons n path =>
      obtain ⟨x, pos', rfl, hx, hwithin⟩ := hreach
      obtain ⟨key, inner, hmem, hkey, hinner⟩ := hpath
      obtain ⟨_, hnames⟩ := Entry.namesFields_of_mem hspec hmem
      obtain ⟨y, hy, hQ⟩ :=
        exists_field?_of_mem
          (Q := fun x => Within (Reaches w path field) x pos' ∨ Veiled w x pos')
          (R := fun x => Veiled w x pos') hspec h hx (Or.inl hwithin)
          (fun _ _ hxy hx => within_of_reworks hmarker hagain hcallbacks hxy hx) hmem
          (by
            intro updates updates' x' hentry hx' hQ
            rcases redactField_eq_ok hkey hentry with ⟨rfl, hskipped⟩ | ⟨x₁, y, hx₁, hskip, hy, rfl⟩
            · rcases hQ with hQ | hQ
              · have hskip := hskipped x' hx'
                rw [isSkipped_of_within hQ] at hskip
                cases hskip
              · exact ⟨x', hx', hQ⟩
            · rw [hx'] at hx₁
              cases hx₁
              refine ⟨y, by rw [current?_set hkey, if_pos rfl], ?_⟩
              rcases hQ with hQ | hQ
              · exact veiled_of_redactEach hagain hnames hinner hy hQ
              · exact veiled_of_reworks hmarker hagain hcallbacks (.nested hnames hskip hy) hQ)
          (fun _ _ hxy hx => veiled_of_reworks hmarker hagain hcallbacks hxy hx)
      exact Veiled.part hy hQ

/-- What is shown at one depth holds at the next. -/
theorem hides_apply_succ :
    Hides w (apply w (d + 1)) where
  isNotLoaded_eq := by
    intro spec v r hspec h
    obtain ⟨_, _, _, _, _, hr⟩ := apply_eq_ok hspec h
    rw [hr]
    split
    · exact Value.isNotLoaded_withSlots _ _
    · rfl
  items?_eq := by
    intro spec v r hspec h
    exact (typeOf_of_apply hspec h).2
  veiled := veiled_of_apply hmarker hcallbacks hagain
  reaches := reaches_of_apply hmarker hcallbacks hagain
  hidden := hidden_of_apply hmarker hcallbacks hagain

end Objects

/-- What redaction makes of an object, its own spec makes of it at some depth. -/
theorem exists_apply_of_redact
    {w : Viewing}
    {spec : Spec}
    {v r : Value}
    (hfields : v.hasFields = true)
    (hspec : (w.specOf v).outcome = .ok spec)
    (hredact : (redact w v).outcome = .ok r) :
    ∃ depth, (apply w depth spec v).outcome = .ok r :=
  ⟨depthLimit, by rw [← outcome_redact_of_hasFields hfields hspec, hredact]⟩

section Disclosure

variable {w : Viewing} (hmarker : w.marker.isScalar = true)
variable (hcallbacks : w.CallbacksNameFields)
include hmarker hcallbacks
variable [w.env.HandlesUsually]

/-- Applying specs hides what they name, at every depth. -/
theorem hides_apply
    (depth : Nat) :
    Hides w (apply w depth) := by
  induction depth with
  | zero =>
      have hzero : ∀ {spec v r}, ¬ (apply w 0 spec v).outcome = .ok r := by
        intro spec v r h
        cases h
      exact
        ⟨fun _ h => absurd h hzero, fun _ h => absurd h hzero, fun _ h => absurd h hzero,
          fun _ h => absurd h hzero, fun _ h => absurd h hzero⟩
  | succ d ih =>
      exact hides_apply_succ hmarker hcallbacks ih

/-- Where a spec that was applied hides a field, the marker is in the result. -/
theorem hiddenIn_of_apply
    {spec : Spec}
    (hspec : Entry.AllNameFields spec)
    {depth : Nat}
    {v r : Value}
    (happly : (apply w depth spec v).outcome = .ok r) :
    HiddenIn w spec v r := by
  intro path field pos hpath hreach
  have hveil := (hides_apply hmarker hcallbacks depth).hidden hspec happly hpath hreach
  obtain ⟨q, hq, hat⟩ := (veiled_iff r pos).mp hveil
  refine ⟨q, ?_, hq, hat⟩
  rintro rfl
  -- The result is an object, since some field of it is reached; the marker is none.
  have hfields : v.hasFields = true := by
    cases path with
    | nil =>
        obtain ⟨_, hsome⟩ := hreach
        obtain ⟨x, hx⟩ := Option.isSome_iff_exists.mp hsome
        exact w.env.hasFields_of_field? hx
    | cons n path =>
        obtain ⟨x, _, _, hx, _⟩ := hreach
        exact w.env.hasFields_of_field? hx
  have hresult : r = w.marker := Option.some.inj hat
  obtain ⟨_, _, _, _, _, hr⟩ := apply_eq_ok hspec happly
  rw [if_pos hfields] at hr
  have hscalar := hasFields_of_isScalar hmarker
  rw [← hresult, hr, Value.hasFields_withSlots, hfields] at hscalar
  cases hscalar

end Disclosure

section Articles

/-- A type of authors, who keep their email to themselves. -/
def authorType : TypeRef :=
  .declared "Author" .plain ["name", "email", "phone"] none true (.builtin .object)

/-- A type of articles, which hide the phone numbers of their authors. -/
def articleType : TypeRef :=
  .declared "Article" .plain ["title", "authors"] none true (.builtin .object)

/-- What authors give as their spec. -/
def authorEntries : Value :=
  .list [.text "email"]

/-- What articles give as their spec. -/
def articleEntries : Value :=
  .list
    [.tuple [.text "authors", .list [.text "phone"]],
      .tuple [.text "authors", .type authorType]]

/-- A reader looks at articles and their authors. -/
def readerViewing : Viewing where
  env :=
    { apply := fun _ _ => .error .wrongType
      importable := []
      classMembers := fun _ => []
      callback := fun t =>
        if t = authorType then some fun _ => .ok authorEntries
        else if t = articleType then some fun _ => .ok articleEntries
        else none }
  subject := .text "reader"
  options := .null
  marker := Value.redacted
  registry := none

instance : readerViewing.env.HandlesUsually :=
  Environment.handlesUsually_of_classMembers (fun _ => rfl) (fun _ => rfl) (fun _ => rfl)

def author (name email : String) (phone : Int) : Value :=
  .object authorType [("name", .text name), ("email", .text email), ("phone", .int phone)]

/-- An article of two authors. -/
def article (email : String) (phone : Int) : Value :=
  .object articleType
    [("title", .text "News"),
      ("authors", .list [author "Ada" "ada" 111, author "Bob" email phone])]

theorem readerViewing_gives :
    readerViewing.Gives fun given => given = authorEntries ∨ given = articleEntries := by
  refine ⟨rfl, ?_⟩
  intro t run h
  simp only [readerViewing] at h
  split at h
  · cases h
    exact ⟨authorEntries, Or.inl rfl, fun _ => rfl⟩
  · split at h
    · cases h
      exact ⟨articleEntries, Or.inr rfl, fun _ => rfl⟩
    · cases h

theorem readerViewing_callbacksNameFields :
    readerViewing.CallbacksNameFields := by
  intro v spec hspec
  obtain ⟨given, items, hgiven, hparts, rfl⟩ := readerViewing_gives.of_specOf hspec
  rcases hgiven with rfl | rfl
  · cases hparts
    simp [Entry.ofList, Entry.ofValue, Entry.AllNameFields, Entry.NamesFields, IsFieldName]
  · cases hparts
    simp [Entry.ofList, Entry.ofValue, Entry.ofTarget, Entry.AllNameFields, Entry.NamesFields,
      IsFieldName, Value.text?]

end Articles

section Boxes

end Boxes

end Redaction
end AccessPolicy
