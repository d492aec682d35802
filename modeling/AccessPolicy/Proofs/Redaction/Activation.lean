import AccessPolicy.Proofs.Redaction.Delegation
import AccessPolicy.Proofs.Redaction.OneByOne
import AccessPolicy.Proofs.RepeatedKeys
import Mathlib.Data.List.Induction

/-!
# What an application of a spec applies in turn

Applying a spec to an object applies other specs to parts of it: nested ones, and those that
callbacks give.  Which parts these are depends on what earlier entries have put in place of fields.

**Activations.**  `Activates` is one step inwards, and `Nesting` a row of them.

**Own fields.**  `ReadsOwn` says that nothing is read on the way but fields of objects' own.  It is
enough to know the names that occur in specs, and that all parts of the value have none of them but
as fields of their own (`readsOwn_of_ownNamed`); for redaction replaces fields, but brings in no
others.
-/

namespace AccessPolicy

/-- A part of a value that redaction can get to: the value, a part of what is in one of its slots,
or a part of one of its items. -/
inductive Value.Part : Value → Value → Prop
  | self (v : Value) :
      Part v v
  | slot
      {v b : Value}
      {e : Value × Value}
      (he : e ∈ v.slots)
      (h : Part e.2 b) :
      Part v b
  | item
      {v a b : Value}
      {xs : List Value}
      (hxs : v.items? = some xs)
      (ha : a ∈ xs)
      (h : Part a b) :
      Part v b

namespace Redaction

namespace Entry

mutual

/-- Whether an entry and all those inside of it name fields by some texts. -/
def Names (names : String → Prop) : Entry → Prop
  | .hide field => names field
  | .nested key spec => (∃ n, key.text? = some n ∧ names n) ∧ AllName names spec
  | .delegate key _ => ∃ n, key.text? = some n ∧ names n
  | .malformed _ => True

/-- Whether all entries of a spec and all those inside of them name fields by some texts. -/
def AllName (names : String → Prop) : List Entry → Prop
  | [] => True
  | e :: rest => Names names e ∧ AllName names rest

end

theorem allName_iff
    {names : String → Prop}
    {spec : Spec} :
    AllName names spec ↔ ∀ e ∈ spec, e.Names names := by
  induction spec with
  | nil =>
      simp [AllName]
  | cons e spec ih =>
      simp [AllName, ih]

theorem Names.namesField
    {names : String → Prop}
    (hnames : ∀ n, names n → IsFieldName n)
    {e : Entry}
    (h : e.Names names) :
    e.NamesField := by
  cases e with
  | hide field =>
      exact hnames field h
  | nested key spec =>
      obtain ⟨⟨n, hn, hname⟩, _⟩ := h
      exact ⟨n, hn, hnames n hname⟩
  | delegate key type =>
      obtain ⟨n, hn, hname⟩ := h
      exact ⟨n, hn, hnames n hname⟩
  | malformed failure =>
      trivial

/-- What an entry does to the items of what stands in a field, unless it just hides the field. -/
def work? (w : Viewing) (again : Spec → Value → Run Value) : Entry → Option (Value → Run Value)
  | .nested _ spec => some (again spec)
  | .delegate key type => some (delegateItem w again key type)
  | _ => none

end Entry

/-- What one application of a spec applies in turn: a nested spec, or the spec that a callback gives
for a part, to that part of what then stands in a field. -/
inductive Activates (w : Viewing) (spec : Spec) (v : Value) : Spec → Value → Prop
  | nested
      {before after inner : Spec}
      {key x a : Value}
      {d : Nat}
      {updates : Entries}
      (hspec : spec = before ++ .nested key inner :: after)
      (hbefore : (collect w (apply w d) v [] before).outcome = .ok updates)
      (hx : fieldValue w v updates key = .ok (some x))
      (hskip : isSkipped x = false)
      (ha : a ∈ x.itemsOrSelf) :
      Activates w spec v inner a
  | delegate
      {before after own : Spec}
      {key x a : Value}
      {type : TypeRef}
      {d : Nat}
      {updates : Entries}
      (hspec : spec = before ++ .delegate key type :: after)
      (hbefore : (collect w (apply w d) v [] before).outcome = .ok updates)
      (hx : fieldValue w v updates key = .ok (some x))
      (hskip : isSkipped x = false)
      (ha : a ∈ x.itemsOrSelf)
      (hloaded : isSkipped a = false)
      (htype : a.isInstance type = true)
      (hown : (w.specOf a).outcome = .ok own) :
      Activates w spec v own a

/-- A row of nested applications, counted: in the course of applying a spec to a value, the last
one of them applies another spec to a part of the value. -/
inductive Nesting (w : Viewing) : Nat → Spec → Value → Spec → Value → Prop
  | here (spec : Spec) (v : Value) :
      Nesting w 1 spec v spec v
  | inside
      {k : Nat}
      {spec inner last : Spec}
      {v a b : Value}
      (hactivates : Activates w spec v inner a)
      (hrest : Nesting w k inner a last b) :
      Nesting w (k + 1) spec v last b

/-- What a key reads of a value, if anything, is in a slot of the value's own. -/
def ReadsSlot (w : Viewing) (v key : Value) : Prop :=
  ∀ x, w.readField v key = .ok (some x) → ∃ e ∈ v.slots, e.2 = x

/-- In the course of applying a spec to a value, whatever an entry names reads nothing but fields of
the value's own. -/
def ReadsOwn (w : Viewing) (spec : Spec) (v : Value) : Prop :=
  ∀ k last b, Nesting w k spec v last b → ∀ e ∈ last, ReadsSlot w b e.key

section Activations

variable {w : Viewing} {v : Value} {spec before after : Spec} {e : Entry} {d : Nat}
variable {updates result : Entries}

theorem ReadsOwn.readsSlot
    (hown : ReadsOwn w spec v)
    (he : e ∈ spec) :
    ReadsSlot w v e.key :=
  hown 1 spec v (.here spec v) e he

theorem ReadsOwn.inside
    (hown : ReadsOwn w spec v)
    {inner : Spec}
    {a : Value}
    (h : Activates w spec v inner a) :
    ReadsOwn w inner a :=
  fun k last b hrest => hown (k + 1) last b (.inside h hrest)

/-- What holds of the values of slots and updates holds of what stands in a field. -/
theorem ReadsSlot.of_fieldValue
    {P : Value → Prop}
    {key x : Value}
    (hslot : ReadsSlot w v key)
    (hslots : ∀ e ∈ v.slots, P e.2)
    (hupdates : ∀ u ∈ updates, P u.2)
    (hx : fieldValue w v updates key = .ok (some x)) :
    P x := by
  unfold fieldValue at hx
  cases hget : Entries.get? updates key with
  | none =>
      rw [hget] at hx
      obtain ⟨e, he, rfl⟩ := hslot x hx
      exact hslots e he
  | some y =>
      rw [hget] at hx
      cases hx
      obtain ⟨u, hu, rfl⟩ := Entries.exists_mem_of_get? hget
      exact hupdates u hu

/-- What an entry works on is found for its key, after the entries before it. -/
theorem Activates.exists_fieldValue
    {inner : Spec}
    {a : Value}
    (h : Activates w spec v inner a) :
    ∃ before e after d updates x,
      spec = before ++ e :: after ∧ (collect w (apply w d) v [] before).outcome = .ok updates ∧
        fieldValue w v updates e.key = .ok (some x) ∧ a ∈ x.itemsOrSelf := by
  cases h with
  | nested hspec hbefore hx _ ha =>
      exact ⟨_, _, _, _, _, _, hspec, hbefore, hx, ha⟩
  | delegate hspec hbefore hx _ ha =>
      exact ⟨_, _, _, _, _, _, hspec, hbefore, hx, ha⟩

/-- Working on an item gives it back, or applies a spec in turn. -/
theorem eq_or_activates_of_work?
    (hspec : spec = before ++ e :: after)
    (hbefore : (collect w (apply w d) v [] before).outcome = .ok updates)
    {f : Value → Run Value}
    (hf : e.work? w (apply w d) = some f)
    {x a b : Value}
    (hx : fieldValue w v updates e.key = .ok (some x))
    (hskip : isSkipped x = false)
    (ha : a ∈ x.itemsOrSelf)
    (h : (f a).outcome = .ok b) :
    b = a ∨ ∃ inner, Activates w spec v inner a ∧ (apply w d inner a).outcome = .ok b := by
  cases e with
  | nested key inner =>
      cases hf
      exact Or.inr ⟨inner, .nested hspec hbefore hx hskip ha, h⟩
  | delegate key type =>
      cases hf
      rcases delegateItem_eq_ok_iff.mp h with ⟨_, hb⟩ | ⟨hloaded, htype, own, hown, hb⟩
      · exact Or.inl hb
      · exact Or.inr ⟨own, .delegate hspec hbefore hx hskip ha hloaded htype hown, hb⟩
  | _ =>
      cases hf

variable [w.env.HandlesUsually]

/-- What holds of the values of updates, of the marker where it hides something and of all that
becomes of the value of a field, still holds after one more entry. -/
theorem forall_of_applyEntry
    {P : Value → Prop}
    {again : Spec → Value → Run Value}
    (hupdates : ∀ u ∈ updates, P u.2)
    (hhide : ∀ field, e = .hide field → (w.read? v field).isSome = true → P w.marker)
    (hwork : ∀ f x y, e.work? w again = some f → fieldValue w v updates e.key = .ok (some x) →
      isSkipped x = false → (redactEach f x).outcome = .ok y → P y)
    (h : (applyEntry w again v updates e).outcome = .ok result) :
    ∀ u ∈ result, P u.2 := by
  have hfield :
      ∀ f, e.work? w again = some f →
        (redactField w v updates e.key f).outcome = .ok result → ∀ u ∈ result, P u.2 := by
    intro f hf h
    obtain ⟨_, found, hfound, hstep⟩ := redactField_eq_ok_iff.mp h
    cases hstep with
    | absent =>
        exact hupdates
    | skipped =>
        exact hupdates
    | replaced hskip hy =>
        exact Entries.forall_set hupdates e.key (hwork f _ _ hf hfound hskip hy)
  cases e with
  | hide field =>
      rw [applyEntry_hide_eq_ok h]
      split
      · rename_i hread
        exact Entries.forall_set hupdates (.text field) (hhide field rfl hread)
      · exact hupdates
  | nested key inner =>
      exact hfield (again inner) rfl h
  | delegate key type =>
      exact hfield (delegateItem w again key type) rfl h
  | malformed failure =>
      cases h

/-- What holds of the marker where it hides something, and of all that becomes of the values of
fields, holds of the values of all updates that are collected. -/
theorem forall_of_collect
    {P : Value → Prop}
    (hhide : ∀ field, .hide field ∈ before → (w.read? v field).isSome = true → P w.marker)
    (hwork : ∀ first e rest updates, before = first ++ e :: rest →
      (collect w (apply w d) v [] first).outcome = .ok updates → (∀ u ∈ updates, P u.2) →
      ∀ f x y, e.work? w (apply w d) = some f → fieldValue w v updates e.key = .ok (some x) →
        isSkipped x = false → (redactEach f x).outcome = .ok y → P y)
    (h : (collect w (apply w d) v [] before).outcome = .ok updates) :
    ∀ u ∈ updates, P u.2 := by
  induction before using List.reverseRecOn generalizing updates with
  | nil =>
      cases h
      exact fun u hu => absurd hu List.not_mem_nil
  | append_singleton before e ih =>
      rw [collect_append] at h
      obtain ⟨between, hbetween, hlast⟩ := except_bind_eq_ok_iff.mp h
      obtain ⟨_, hentry, hlast⟩ := collect_cons_eq_ok hlast
      cases hlast
      have hforall : ∀ u ∈ between, P u.2 := by
        refine ih ?_ ?_ hbetween
        · intro field hfield
          exact hhide field (List.mem_append_left _ hfield)
        · intro first e' rest updates hsplit
          exact hwork first e' (rest ++ [e]) updates (by simp [hsplit])
      refine forall_of_applyEntry hforall ?_ ?_ hentry
      · rintro field rfl
        exact hhide field (by simp)
      · exact hwork before e [] between rfl hbetween hforall

end Activations

/-- Specs name fields by some texts only, none of which stands for anything in the marker. -/
structure Viewing.Speaks (w : Viewing) (names : String → Prop) : Prop where
  callbacks : ∀ v spec, (w.specOf v).outcome = .ok spec → Entry.AllName names spec
  isFieldName : ∀ n, names n → IsFieldName n
  marker : ∀ n, names n → w.read? w.marker n = none

/-- Of a value and of all its parts, some names read nothing but fields of their own. -/
def OwnNamed (w : Viewing) (names : String → Prop) (v : Value) : Prop :=
  ∀ b, v.Part b → ∀ n, names n → w.read? b n = Entries.getText? b.slots n

section OwnNames

variable {w : Viewing} {names : String → Prop} {v x a : Value} {n : String}

theorem OwnNamed.self
    (h : OwnNamed w names v)
    (hn : names n) :
    w.read? v n = Entries.getText? v.slots n :=
  h v (.self v) n hn

theorem OwnNamed.slot
    (h : OwnNamed w names v) :
    ∀ e ∈ v.slots, OwnNamed w names e.2 :=
  fun _ he b hb => h b (.slot he hb)

theorem OwnNamed.itemsOrSelf
    (h : OwnNamed w names x)
    (ha : a ∈ x.itemsOrSelf) :
    OwnNamed w names a := by
  cases hitems : x.items? with
  | none =>
      rw [itemsOrSelf_of_items?_eq_none hitems, List.mem_singleton] at ha
      exact ha ▸ h
  | some xs =>
      rw [mem_itemsOrSelf_of_items? hitems] at ha
      exact fun b hb => h b (.item hitems ha hb)

/-- A value reads names as it should if it does so itself and its slots and items do. -/
theorem ownNamed_of_parts
    (hself : ∀ n, names n → w.read? v n = Entries.getText? v.slots n)
    (hslots : ∀ e ∈ v.slots, OwnNamed w names e.2)
    (hitems : ∀ xs, v.items? = some xs → ∀ a ∈ xs, OwnNamed w names a) :
    OwnNamed w names v := by
  intro b hb n hn
  cases hb with
  | self =>
      exact hself n hn
  | slot he h =>
      exact hslots _ he b h n hn
  | item hxs ha h =>
      exact hitems _ hxs _ ha b h n hn

/-- What has no parts reads names as it should if it reads none. -/
theorem ownNamed_of_no_parts
    (hself : ∀ n, names n → w.read? v n = none)
    (hslots : v.slots = [])
    (hitems : v.items? = none) :
    OwnNamed w names v := by
  refine ownNamed_of_parts ?_ ?_ ?_
  · intro n hn
    rw [hself n hn, hslots]
    rfl
  · rw [hslots]
    exact fun e he => absurd he List.not_mem_nil
  · intro xs hxs
    rw [hitems] at hxs
    cases hxs

/-- Whether a name stands for anything in a list or tuple does not depend on its items. -/
theorem isSome_read?_of_items?
    {y : Value}
    {xs ys : List Value}
    (hxs : x.items? = some xs)
    (hys : y.items? = some ys)
    (htype : y.typeOf = x.typeOf)
    (n : String) :
    (w.read? y n).isSome = (w.read? x n).isSome := by
  have hchoice :
      ∀ (data : Option Value) (callable : Bool),
        (if data.isSome then data else if callable then some (.method y n) else none).isSome =
          (if data.isSome then data
            else if callable then some (.method x n) else none).isSome := by
    intro data callable
    cases data <;> cases callable <;> rfl
  have hgiven : (y.givenMember? n).isSome = (x.givenMember? n).isSome := by
    cases x with
    | list xs =>
        cases y with
        | list ys =>
            exact hchoice _ _
        | tuple ys =>
            cases htype
        | _ =>
            cases hys
    | tuple xs =>
        cases y with
        | list ys =>
            cases htype
        | tuple ys =>
            exact hchoice _ _
        | _ =>
            cases hys
    | _ =>
        cases hxs
  have hread :
      ∀ {z : Value} {zs : List Value}, z.items? = some zs →
        w.read? z n = (w.env.classMember? z.typeOf n).or (z.givenMember? n) := by
    intro z zs hzs
    cases z <;> first | rfl | cases hzs
  rw [hread hxs, hread hys, htype, Option.isSome_or, Option.isSome_or, hgiven]

/-- What is made of a value reads names as it should if the value and all that is made of its items
do. -/
theorem OwnNamed.redactEach
    (h : OwnNamed w names x)
    {f : Value → Run Value}
    {y : Value}
    (hf : ∀ a ∈ x.itemsOrSelf, ∀ b, (f a).outcome = .ok b → OwnNamed w names b)
    (hy : (redactEach f x).outcome = .ok y) :
    OwnNamed w names y := by
  rcases redactEach_eq_ok hy with ⟨hnone, hy⟩ | ⟨xs, ys, hxs, hys, htype, hall⟩
  · refine hf x ?_ y hy
    rw [itemsOrSelf_of_items?_eq_none hnone]
    exact List.mem_singleton_self x
  · have hslots : ∀ {z : Value} {zs : List Value}, z.items? = some zs → z.slots = [] := by
      intro z zs hzs
      cases z <;> first | rfl | cases hzs
    refine ownNamed_of_parts ?_ ?_ ?_
    · intro n hn
      have hread := h.self hn
      rw [hslots hxs] at hread
      rw [hslots hys]
      refine Option.isNone_iff_eq_none.mp ?_
      rw [← Option.not_isSome, isSome_read?_of_items? hxs hys htype n, hread]
      rfl
    · rw [hslots hys]
      exact fun e he => absurd he List.not_mem_nil
    · intro zs hzs b hb
      rw [hys] at hzs
      cases hzs
      obtain ⟨a, ha, hab⟩ := exists_of_mem_right hall hb
      exact hf a ((mem_itemsOrSelf_of_items? hxs).mpr ha) b hab

variable [w.env.HandlesUsually]

theorem OwnNamed.readsSlot
    (h : OwnNamed w names v)
    {key : Value}
    (hkey : key.text? = some n)
    (hn : names n) :
    ReadsSlot w v key := by
  intro x hx
  rw [w.readField_of_text? hkey, h.self hn] at hx
  exact Entries.exists_mem_of_get? (Except.ok.inj hx)

theorem readsSlot_of_text?_eq_none
    {key : Value}
    (hkey : key.text? = none) :
    ReadsSlot w v key := by
  intro x hx
  unfold Viewing.readField at hx
  split at hx
  · split at hx
    · rw [w.env.handlingOf_eq] at hx
      exact Entries.exists_mem_of_get? (Except.ok.inj hx)
    · cases hx
  · rw [hkey] at hx
    cases hx

/-- A copy with other values in fields that are named reads names as it should. -/
theorem OwnNamed.withSlots
    (h : OwnNamed w names v)
    (hfields : v.hasFields = true)
    {updates : Entries}
    (hnamed : Entries.IsNamed IsFieldName updates)
    (hupdates : ∀ u ∈ updates, OwnNamed w names u.2) :
    OwnNamed w names (v.withSlots (Entries.merge v.slots updates)) := by
  refine ownNamed_of_parts ?_ ?_ ?_
  · intro n hn
    have hcopy : (v.withSlots (Entries.merge v.slots updates)).hasFields = true := by
      rw [v.hasFields_withSlots, hfields]
    rw [Value.getText?_slots_withSlots hfields, w.read?_eq_or hcopy, w.env.field?_withSlots hfields]
    cases hget : Entries.getText? (Entries.merge v.slots updates) n with
    | some x =>
        rfl
    | none =>
        -- The object has no such field, so its type gives it nothing of that name, nor the copy.
        have hown : Entries.getText? v.slots n = none := by
          rw [Entries.getText?_merge hnamed, Option.or_eq_none_iff] at hget
          exact hget.2
        have hread := h.self hn
        rw [hown, w.read?_eq_or hfields, Option.or_eq_none_iff, Environment.field?, if_pos hfields,
          hown] at hread
        have hmember :
            ((v.withSlots (Entries.merge v.slots updates)).typeMember? n).isSome = false := by
          rw [v.isSome_typeMember?_withSlots, hread.2]
          rfl
        rw [Option.isSome_eq_false_iff, Option.isNone_iff_eq_none] at hmember
        rw [hmember, Option.or_none]
        exact hread.1
  · have hmerge := Entries.forall_merge (P := OwnNamed w names) h.slot hupdates
    rcases Value.slots_withSlots hfields (Entries.merge v.slots updates) with hslots | hslots
    · rw [hslots]
      exact hmerge
    · rw [hslots]
      intro e he
      obtain ⟨u, hu, rfl⟩ := List.mem_map.mp he
      obtain ⟨put, hput, hu⟩ := List.mem_filterMap.mp hu
      obtain ⟨m, _, rfl⟩ := Option.map_eq_some_iff.mp hu
      exact hmerge put hput
  · intro xs hxs
    rw [v.items?_withSlots, Value.items?_of_hasFields hfields] at hxs
    cases hxs

theorem readsSlot_key
    {spec : Spec}
    (hspec : Entry.AllName names spec)
    (hown : OwnNamed w names v)
    {e : Entry}
    (he : e ∈ spec) :
    ReadsSlot w v e.key := by
  have hnames := Entry.allName_iff.mp hspec e he
  cases e with
  | hide field =>
      exact hown.readsSlot rfl hnames
  | nested key inner =>
      obtain ⟨⟨n, hkey, hn⟩, _⟩ := hnames
      exact hown.readsSlot hkey hn
  | delegate key type =>
      obtain ⟨n, hkey, hn⟩ := hnames
      exact hown.readsSlot hkey hn
  | malformed failure =>
      exact readsSlot_of_text?_eq_none rfl

end OwnNames

section Closure

variable {w : Viewing} {names : String → Prop} {v : Value} {spec : Spec} {d : Nat}
variable (hspeaks : w.Speaks names)
include hspeaks

theorem allName_of_activates
    (hspec : Entry.AllName names spec)
    {inner : Spec}
    {a : Value}
    (h : Activates w spec v inner a) :
    Entry.AllName names inner := by
  cases h with
  | nested hsplit =>
      have hnames := Entry.allName_iff.mp hspec _ (hsplit ▸ List.mem_append_right _ (.head _))
      exact hnames.2
  | delegate _ _ _ _ _ _ _ hown =>
      exact hspeaks.callbacks _ _ hown

theorem ownNamed_marker
    (hmarker : w.marker.isScalar = true) :
    OwnNamed w names w.marker := by
  have hslots : w.marker.slots = [] := by
    cases hm : w.marker <;> first | rfl | simp [hm, Value.isScalar] at hmarker
  exact ownNamed_of_no_parts hspeaks.marker hslots (items?_of_isScalar hmarker)

variable [w.env.HandlesUsually]

/-- Updates read names as they should if the object does, provided that results of applications
further down do. -/
theorem ownNamed_of_collect
    (hmarker : w.marker.isScalar = true)
    (hagain : ∀ inner a b, Entry.AllName names inner → OwnNamed w names a →
      (apply w d inner a).outcome = .ok b → OwnNamed w names b)
    (hspec : Entry.AllName names spec)
    (hown : OwnNamed w names v)
    {updates : Entries}
    (h : (collect w (apply w d) v [] spec).outcome = .ok updates) :
    ∀ u ∈ updates, OwnNamed w names u.2 := by
  refine forall_of_collect (P := OwnNamed w names) ?_ ?_ h
  · intro _ _ _
    exact ownNamed_marker hspeaks hmarker
  · intro first e rest before hsplit hbefore hforall f x y hf hx hskip hy
    have hslot : ReadsSlot w v e.key := readsSlot_key hspec hown (by simp [hsplit])
    have hxown := hslot.of_fieldValue hown.slot hforall hx
    refine hxown.redactEach ?_ hy
    intro a ha b hb
    rcases eq_or_activates_of_work? hsplit hbefore hf hx hskip ha hb with rfl | ⟨inner, hact, hb⟩
    · exact hxown.itemsOrSelf ha
    · exact hagain inner a b (allName_of_activates hspeaks hspec hact) (hxown.itemsOrSelf ha) hb

/-- A redacted object reads names as it should if the object does. -/
theorem ownNamed_of_apply
    (hmarker : w.marker.isScalar = true)
    (hspec : Entry.AllName names spec)
    (hown : OwnNamed w names v)
    {r : Value}
    (h : (apply w d spec v).outcome = .ok r) :
    OwnNamed w names r := by
  induction d generalizing spec v r with
  | zero =>
      cases h
  | succ d ih =>
      have hnamesField : ∀ e ∈ spec, e.NamesField :=
        fun e he => (Entry.allName_iff.mp hspec e he).namesField hspeaks.isFieldName
      obtain ⟨updates, hcollect, hnamed, hr⟩ := exists_updates_of_apply hnamesField h
      have hupdates :=
        ownNamed_of_collect hspeaks hmarker (fun _ _ _ hinner ha hb => ih hinner ha hb) hspec hown
          hcollect
      rw [hr]
      split
      · rename_i hfields
        exact hown.withSlots hfields hnamed hupdates
      · exact hown

/-- **Own fields.**  If specs name fields by texts that stand for fields of their own in a value and
in all its parts, then nothing but such fields is read in the course of redaction. -/
theorem readsOwn_of_ownNamed
    (hmarker : w.marker.isScalar = true)
    (hspec : Entry.AllName names spec)
    (hown : OwnNamed w names v) :
    ReadsOwn w spec v := by
  intro k last b hnesting
  induction hnesting with
  | here =>
      exact fun e he => readsSlot_key hspec hown he
  | inside hactivates _ ih =>
      refine ih (allName_of_activates hspeaks hspec hactivates) ?_
      obtain ⟨before, e, after, d, updates, x, hsplit, hbefore, hx, ha⟩ :=
        hactivates.exists_fieldValue
      have hprefix : Entry.AllName names before := by
        refine Entry.allName_iff.mpr fun e' he' => Entry.allName_iff.mp hspec e' ?_
        rw [hsplit]
        exact List.mem_append_left _ he'
      have hupdates :=
        ownNamed_of_collect hspeaks hmarker
          (fun _ _ _ hinner ha => ownNamed_of_apply hspeaks hmarker hinner ha) hprefix hown hbefore
      have hslot : ReadsSlot w _ e.key := readsSlot_key hspec hown (by simp [hsplit])
      exact (hslot.of_fieldValue hown.slot hupdates hx).itemsOrSelf ha

end Closure

end Redaction
end AccessPolicy
