import AccessPolicy.Proofs.Redaction.Course

/-!
# Values that are null or not loaded

Nested entries leave a field alone whose value is null or was not loaded.  Of a list or tuple
they go through the items, and here the two forms of a nested entry differ: one that delegates
leaves such items alone as well, while one with a spec of its own applies it to all of them.
Null has no fields and stays what it is.  An item that was not loaded, however, is an object with
fields, and loses those that the spec names (`redact_skips_unloaded`).

**Items.**  `inlined` is what the specs inside of some entries make of an item, one after another,
and that is the item itself if the specs name nothing that it has (`eq_of_apply_of_inert`).

**Runs.**  A step of a field takes each skipped item to what `inlined` makes of it for one entry
(`items_of_frameStep`), and leaves it skipped, so that the next step finds it so
(`items_of_frameRun`).
-/

namespace AccessPolicy
namespace Redaction

/-- What the specs inside of some entries make of an item, one after another. -/
def inlined (again : Spec → Value → Run Value) : Spec → Value → Except Failure Value
  | [], a => .ok a
  | .nested _ spec :: rest, a => (again spec a).outcome >>= inlined again rest
  | _ :: rest, a => inlined again rest a

/-- Whether a spec names nothing that a value has. -/
def Inert (w : Viewing) (spec : Spec) (a : Value) : Prop :=
  ∀ e ∈ spec, ∀ n, e.subject? = some n → w.read? a n = none

/-- What becomes of an item that is null or not loaded if some entries are about the list: what
their inner specs make of it, which for null is null, and the item itself if they name nothing
that it has. -/
structure SkipsItem (w : Viewing) (d : Nat) (entries : Spec) (a b : Value) : Prop where
  inlined_eq : inlined (apply w d) entries a = .ok b
  null : a = .null → b = .null
  inert : (∀ key spec, .nested key spec ∈ entries → Inert w spec a) → b = a

/-- What becomes of values that are null or not loaded in the fields that no plain entry hides:
as the value of a field they stay what they are, and in lists and tuples, which stay as long as
they are, `SkipsItem` says it. -/
def SkipsUnloaded (w : Viewing) (d : Nat) (spec : Spec) (v r : Value) : Prop :=
  ∀ n x, .hide n ∉ spec → w.env.field? v n = some x →
    ∃ y, w.env.field? r n = some y ∧ (isSkipped x = true → y = x) ∧
      ∀ xs, x.items? = some xs → ∃ ys, y.items? = some ys ∧ y.typeOf = x.typeOf ∧
        List.Forall₂ (fun a b => isSkipped a = true → SkipsItem w d (about spec n) a b) xs ys

section Items

variable {w : Viewing} {d : Nat} {spec : Spec} {a b : Value}

theorem isSkipped_of_items?
    {x : Value}
    {xs : List Value}
    (h : x.items? = some xs) :
    isSkipped x = false := by
  cases x <;> first | rfl | cases h

theorem inlined_append
    (again : Spec → Value → Run Value)
    (before after : Spec)
    (a : Value) :
    inlined again (before ++ after) a = inlined again before a >>= inlined again after := by
  induction before generalizing a with
  | nil =>
      rfl
  | cons e before ih =>
      cases e with
      | nested key spec =>
          simp only [List.cons_append, inlined]
          cases (again spec a).outcome with
          | error failure =>
              rfl
          | ok b =>
              exact ih b
      | _ =>
          exact ih a

/-- What inner specs make of a value keeps what applying a spec keeps. -/
theorem inlined_induction
    {entries : Spec}
    (P : Value → Prop)
    (hstep : ∀ key spec a b, .nested key spec ∈ entries → P a →
      (apply w d spec a).outcome = .ok b → P b)
    (ha : P a)
    (h : inlined (apply w d) entries a = .ok b) :
    P b := by
  induction entries generalizing a with
  | nil =>
      cases h
      exact ha
  | cons e entries ih =>
      have hrest : ∀ key spec a b, .nested key spec ∈ entries → P a →
          (apply w d spec a).outcome = .ok b → P b :=
        fun key spec a b hmem => hstep key spec a b (List.mem_cons_of_mem _ hmem)
      cases e with
      | nested key spec =>
          obtain ⟨c, hc, hafter⟩ := except_bind_eq_ok_iff.mp h
          exact ih hrest (hstep key spec a c List.mem_cons_self ha hc) hafter
      | _ =>
          exact ih hrest ha h

variable [w.env.HandlesUsually]

/-- A value that is null or not loaded stays so, whatever is done to its fields. -/
theorem isSkipped_of_apply
    (h : (apply w d spec a).outcome = .ok b)
    (hskip : isSkipped a = true) :
    isSkipped b = true := by
  cases d with
  | zero =>
      cases h
  | succ d =>
      obtain ⟨_, _, ⟨_, rfl⟩ | hreplace⟩ := apply_succ_eq_ok h
      · exact hskip
      · obtain ⟨es, rfl⟩ := exists_withSlots_of_mergeFields hreplace
        rw [isSkipped_withSlots, hskip]

theorem eq_null_of_apply
    (h : (apply w d spec .null).outcome = .ok b) :
    b = .null := by
  cases d with
  | zero =>
      cases h
  | succ d =>
      obtain ⟨_, _, ⟨_, hsame⟩ | hreplace⟩ := apply_succ_eq_ok h
      · exact hsame
      · exact mergeFields_of_not_hasFields rfl hreplace

/-- An entry about something that a value lacks collects nothing. -/
theorem applyEntry_of_read?_eq_none
    {again : Spec → Value → Run Value}
    {e : Entry}
    {result : Entries}
    (hmap : ∀ t es, a ≠ .map t es)
    (hnone : ∀ n, e.subject? = some n → w.read? a n = none)
    (h : (applyEntry w again a [] e).outcome = .ok result) :
    result = [] := by
  -- A key that is no text cannot be read of a value that is no map.
  have hfield :
      ∀ (key : Value) (f : Value → Run Value),
        (∀ n, key.text? = some n → w.read? a n = none) →
        (redactField w a [] key f).outcome = .ok result → result = [] := by
    intro key f hread hresult
    cases hkey : key.text? with
    | none =>
        have hread' : w.readField a key = .error .wrongType := by
          unfold Viewing.readField
          split
          · exact absurd rfl (hmap _ _)
          · rw [hkey]
        obtain ⟨_, found, hfound, _⟩ := redactField_eq_ok_iff.mp hresult
        have hfield : fieldValue w a [] key = w.readField a key := rfl
        rw [hfield, hread'] at hfound
        cases hfound
    | some n =>
        rw [outcome_redactField hkey] at hresult
        have hcurrent : current? w a [] n = none := hread n hkey
        rw [hcurrent] at hresult
        exact (Except.ok.inj hresult).symm
  cases e with
  | hide field =>
      have hresult := applyEntry_hide_eq_ok h
      rw [hnone field rfl] at hresult
      exact hresult
  | nested key spec =>
      exact hfield key _ hnone h
  | delegate key type =>
      exact hfield key _ hnone h
  | malformed failure =>
      cases h

/-- A spec that names nothing that a value has leaves the value alone. -/
theorem eq_of_apply_of_inert
    (hmap : ∀ t es, a ≠ .map t es)
    (hinert : Inert w spec a)
    (h : (apply w d spec a).outcome = .ok b) :
    b = a := by
  cases d with
  | zero =>
      cases h
  | succ d =>
      have hcollect :
          ∀ result, (collect w (apply w d) a [] spec).outcome = .ok result → result = [] := by
        clear h
        induction spec with
        | nil =>
            intro result hresult
            exact (Except.ok.inj hresult).symm
        | cons e spec ih =>
            intro result hresult
            obtain ⟨he, hspec⟩ := List.forall_mem_cons.mp hinert
            obtain ⟨between, hentry, hrest⟩ := collect_cons_eq_ok hresult
            rw [applyEntry_of_read?_eq_none hmap he hentry] at hrest
            exact ih hspec result hrest
      rw [apply] at h
      obtain ⟨updates, hupdates, hresult⟩ := Run.outcome_bind_eq_ok_iff.mp h
      rw [hcollect updates hupdates] at hresult
      exact (Except.ok.inj hresult).symm

theorem isSkipped_of_inlined
    {entries : Spec}
    (h : inlined (apply w d) entries a = .ok b)
    (hskip : isSkipped a = true) :
    isSkipped b = true :=
  inlined_induction (fun a => isSkipped a = true)
    (fun _ _ _ _ _ hskip happly => isSkipped_of_apply happly hskip) hskip h

/-- What inner specs make of an item that is null or not loaded. -/
theorem skipsItem_of_inlined
    {entries : Spec}
    (hskip : isSkipped a = true)
    (h : inlined (apply w d) entries a = .ok b) :
    SkipsItem w d entries a b where
  inlined_eq := h
  null := by
    rintro rfl
    refine inlined_induction (fun a => a = .null) ?_ rfl h
    rintro key spec _ b _ rfl happly
    exact eq_null_of_apply happly
  inert := by
    intro hinert
    have hmap : ∀ t es, a ≠ .map t es := by
      rintro t es rfl
      cases hskip
    refine inlined_induction (fun c => c = a) ?_ rfl h
    rintro key spec _ b hmem rfl happly
    exact eq_of_apply_of_inert hmap (hinert key spec hmem) happly

end Items

section Runs

variable {w : Viewing} {d : Nat} {x y : Value}

/-- One nested entry about a list takes its skipped items where its inner spec takes them. -/
theorem items_of_frameStep
    {e : Entry}
    (he : ∀ field, e ≠ .hide field)
    (h : FrameStep w (Makes (apply w d)) e x y)
    {xs : List Value}
    (hxs : x.items? = some xs) :
    ∃ ys, y.items? = some ys ∧ y.typeOf = x.typeOf ∧
      List.Forall₂ (fun a b => isSkipped a = true → inlined (apply w d) [e] a = .ok b) xs ys := by
  cases h with
  | hide field =>
      exact absurd rfl (he field)
  | skipped _ hskip =>
      rw [isSkipped_of_items? hxs] at hskip
      cases hskip
  | nested hskip heach =>
      rcases heach with ⟨hnone, _⟩ | ⟨xs', ys, hxs', hys, htype, hall⟩
      · rw [hxs] at hnone
        cases hnone
      · rw [hxs] at hxs'
        cases hxs'
        refine ⟨ys, hys, htype, hall.imp ?_⟩
        intro a b hab _
        exact except_bind_eq_ok_iff.mpr ⟨b, hab, rfl⟩
  | delegate hskip heach =>
      rcases heach with ⟨hnone, _⟩ | ⟨xs', ys, hxs', hys, htype, hall⟩
      · rw [hxs] at hnone
        cases hnone
      · rw [hxs] at hxs'
        cases hxs'
        refine ⟨ys, hys, htype, hall.imp ?_⟩
        rintro a b (⟨_, rfl⟩ | ⟨hloaded, _⟩) hskipped
        · rfl
        · rw [hloaded] at hskipped
          cases hskipped

variable [w.env.HandlesUsually]

/-- Nested entries about a list take its skipped items where their inner specs take them. -/
theorem items_of_frameRun
    {entries : Spec}
    (hentries : ∀ field, .hide field ∉ entries)
    (h : FrameRun w (Makes (apply w d)) entries x y)
    {xs : List Value}
    (hxs : x.items? = some xs) :
    ∃ ys, y.items? = some ys ∧ y.typeOf = x.typeOf ∧
      List.Forall₂ (fun a b => isSkipped a = true → inlined (apply w d) entries a = .ok b)
        xs ys := by
  induction entries generalizing x xs with
  | nil =>
      obtain rfl := h
      exact ⟨xs, hxs, rfl, List.forall₂_same.mpr fun _ _ _ => rfl⟩
  | cons e entries ih =>
      obtain ⟨z, hstep, hrest⟩ := h
      have he : ∀ field, e ≠ .hide field := by
        rintro field rfl
        exact hentries field List.mem_cons_self
      have hothers : ∀ field, .hide field ∉ entries :=
        fun field hfield => hentries field (List.mem_cons_of_mem _ hfield)
      obtain ⟨zs, hzs, hztype, hitems⟩ := items_of_frameStep he hstep hxs
      obtain ⟨ys, hys, hytype, hitems'⟩ := ih hothers hrest hzs
      refine ⟨ys, hys, hytype.trans hztype, (forall₂_comp hitems hitems').imp ?_⟩
      rintro a b ⟨c, hac, hcb⟩ hskip
      have hc := hac hskip
      have happend := inlined_append (apply w d) [e] entries a
      rw [hc] at happend
      exact happend.trans (hcb (isSkipped_of_inlined hc hskip))

end Runs

section Redacting

variable {w : Viewing}
variable [w.env.HandlesUsually]

theorem skipsUnloaded_of_apply
    {d : Nat}
    {spec : Spec}
    {v r : Value}
    (hnames : ∀ e ∈ spec, e.NamesField)
    (h : (apply w (d + 1) spec v).outcome = .ok r) :
    SkipsUnloaded w d spec v r := by
  intro n x hplain hx
  obtain ⟨y, hy, hrun⟩ := frameRun_of_apply hnames hx h
  have hentries : ∀ field, .hide field ∉ about spec n := by
    intro field hfield
    obtain ⟨hmem, hsubject⟩ := List.mem_filter.mp hfield
    obtain rfl : field = n := by
      simpa [Entry.subject?] using hsubject
    exact hplain hmem
  have htype : ∀ inner a b, Makes (apply w d) inner a b → b.typeOf = a.typeOf :=
    fun _ _ _ hab => typeOf_of_frameLaw (frameLaw_of_apply hab)
  refine ⟨y, hy, (hrun.keepsKind htype hentries).skipped, ?_⟩
  intro xs hxs
  obtain ⟨ys, hys, hytype, hitems⟩ := items_of_frameRun hentries hrun hxs
  refine ⟨ys, hys, hytype, hitems.imp ?_⟩
  intro a b hab hskip
  exact skipsItem_of_inlined hskip (hab hskip)

/-- **Null and not loaded.**  Nested entries leave a field alone that is null or not loaded, and
in a list or tuple all such items that are null.  Items that are not loaded they leave to the
specs that stand inside of them, and so alone if these name nothing that the item has. -/
theorem redact_skips_unloaded
    (v : Value) :
    (∀ spec d r,
      (∀ e ∈ spec, e.NamesField) →
      (apply w (d + 1) spec v).outcome = .ok r →
      SkipsUnloaded w d spec v r) ∧
    ∀ spec r,
      v.hasFields = true →
      (w.specOf v).outcome = .ok spec →
      (∀ e ∈ spec, e.NamesField) →
      (redact w v).outcome = .ok r →
      SkipsUnloaded w (depthLimit - 1) spec v r := by
  constructor
  · intro spec d r hnames happly
    exact skipsUnloaded_of_apply hnames happly
  · intro spec r hfields hspec hnames hredact
    rw [outcome_redact_of_hasFields hfields hspec] at hredact
    exact skipsUnloaded_of_apply hnames hredact

end Redacting

section Shelves

/-- A type of books, which hide nothing. -/
def bookType : TypeRef :=
  .declared "Book" .plain ["title"] none true (.builtin .object)

/-- A type of shelves, which leave their books to these and hide a field of their owners. -/
def shelfType : TypeRef :=
  .declared "Shelf" .plain ["books", "owners"] none true (.builtin .object)

/-- What shelves give as their spec. -/
def shelfEntries : Value :=
  .list
    [.tuple [.text "books", .type bookType],
      .tuple [.text "owners", .list [.text "field"]]]

/-- The same, entry by entry. -/
def shelfSpec : Spec :=
  [.delegate (.text "books") bookType, .nested (.text "owners") [.hide "field"]]

/-- A visitor looks at shelves. -/
def visitorViewing : Viewing where
  env :=
    { apply := fun _ _ => .error .wrongType
      importable := []
      classMembers := fun _ => []
      callback := fun t => if t = shelfType then some fun _ => .ok shelfEntries else none }
  subject := .text "visitor"
  options := .null
  marker := Value.redacted
  registry := none

instance : visitorViewing.env.HandlesUsually :=
  Environment.handlesUsually_of_classMembers (fun _ => rfl) (fun _ => rfl) (fun _ => rfl)

/-- A shelf whose books and owners were not loaded, but for a book that is null. -/
def shelf : Value :=
  .object shelfType
    [("books", .list [.notLoaded (some "book"), .null]),
      ("owners", .list [.notLoaded (some "owner")])]

/-- The books of a shelf that were not loaded stay what they are, as those that are null do. -/
theorem shelf_keeps_books :
    ∃ r, (redact visitorViewing shelf).outcome = .ok r ∧
      ∃ a b, visitorViewing.env.field? r "books" = some (.list [a, b]) ∧
        a = .notLoaded (some "book") ∧ b = .null := by
  have hok : (redact visitorViewing shelf).outcome.isOk = true := by
    decide +kernel
  cases h : (redact visitorViewing shelf).outcome with
  | error e =>
      rw [h] at hok
      cases hok
  | ok r =>
      have hbooks :
          visitorViewing.env.field? shelf "books" =
            some (.list [.notLoaded (some "book"), .null]) := by
        simp [Environment.field?, shelf, Value.hasFields, Value.slots, getText?_textEntries,
          Fields.get?]
      have hnames : ∀ e ∈ shelfSpec, e.NamesField := by
        simp [shelfSpec, Entry.NamesField, IsFieldName, Value.text?]
      have hplain : .hide "books" ∉ shelfSpec := by
        simp [shelfSpec]
      obtain ⟨y, hy, _, hitems⟩ :=
        (redact_skips_unloaded shelf).2 shelfSpec r rfl rfl hnames h "books" _ hplain hbooks
      obtain ⟨ys, hys, htype, hall⟩ := hitems _ rfl
      obtain ⟨a, _, ha, hrest, rfl⟩ := List.forall₂_cons_left_iff.mp hall
      obtain ⟨b, _, hb, hnil, rfl⟩ := List.forall₂_cons_left_iff.mp hrest
      obtain rfl := List.forall₂_nil_left_iff.mp hnil
      have hlist : y = .list [a, b] := by
        cases y with
        | list zs =>
            cases hys
            rfl
        | tuple zs =>
            cases htype
        | _ =>
            cases hys
      have hinert : ∀ key spec, .nested key spec ∈ about shelfSpec "books" →
          Inert visitorViewing spec (.notLoaded (some "book")) := by
        have habout : about shelfSpec "books" = [.delegate (.text "books") bookType] := by
          simp [about, shelfSpec, Entry.subject?, Value.text?]
        rw [habout]
        rintro key spec hmem
        cases List.mem_singleton.mp hmem
      exact ⟨r, rfl, a, b, by rw [hy, hlist], (ha rfl).inert hinert, (hb rfl).null rfl⟩

/-- An owner that was not loaded loses the field that the spec inside of the entry names. -/
example :
    ((redact visitorViewing shelf).outcome.toOption.bind fun r =>
      visitorViewing.env.field? r "owners").any
        (·.agrees (.list [.object (.builtin .notLoaded) [("field", Value.redacted)]])) =
          true := by
  decide +kernel

end Shelves

end Redaction
end AccessPolicy
