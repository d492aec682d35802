import AccessPolicy.Value.Equality

/-!
# Values that agree with themselves

What is not a number agrees with nothing, not even with itself, and it is the only such value: a
value that neither is one nor is made of one agrees with itself (`agrees_self`).

**Content.**  Sets and maps agree by content without regard to order.  A set agrees with itself
since each of its items is among its items, so what is shown by recursion is that a list of items
has all items of each of its parts (`agreesItems_of_subset`, `agreesEntries_of_subset`).
-/

namespace AccessPolicy

namespace Binary64

/-- Whether a number is one at all. -/
def isNumber : Binary64 → Bool
  | .nan _ => false
  | _ => true

theorem agrees_self
    {x : Binary64}
    (h : x.isNumber = true) :
    x.agrees x = true := by
  cases x with
  | finite negative mantissa exponent =>
      simp [agrees]
  | infinite negative =>
      simp [agrees]
  | nan origin =>
      cases h

end Binary64

theorem Moment.agrees_self
    (m : Moment) :
    m.agrees m = true := by
  simp [agrees]

namespace Value

mutual

/-- Whether no number is undefined of those that a value is compared by.  Entities, modules and
functions are compared by what they are and not by what they hold. -/
def lacksNaN : Value → Bool
  | .float x => x.isNumber
  | .list xs => lackNaN xs
  | .tuple xs => lackNaN xs
  | .set xs => lackNaN xs
  | .map _ entries => entriesLackNaN entries
  | .object _ fields => fieldsLackNaN fields
  | .method owner _ => lacksNaN owner
  | _ => true

def lackNaN : List Value → Bool
  | [] => true
  | v :: rest => lacksNaN v && lackNaN rest

def entriesLackNaN : List (Value × Value) → Bool
  | [] => true
  | (k, v) :: rest => lacksNaN k && lacksNaN v && entriesLackNaN rest

def fieldsLackNaN : List (String × Value) → Bool
  | [] => true
  | (_, v) :: rest => lacksNaN v && fieldsLackNaN rest

end

mutual

/-- A value without anything that is not a number agrees with itself. -/
theorem agrees_self
    (v : Value)
    (h : v.lacksNaN = true) :
    v.agrees v = true := by
  cases v with
  | float x =>
      rw [agrees]
      exact Binary64.agrees_self h
  | timestamp m =>
      rw [agrees]
      exact Moment.agrees_self m
  | list xs =>
      rw [agrees]
      exact agreesAll_self xs h
  | tuple xs =>
      rw [agrees]
      exact agreesAll_self xs h
  | set xs =>
      -- Order plays no part: what counts is that each item is among the items.
      rw [agrees, agreesItems_of_subset xs xs h (List.Subset.refl xs)]
      simp
  | map type entries =>
      -- Whether order counts depends on the type, and both ways hold.
      rw [agrees, agreesInOrder_self entries h,
        agreesEntries_of_subset entries entries h (List.Subset.refl entries)]
      simp
  | object type fields =>
      rw [agrees, agreesFields_self fields h]
      simp
  | method owner name =>
      rw [agrees, agrees_self owner h]
      simp
  | _ =>
      simp [agrees, agreesWithInt, text?]

theorem agreesAll_self
    (xs : List Value)
    (h : lackNaN xs = true) :
    agreesAll xs xs = true := by
  cases xs with
  | nil =>
      rw [agreesAll]
  | cons x rest =>
      rw [lackNaN, Bool.and_eq_true] at h
      rw [agreesAll, agrees_self x h.1, agreesAll_self rest h.2]
      rfl

theorem agreesItems_of_subset
    (xs ys : List Value)
    (h : lackNaN xs = true)
    (hsub : xs ⊆ ys) :
    agreesItems xs ys = true := by
  cases xs with
  | nil =>
      rw [agreesItems]
  | cons x rest =>
      rw [lackNaN, Bool.and_eq_true] at h
      rw [List.cons_subset] at hsub
      rw [agreesItems, agreesItems_of_subset rest ys h.2 hsub.2, Bool.and_true, List.any_eq_true]
      exact ⟨x, hsub.1, by rw [agrees_self x h.1, Bool.true_or]⟩

theorem agreesEntries_of_subset
    (xs ys : Entries)
    (h : entriesLackNaN xs = true)
    (hsub : xs ⊆ ys) :
    agreesEntries xs ys = true := by
  cases xs with
  | nil =>
      rw [agreesEntries]
  | cons e rest =>
      obtain ⟨k, v⟩ := e
      rw [entriesLackNaN, Bool.and_eq_true, Bool.and_eq_true] at h
      rw [List.cons_subset] at hsub
      rw [agreesEntries, agreesEntries_of_subset rest ys h.2 hsub.2, Bool.and_true,
        List.any_eq_true]
      exact ⟨(k, v), hsub.1, by rw [agrees_self k h.1.1, agrees_self v h.1.2]; rfl⟩

theorem agreesInOrder_self
    (entries : Entries)
    (h : entriesLackNaN entries = true) :
    agreesInOrder entries entries = true := by
  cases entries with
  | nil =>
      rw [agreesInOrder]
  | cons e rest =>
      obtain ⟨k, v⟩ := e
      rw [entriesLackNaN, Bool.and_eq_true, Bool.and_eq_true] at h
      rw [agreesInOrder, agrees_self k h.1.1, agrees_self v h.1.2, agreesInOrder_self rest h.2]
      rfl

theorem agreesFields_self
    (fields : Fields)
    (h : fieldsLackNaN fields = true) :
    agreesFields fields fields = true := by
  cases fields with
  | nil =>
      rw [agreesFields]
  | cons f rest =>
      obtain ⟨n, v⟩ := f
      rw [fieldsLackNaN, Bool.and_eq_true] at h
      rw [agreesFields, agrees_self v h.1, agreesFields_self rest h.2, beq_self_eq_true]
      rfl

end

/-- A value without anything that is not a number is the same only as what agrees with it. -/
theorem isSame_eq_agrees
    {v : Value}
    (hv : v.lacksNaN = true)
    (w : Value) :
    v.isSame w = v.agrees w := by
  have hnan : isSameNaN v w = false := by
    unfold isSameNaN
    split
    · cases hv
    · rfl
  rw [isSame, hnan, Bool.or_false]

end Value
end AccessPolicy
