import AccessPolicy.Member.Call

/-!
# How calls of types and members fail

Types and the members that come with the type of a value can be called like functions.  What they
refuse they refuse as a value of the wrong kind, form or range.  Coded faults are made by this
library alone, so no such call fails with one (`isCodeless_call`, `isCodeless_callMember`).

**Parts.**  There is one lemma for each function that such a call goes through, and the lemmas of
the parts are simplification rules for what is made of them.
-/

namespace AccessPolicy

/-- A calculation does not fail with a coded fault. -/
def IsCodeless {α : Type} (x : Except Failure α) : Prop :=
  ∀ f, x ≠ .error (.fault f)

section Closure

variable {α β : Type} {x y : Except Failure α}

@[simp] theorem isCodeless_ok
    (a : α) :
    IsCodeless (.ok a : Except Failure α) :=
  fun _ h => nomatch h

@[simp] theorem isCodeless_error_iff
    {e : Failure} :
    IsCodeless (.error e : Except Failure α) ↔ ∀ f, e ≠ .fault f := by
  simp [IsCodeless]

@[simp] theorem isCodeless_ite
    {c : Prop}
    [Decidable c]
    (hx : IsCodeless x)
    (hy : IsCodeless y) :
    IsCodeless (if c then x else y) := by
  split
  · exact hx
  · exact hy

@[simp] theorem isCodeless_bind
    {f : α → Except Failure β}
    (hx : IsCodeless x)
    (hf : ∀ a, IsCodeless (f a)) :
    IsCodeless (x >>= f) := by
  cases x with
  | error e =>
      exact fun fault h => hx fault (congrArg _ (Except.error.inj h))
  | ok a =>
      exact hf a

@[simp] theorem isCodeless_pure
    (a : α) :
    IsCodeless (pure a : Except Failure α) :=
  isCodeless_ok a

@[simp] theorem isCodeless_map
    (hx : IsCodeless x)
    (f : α → β) :
    IsCodeless (f <$> x) := by
  cases x with
  | error e =>
      exact fun fault h => hx fault (congrArg _ (Except.error.inj h))
  | ok a =>
      exact isCodeless_ok _

@[simp] theorem isCodeless_mapM
    {f : α → Except Failure β}
    (hf : ∀ a, IsCodeless (f a))
    (xs : List α) :
    IsCodeless (xs.mapM f) := by
  induction xs with
  | nil =>
      exact isCodeless_ok _
  | cons a rest ih =>
      rw [List.mapM_cons]
      exact isCodeless_bind (hf a) fun _ => isCodeless_bind ih fun _ => isCodeless_ok _

end Closure

namespace Construction

@[simp] theorem isCodeless_items
    (v : Value) :
    IsCodeless (items v) := by
  unfold items
  split <;> simp

@[simp] theorem isCodeless_pair
    (v : Value) :
    IsCodeless (pair v) := by
  refine isCodeless_bind (isCodeless_items v) fun xs => ?_
  split <;> simp

@[simp] theorem isCodeless_entries
    (v : Value) :
    IsCodeless (entries v) := by
  unfold entries
  split
  · simp
  · exact isCodeless_bind (isCodeless_items v) fun xs =>
      isCodeless_bind (isCodeless_mapM isCodeless_pair xs) fun _ => isCodeless_ok _

@[simp] theorem isCodeless_optionalEntries
    (args : List Value) :
    IsCodeless (optionalEntries args) := by
  unfold optionalEntries
  split <;> simp

@[simp] theorem isCodeless_read
    {α : Type}
    (x : Except Literal.Refusal α) :
    IsCodeless (read x) := by
  cases x with
  | error e =>
      exact isCodeless_error_iff.mpr (by simp)
  | ok a =>
      exact isCodeless_ok a

@[simp] theorem isCodeless_int
    (v : Value) :
    IsCodeless (int v) := by
  unfold int
  repeat' split
  all_goals simp

@[simp] theorem isCodeless_base
    (v : Value) :
    IsCodeless (base v) := by
  unfold base
  split <;> simp

@[simp] theorem isCodeless_float
    (v : Value) :
    IsCodeless (float v) := by
  unfold float
  dsimp only
  repeat' split
  all_goals simp

@[simp] theorem isCodeless_object
    (t : TypeRef)
    (args : List Value) :
    IsCodeless (object t args) := by
  simp [object]

@[simp] theorem isCodeless_builtin
    (b : Builtin)
    (args : List Value) :
    IsCodeless (builtin b args) := by
  unfold builtin
  repeat' split
  all_goals simp

/-- What a type makes of some arguments is no coded fault. -/
@[simp] theorem isCodeless_call
    (t : TypeRef)
    (args : List Value) :
    IsCodeless (call t args) := by
  unfold call
  repeat' split
  all_goals simp

end Construction

namespace Member

@[simp] theorem isCodeless_order
    (v w : Value)
    (ifEqual : Bool)
    (isLess : Option Bool) :
    IsCodeless (order v w ifEqual isLess) := by
  unfold order
  repeat' split
  all_goals simp

@[simp] theorem isCodeless_comparison?
    {name : String}
    {v w : Value}
    {x : Except Failure Value}
    (hx : IsCodeless x) :
    IsCodeless ((comparison? name v w).getD x) := by
  unfold comparison?
  split <;> simp [hx]

@[simp] theorem isCodeless_ofIntegers
    (name : String)
    (i j : Int) :
    IsCodeless (ofIntegers name i j) := by
  unfold ofIntegers
  split <;> simp

@[simp] theorem isCodeless_arithmetic?
    {name : String}
    {v w : Value}
    {x : Except Failure Value}
    (hx : IsCodeless x) :
    IsCodeless ((arithmetic? name v w).getD x) := by
  unfold arithmetic?
  repeat' split
  all_goals simp [hx]

@[simp] theorem isCodeless_power
    (v w modulus : Value) :
    IsCodeless (power v w modulus) := by
  simp [power]

@[simp] theorem isCodeless_byteOrder
    (order : Value) :
    IsCodeless (byteOrder order) := by
  unfold byteOrder
  split <;> simp

@[simp] theorem isCodeless_ofTexts
    (name : String)
    (s t : List Char) :
    IsCodeless (ofTexts name s t) := by
  unfold ofTexts
  repeat' split
  all_goals simp

@[simp] theorem isCodeless_textItems
    (v : Value) :
    IsCodeless (textItems v) := by
  refine isCodeless_bind (Construction.isCodeless_items v) fun xs =>
    isCodeless_mapM (fun item => ?_) xs
  split <;> simp

@[simp] theorem isCodeless_ofText
    (name s : String)
    (args : List Value) :
    IsCodeless (ofText name s args) := by
  unfold ofText
  repeat' split
  all_goals simp

@[simp] theorem isCodeless_indexFrom
    (v : Value)
    (start : Int)
    (items : List Value) :
    IsCodeless (indexFrom v start items) := by
  unfold indexFrom
  dsimp only
  split <;> simp

@[simp] theorem isCodeless_itemAt
    (items : List Value)
    (i : Int) :
    IsCodeless (itemAt items i) := by
  refine isCodeless_ite (by simp) ?_
  split <;> simp

@[simp] theorem isCodeless_ofItems
    (self : Value)
    (items : List Value)
    (name : String)
    (args : List Value) :
    IsCodeless (ofItems self items name args) := by
  unfold ofItems
  dsimp only
  repeat' split
  all_goals simp

@[simp] theorem isCodeless_ofEntries
    (entries : Entries)
    (name : String)
    (args : List Value) :
    IsCodeless (ofEntries entries name args) := by
  unfold ofEntries
  dsimp only
  repeat' split
  all_goals simp

@[simp] theorem isCodeless_setMember
    (self : Value)
    (args : List Value) :
    IsCodeless (setMember self args) := by
  unfold setMember
  repeat' split
  all_goals simp

@[simp] theorem isCodeless_ofContent
    (self : Value)
    (name : String)
    (args : List Value) :
    IsCodeless (ofContent self name args) := by
  unfold ofContent
  repeat' split
  all_goals simp

@[simp] theorem isCodeless_ofValue
    (self : Value)
    (name : String)
    (args : List Value) :
    IsCodeless (ofValue self name args) := by
  unfold ofValue
  repeat' split
  all_goals simp

@[simp] theorem isCodeless_ofObject
    (self : Value)
    (name : String)
    (args : List Value) :
    IsCodeless (ofObject self name args) := by
  unfold ofObject
  split <;> simp

@[simp] theorem isCodeless_ofType
    (t : TypeRef)
    (name : String)
    (args : List Value) :
    IsCodeless (ofType t name args) := by
  unfold ofType
  repeat' split
  all_goals simp

end Member

/-- What a member gives that comes with the type of a value is no coded fault. -/
theorem Value.isCodeless_callMember
    (owner : Value)
    (name : String)
    (args : List Value) :
    IsCodeless (owner.callMember name args) := by
  unfold callMember
  split <;> simp

end AccessPolicy
