import AccessPolicy.Failure
import AccessPolicy.Value.Order

/-!
# Members that stand for operators

Comparisons and the arithmetic of integers are members too: `Member.comparison?` and
`Member.arithmetic?` say what they give for two values.

**Undecided.**  A member that does not know the kind of its argument answers
`Member.undecided`, a value that counts as true.
-/

namespace AccessPolicy
namespace Member

/-- The answer of an operator about values that it does not know. -/
def undecided : Value :=
  .object (.builtin .undecided) []

/-- The integer that a value counts as. -/
def integer? : Value → Option Int
  | .int i => some i
  | .bool b => some (Value.intOfBool b)
  | _ => none

/-- Whether a value knows how to tell whether another one agrees with it. -/
def knows (v w : Value) : Bool :=
  match v, w with
  | .list _, .list _ | .tuple _, .tuple _ | .bytes _, .bytes _ | .set _, .set _ => true
  | .map .., .map .. => true
  | .float _, w => w.amount?.isSome || (w matches .float _)
  | .object s _, .object t _ =>
      s = t || (s.isSubtypeOf (.builtin .model) && t.isSubtypeOf (.builtin .model))
  | v, w => (v.text?.isSome && w.text?.isSome) || ((integer? v).isSome && (integer? w).isSome)

/-- Whether two values are equal, for the members that ask it. -/
def equality (v w : Value) : Option Bool :=
  if knows v w then some (v.agrees w)
  else if v.isSame w then some true
  else none

/-- Whether two values are in an order, given whether they are if they agree.  Values of one
kind whose parts have no order are refused. -/
def order (v w : Value) (ifEqual : Bool) (isLess : Option Bool) : Except Failure Value :=
  if !knows v w then .ok undecided
  else
    match v with
    | .map .. | .object .. | .set _ => .ok undecided
    | _ =>
        match isLess with
        | some b => .ok (.bool (b || (ifEqual && v.agrees w)))
        | none => if v.agrees w then .ok (.bool ifEqual) else .error .wrongType

/-- The names of the members that compare. -/
def comparisons : List String :=
  ["__eq__", "__ne__", "__lt__", "__le__", "__gt__", "__ge__"]

/-- A comparison by the name of its member. -/
def comparison? (name : String) (v w : Value) : Option (Except Failure Value) :=
  let answer := fun (b : Option Bool) => Except.ok ((b.map Value.bool).getD undecided)
  match name with
  | "__eq__" => some (answer (equality v w))
  | "__ne__" => some (answer ((equality v w).map not))
  | "__lt__" => some (order v w false (v.isLess? w))
  | "__le__" => some (order v w true (v.isLess? w))
  | "__gt__" => some (order v w false (w.isLess? v))
  | "__ge__" => some (order v w true (w.isLess? v))
  | _ => none

/-- What an operation on two integers gives. -/
def ofIntegers (name : String) (i j : Int) : Except Failure Value :=
  let quotient := fun (a b : Int) =>
    if b = 0 then Except.error Failure.divisionByZero else .ok (Value.int (a.fdiv b))
  let remainder := fun (a b : Int) =>
    if b = 0 then Except.error Failure.divisionByZero else .ok (Value.int (a.fmod b))
  match name with
  | "__add__" => .ok (.int (i + j))
  | "__radd__" => .ok (.int (j + i))
  | "__sub__" => .ok (.int (i - j))
  | "__rsub__" => .ok (.int (j - i))
  | "__mul__" => .ok (.int (i * j))
  | "__rmul__" => .ok (.int (j * i))
  | "__floordiv__" => quotient i j
  | "__rfloordiv__" => quotient j i
  | "__mod__" => remainder i j
  | "__rmod__" => remainder j i
  | _ => .error .wrongType

/-- The names of the operations on two integers. -/
def operations : List String :=
  ["add", "and", "divmod", "floordiv", "lshift", "mod", "mul", "or", "pow", "rshift", "sub",
    "truediv", "xor"]

/-- An operation on an integer by the name of its member. -/
def arithmetic? (name : String) (v w : Value) : Option (Except Failure Value) :=
  if operations.any fun o => name = "__" ++ o ++ "__" ∨ name = "__r" ++ o ++ "__" then
    match integer? v, integer? w with
    | some i, some j => some (ofIntegers name i j)
    | some _, none => some (.ok undecided)
    | none, _ => none
  else none

/-- The powers of an integer, to a modulus.  Powers of integers are refused. -/
def power (v w modulus : Value) : Except Failure Value :=
  let isReal := fun (v : Value) => v matches .float _
  if isReal v || isReal w || isReal modulus then .error .wrongType
  else if (integer? v).isSome && (integer? w).isSome && (integer? modulus).isSome then
    .error .wrongType
  else .ok undecided

/-- Reads rows of bytes in an order of the given name, which are refused. -/
def byteOrder (order : Value) : Except Failure Value :=
  match order.text? with
  | some o => if o = "big" ∨ o = "little" then .error .wrongType else .error .wrongValue
  | none => .error .wrongType

end Member
end AccessPolicy
