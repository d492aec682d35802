import AccessPolicy.Value.Equality

/-!
# Order of values

Numbers are ordered by amount, texts by the code points of their characters, and sequences of
one kind by the first items that do not agree.  Other values have no order.

`Value.sorted?` sorts values, each of which must be comparable with those that it meets.
-/

namespace AccessPolicy
namespace Value

/-- The exact amount of a number. -/
def amount? : Value → Option Rat
  | .bool b => some (intOfBool b : Rat)
  | .int i => some (i : Rat)
  | .float x => x.toRat?
  | _ => none

/-- Whether a number is less than another one. -/
def numberIsLess? (v w : Value) : Option Bool :=
  match v, w with
  | .float (.nan _), w => if w.amount?.isSome then some false else none
  | v, .float (.nan _) => if v.amount?.isSome then some false else none
  | .float (.infinite s), .float (.infinite t) => some (s && !t)
  | .float (.infinite s), w => w.amount?.map fun _ => s
  | v, .float (.infinite s) => v.amount?.map fun _ => !s
  | v, w => do
      let a ← v.amount?
      let b ← w.amount?
      return decide (a < b)

mutual

/-- Whether a value is less than another one, if they have an order. -/
def isLess? (v w : Value) : Option Bool :=
  match v, w with
  | .text s, w => w.text?.map fun t => decide (s < t)
  | .tag s, w => w.text?.map fun t => decide (s.text < t)
  | .bytes s, .bytes t => some (decide (s < t))
  | .list xs, .list ys => areLess? xs ys
  | .tuple xs, .tuple ys => areLess? xs ys
  | v, w => numberIsLess? v w

/-- Whether some values are less than others by the first that do not agree. -/
def areLess? : List Value → List Value → Option Bool
  | [], ys => some !ys.isEmpty
  | _ :: _, [] => some false
  | x :: xs, y :: ys => if x.isSame y then areLess? xs ys else isLess? x y

end

/-- Puts a value into a sorted list, behind those that are not greater. -/
def insertSorted? (v : Value) : List Value → Option (List Value)
  | [] => some [v]
  | w :: rest => do
      if ← isLess? v w then return v :: w :: rest
      else return w :: (← insertSorted? v rest)

/-- The values of a list in order. -/
def sorted? (items : List Value) : Option (List Value) :=
  items.foldlM (fun done v => insertSorted? v done) []

end Value
end AccessPolicy
