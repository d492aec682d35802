import AccessPolicy.Value.Basic

/-!
# Equality of values

Values agree as data: numbers by amount, whatever their type, texts by their
characters, sequences of one kind item by item, maps by content without regard
to order, objects by type and fields, entities by identity, and references by what they
refer to.  Two ordered maps agree only in the same order.

**Identity.**  What is not a number agrees with nothing.  Inside of collections and as a key,
however, it is found again: `Value.isSame` also accepts one and the same such value.
-/

namespace AccessPolicy
namespace Value

/-- The integer that a truth value counts as. -/
def intOfBool (b : Bool) : Int :=
  if b then 1 else 0

/-- Whether a value is a number of the given integer amount. -/
def agreesWithInt : Value → Int → Bool
  | .bool b, i => intOfBool b == i
  | .int j, i => j == i
  | .float x, i => x.agreesWithInt i
  | _, _ => false

/-- Whether a value is a number of the given amount. -/
def agreesWithFloat : Value → Binary64 → Bool
  | .bool b, x => x.agreesWithInt (intOfBool b)
  | .int j, x => x.agreesWithInt j
  | .float y, x => x.agrees y
  | _, _ => false

/-- Whether the order of a map's entries belongs to its content. -/
def isOrdered (t : TypeRef) : Bool :=
  t.isSubtypeOf (.builtin .orderedMap)

/-- Whether two values are one and the same thing that is not a number. -/
def isSameNaN : Value → Value → Bool
  | .float (.nan o), .float (.nan o') => o == o'
  | _, _ => false

mutual

/-- Whether two values agree as data. -/
def agrees : Value → Value → Bool
  | .null, .null => true
  | .bool b, v => v.agreesWithInt (intOfBool b)
  | .int i, v => v.agreesWithInt i
  | .float x, v => v.agreesWithFloat x
  | .text s, v => v.text? == some s
  | .tag t, v => v.text? == some t.text
  | .bytes xs, .bytes ys => xs == ys
  | .date d, .date e => d == e
  | .timestamp m, .timestamp n => m.agrees n
  | .list xs, .list ys => agreesAll xs ys
  | .tuple xs, .tuple ys => agreesAll xs ys
  | .set xs, .set ys => xs.length == ys.length && agreesItems xs ys
  | .map t xs, .map u ys =>
      if isOrdered t && isOrdered u then agreesInOrder xs ys
      else xs.length == ys.length && agreesEntries xs ys
  | .object t xs, .object u ys => t == u && agreesFields xs ys
  | .entity i _ _, .entity j _ _ => i == j
  | .type t, .type u => t == u
  | .module r _, .module r' _ => r == r'
  | .function f, .function g => f == g
  | .method v n, .method w m => n == m && agrees v w
  | .loop t, .loop u => t == u
  | _, _ => false

def agreesAll : List Value → List Value → Bool
  | [], [] => true
  | x :: xs, y :: ys => (agrees x y || isSameNaN x y) && agreesAll xs ys
  | _, _ => false

/-- Every item of the first list is in the second. -/
def agreesItems : List Value → List Value → Bool
  | [], _ => true
  | x :: xs, ys => ys.any (fun y => agrees x y || isSameNaN x y) && agreesItems xs ys

/-- Every entry of the first list has an equal one in the second. -/
def agreesEntries : List (Value × Value) → List (Value × Value) → Bool
  | [], _ => true
  | (k, v) :: rest, ys =>
      ys.any (fun y =>
        (agrees k y.1 || isSameNaN k y.1) && (agrees v y.2 || isSameNaN v y.2)) &&
        agreesEntries rest ys

def agreesInOrder : List (Value × Value) → List (Value × Value) → Bool
  | [], [] => true
  | (k, v) :: xs, (k', v') :: ys =>
      (agrees k k' || isSameNaN k k') && (agrees v v' || isSameNaN v v') && agreesInOrder xs ys
  | _, _ => false

def agreesFields : List (String × Value) → List (String × Value) → Bool
  | [], [] => true
  | (n, v) :: xs, (n', v') :: ys =>
      n == n' && (agrees v v' || isSameNaN v v') && agreesFields xs ys
  | _, _ => false

end

/-- Whether two values agree or are one and the same. -/
def isSame (v w : Value) : Bool :=
  v.agrees w || isSameNaN v w

/-- Whether some value of a list is the given one. -/
def isIn (v : Value) (items : List Value) : Bool :=
  items.any fun w => w.isSame v

/-- The values of a list that are the same as no earlier one. -/
def distinct : List Value → List Value
  | [] => []
  | v :: rest => v :: (distinct rest).filter fun w => !v.isSame w

end Value

namespace Entries

def get? (entries : Entries) (key : Value) : Option Value :=
  (entries.find? (fun e => e.1.isSame key)).map (·.2)

/-- The value at a text key. -/
def getText? (entries : Entries) (key : String) : Option Value :=
  get? entries (.text key)

/-- Puts a value at a key; a present key keeps its position and spelling. -/
def set (entries : Entries) (key value : Value) : Entries :=
  match entries with
  | [] => [(key, value)]
  | (k, v) :: rest =>
      if k.isSame key then (k, value) :: rest
      else (k, v) :: set rest key value

/-- Puts all entries of the second map into the first, in order. -/
def merge (entries : Entries) (more : Entries) : Entries :=
  more.foldl (fun acc e => set acc e.1 e.2) entries

/-- The map that results from putting entries in order. -/
def ofList (entries : List (Value × Value)) : Entries :=
  merge [] entries

end Entries

namespace Fields

def get? (fields : Fields) (name : String) : Option Value :=
  (fields.find? (fun f => f.1 == name)).map (·.2)

/-- Sets a field; a present field keeps its position, another one goes last. -/
def set (fields : Fields) (name : String) (value : Value) : Fields :=
  match fields with
  | [] => [(name, value)]
  | (n, v) :: rest =>
      if n = name then (n, value) :: rest
      else (n, v) :: set rest name value

/-- Sets all fields of the second list in the first, in order. -/
def merge (fields : Fields) (more : Fields) : Fields :=
  more.foldl (fun acc f => set acc f.1 f.2) fields

/-- The fields that result from setting them in order. -/
def ofList (fields : List (String × Value)) : Fields :=
  merge [] fields

end Fields
end AccessPolicy
