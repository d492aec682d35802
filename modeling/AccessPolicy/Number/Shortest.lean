import AccessPolicy.Number.Binary64

/-!
# The shortest decimal text of a number

**Digits.**  `Binary64.shortest` looks at one, two, … seventeen significant
digits in turn.  On each decimal grid only the two neighbours of the number can
read back as it; the first grid with a hit gives the digits, the nearer of two
hits being taken.

**Layout.**  `Binary64.text` writes the digits positionally when the leading
digit stands for a power of ten from `10 ^ -4` up to `10 ^ 15`, and with a signed
exponent of at least two digits otherwise.  A number that is whole is written
with `.0`, so that it differs from an integer.
-/

namespace AccessPolicy
namespace Binary64

/-- A positive decimal `digits * 10 ^ exponent`. -/
structure Decimal where
  digits : Nat
  exponent : Int
deriving DecidableEq, Repr

/-- A quotient split at the decimal grid `10 ^ place`: whole part and remainder. -/
def onGrid (num den : Nat) (place : Int) : Nat × Nat × Nat :=
  let num' := num * Nat.pow 10 (-place).toNat
  let den' := den * Nat.pow 10 place.toNat
  (num' / den', num' % den', den')

/-- The least `k` with `num / den < 10 ^ k`. -/
def decimalOrder (num den : Nat) : Int :=
  let k := (decimalLength num : Int) - decimalLength den
  if num * Nat.pow 10 (-k).toNat < den * Nat.pow 10 k.toNat then k else k + 1

/-- The neighbour on the grid of `n` digits that reads back, if there is one. -/
def onDigits? (x : Binary64) (num den : Nat) (order : Int) (n : Nat) : Option Decimal :=
  let place := order - n
  let (whole, rest, unit) := onGrid num den place
  let below : Decimal := ⟨whole, place⟩
  let above : Decimal := ⟨whole + 1, place⟩
  let readsBack := fun (d : Decimal) => ofDecimal false d.digits d.exponent == x
  let nearer := if 2 * rest < unit ∨ (2 * rest = unit ∧ whole % 2 = 0) then below else above
  let farther := if nearer = below then above else below
  if readsBack nearer then some nearer
  else if readsBack farther then some farther
  else none

/-- The fewest digits that read back, searched from `n` digits on. -/
def searchDigits (x : Binary64) (num den : Nat) (order : Int) (n : Nat) : Nat → Option Decimal
  | 0 => none
  | fuel + 1 =>
      match onDigits? x num den order n with
      | some d => some d
      | none => searchDigits x num den order (n + 1) fuel

/-- The shortest decimal that reads back as a positive finite number. -/
def shortest (mantissa : Nat) (exponent : Int) : Decimal :=
  let num := mantissa * Nat.pow 2 exponent.toNat
  let den := Nat.pow 2 (-exponent).toNat
  let order := decimalOrder num den
  match searchDigits (.finite false mantissa exponent) num den order 1 17 with
  | some d => d
  | none => ⟨mantissa, 0⟩

def zeros (n : Nat) : List Char :=
  List.replicate n '0'

/-- Drops the zeros at the end of a list of digits. -/
def dropTrailingZeros (digits : List Char) : List Char :=
  (digits.reverse.dropWhile (· == '0')).reverse

/-- The exponent of a text in scientific form: a sign and at least two digits. -/
def exponentText (e : Int) : List Char :=
  let digits := Nat.toDigits 10 e.natAbs
  (if e < 0 then '-' else '+') :: (if digits.length < 2 then '0' :: digits else digits)

/-- The layout of significant digits whose first stands for `10 ^ (point - 1)`. -/
def layout (digits : List Char) (point : Int) : List Char :=
  let count : Int := digits.length
  if -4 < point ∧ point ≤ 16 then
    if point ≤ 0 then ['0', '.'] ++ zeros (-point).toNat ++ digits
    else if count ≤ point then digits ++ zeros (point - count).toNat ++ ['.', '0']
    else digits.take point.toNat ++ '.' :: digits.drop point.toNat
  else
    match digits with
    | [] => []
    | [d] => d :: 'e' :: exponentText (point - 1)
    | d :: rest => d :: '.' :: rest ++ 'e' :: exponentText (point - 1)

/-- The text of a number: the fewest digits that read back as it. -/
def text : Binary64 → String
  | .nan _ => "nan"
  | .infinite negative => if negative then "-inf" else "inf"
  | .finite negative mantissa exponent =>
      let magnitude :=
        if mantissa = 0 then ['0', '.', '0']
        else
          let d := shortest mantissa exponent
          let digits := Nat.toDigits 10 d.digits
          layout (dropTrailingZeros digits) (d.exponent + digits.length)
      String.ofList (if negative then '-' :: magnitude else magnitude)

/-- The value of a list of decimal digits. -/
def digitsValue (digits : List Char) : Nat :=
  digits.foldl (fun n c => 10 * n + (c.toNat - '0'.toNat)) 0

/-- An optional sign and digits, as an integer. -/
def readExponent? : List Char → Option Int
  | '-' :: rest =>
      if rest ≠ [] ∧ rest.all Char.isDigit then some (-(digitsValue rest : Int)) else none
  | '+' :: rest =>
      if rest ≠ [] ∧ rest.all Char.isDigit then some (digitsValue rest) else none
  | rest =>
      if rest ≠ [] ∧ rest.all Char.isDigit then some (digitsValue rest) else none

/-- Reads an unsigned decimal: digits, an optional fraction, an optional exponent. -/
def readMagnitude? (negative : Bool) (cs : List Char) : Option Binary64 :=
  let whole := cs.takeWhile Char.isDigit
  let rest := cs.dropWhile Char.isDigit
  let (fraction, rest) :=
    match rest with
    | '.' :: more => (more.takeWhile Char.isDigit, more.dropWhile Char.isDigit)
    | _ => ([], rest)
  let exponent? :=
    match rest with
    | [] => some 0
    | 'e' :: more => readExponent? more
    | 'E' :: more => readExponent? more
    | _ => none
  if whole = [] ∧ fraction = [] then none
  else
    exponent?.map fun e =>
      ofDecimal negative (digitsValue (whole ++ fraction)) (e - fraction.length)

/-- Reads a decimal text with an optional sign; `inf` and `nan` are accepted, the latter with
the given origin. -/
def ofText? (origin : Nat) (s : String) : Option Binary64 :=
  let (negative, rest) :=
    match s.toList with
    | '-' :: more => (true, more)
    | '+' :: more => (false, more)
    | cs => (false, cs)
  if rest = ['i', 'n', 'f'] then some (.infinite negative)
  else if rest = ['n', 'a', 'n'] then some (.nan origin)
  else readMagnitude? negative rest

end Binary64
end AccessPolicy
