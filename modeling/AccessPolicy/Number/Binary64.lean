import AccessPolicy.Number.Rounding

/-!
# Binary floating-point numbers of 64 bits

A number is kept as sign, mantissa and exponent, so that rounding and
comparison are exact arithmetic on integers.

**Rounding.**  `Binary64.ofRatio` rounds a quotient of naturals to the nearest
number, ties to the even mantissa; every reader of numbers and every sum goes
through it.

**Not a number.**  The results of undefined operations agree with nothing, not even with
themselves.  They carry their origin, so that it can be told whether two of them are one
and the same.

**Order of magnitude.**  A finite number is `mantissa * 2 ^ exponent` with
`mantissa < 2 ^ 53` and `-1074 ≤ exponent ≤ 971`; the mantissa is below
`2 ^ 52` only at the smallest exponent.
-/

namespace AccessPolicy

/-- A number of the binary64 format. -/
inductive Binary64 where
  | finite (negative : Bool) (mantissa : Nat) (exponent : Int)
  | infinite (negative : Bool)
  | nan (origin : Nat)
deriving DecidableEq, Repr, Inhabited

namespace Binary64

/-- The least exponent of a finite number. -/
def minExponent : Int := -1074

/-- The greatest exponent of a finite number. -/
def maxExponent : Int := 971

def zero (negative : Bool) : Binary64 :=
  .finite negative 0 minExponent

/-- The greatest `e` with `2 ^ e ≤ num / den`, for positive naturals. -/
def binaryOrder (num den : Nat) : Int :=
  let e := (Nat.log2 num : Int) - (Nat.log2 den : Int)
  if den * Nat.pow 2 e.toNat ≤ num * Nat.pow 2 (-e).toNat then e else e - 1

/-- The number nearest to a quotient of naturals. -/
def ofRatio (negative : Bool) (num den : Nat) : Binary64 :=
  if num = 0 ∨ den = 0 then zero negative
  else
    let exponent := max (binaryOrder num den - 52) minExponent
    let mantissa :=
      Rounding.divide (num * Nat.pow 2 (-exponent).toNat) (den * Nat.pow 2 exponent.toNat)
    let (mantissa, exponent) :=
      if mantissa = Nat.pow 2 53 then (Nat.pow 2 52, exponent + 1) else (mantissa, exponent)
    if maxExponent < exponent then .infinite negative
    else .finite negative mantissa exponent

/-- The number of decimal digits of a natural. -/
def decimalLength (n : Nat) : Nat :=
  (Nat.toDigits 10 n).length

/--
The number nearest to `digits * 10 ^ exponent`.  Magnitudes far outside the
format are settled by their decimal length alone.
-/
def ofDecimal (negative : Bool) (digits : Nat) (exponent : Int) : Binary64 :=
  if digits = 0 then zero negative
  else
    let order := exponent + decimalLength digits
    if 400 < order then .infinite negative
    else if order < -400 then zero negative
    else ofRatio negative (digits * Nat.pow 10 exponent.toNat) (Nat.pow 10 (-exponent).toNat)

/-- The number nearest to an integer. -/
def ofInt (i : Int) : Binary64 :=
  ofRatio (decide (i < 0)) i.natAbs 1

/-- The exact value of a finite number. -/
def toRat? : Binary64 → Option Rat
  | .finite negative mantissa exponent =>
      let magnitude : Int := (mantissa * Nat.pow 2 exponent.toNat : Nat)
      some (mkRat (if negative then -magnitude else magnitude) (Nat.pow 2 (-exponent).toNat))
  | _ => none

/-- The number nearest to a rational; zero comes out positive. -/
def ofRat (r : Rat) : Binary64 :=
  ofRatio (decide (r.num < 0)) r.num.natAbs r.den

/-- The sum of two numbers, rounded once.  Opposite infinities have none: the sum is not a
number, of the given origin. -/
def add (origin : Nat) (x y : Binary64) : Binary64 :=
  match x, y with
  | .nan o, _ => .nan o
  | _, .nan o => .nan o
  | .infinite s, .infinite t => if s = t then .infinite s else .nan origin
  | .infinite s, _ => .infinite s
  | _, .infinite s => .infinite s
  | x, y =>
      match x.toRat?, y.toRat? with
      | some a, some b => ofRat (a + b)
      | _, _ => .nan origin

/-- The product with a positive finite number, rounded once. -/
def scale (x factor : Binary64) : Binary64 :=
  match x, factor with
  | .finite negative mantissa exponent, .finite _ mantissa' exponent' =>
      let total := exponent + exponent'
      ofRatio negative (mantissa * mantissa' * Nat.pow 2 total.toNat) (Nat.pow 2 (-total).toNat)
  | x, _ => x

/-- The number with the other sign. -/
def neg : Binary64 → Binary64
  | .finite negative mantissa exponent => .finite (!negative) mantissa exponent
  | .infinite negative => .infinite (!negative)
  | .nan origin => .nan origin

/-- Numeric equality: both zeros agree, and what is not a number agrees with nothing. -/
def agrees : Binary64 → Binary64 → Bool
  | .finite s m e, .finite s' m' e' =>
      m == m' && (m == 0 || (s == s' && e == e'))
  | .infinite s, .infinite s' => s == s'
  | _, _ => false

def agreesWithInt (x : Binary64) (i : Int) : Bool :=
  match x with
  | .finite negative mantissa exponent =>
      let scaled : Int := (mantissa * Nat.pow 2 exponent.toNat : Nat)
      (if negative then -scaled else scaled) == i * (Nat.pow 2 (-exponent).toNat : Nat)
  | _ => false

/-- The integer that a number is, if it is whole. -/
def toInt? : Binary64 → Option Int
  | .finite negative mantissa exponent =>
      let num := mantissa * Nat.pow 2 exponent.toNat
      let den := Nat.pow 2 (-exponent).toNat
      let whole : Int := (num / den : Nat)
      if num % den = 0 then some (if negative then -whole else whole) else none
  | _ => none

/-- The whole part of a finite number, without its fraction. -/
def truncate? : Binary64 → Option Int
  | .finite negative mantissa exponent =>
      let whole : Int := (mantissa * Nat.pow 2 exponent.toNat / Nat.pow 2 (-exponent).toNat : Nat)
      some (if negative then -whole else whole)
  | _ => none

def isZero : Binary64 → Bool
  | .finite _ mantissa _ => mantissa == 0
  | _ => false

end Binary64
end AccessPolicy
