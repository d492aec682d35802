import AccessPolicy.Number.Shortest
import AccessPolicy.Text.Blank

/-!
# Numbers written by hand

`Literal.int` and `Literal.float` read a whole text as a number: blanks around it do not
count, a sign may come first, digits may belong to any script, and an underscore may stand
between two digits.

**Bases.**  An integer is read in a base from 2 to 36.  A mark of the base, such as `0x`, may
come before the digits of a base that has one; base zero stands for the base of the mark.

**Length.**  An integer of more than 4300 digits is refused, unless its base is a power of
two.  The same limit holds for writing an integer in decimal.
-/

namespace AccessPolicy
namespace Literal

/-- Why a text is not read as a number. -/
inductive Refusal where
  | malformed
  | tooLong (digits : Nat)
deriving DecidableEq, Repr

/-- The most digits of an integer in decimal. -/
def maxDigits : Nat := 4300

section Characters

/-- The zeros of the scripts that have digits of their own. -/
def zeros : List Nat := [
  0x30, 0x660, 0x6F0, 0x7C0, 0x966, 0x9E6, 0xA66, 0xAE6, 0xB66, 0xBE6, 0xC66, 0xCE6, 0xD66,
  0xDE6, 0xE50, 0xED0, 0xF20, 0x1040, 0x1090, 0x17E0, 0x1810, 0x1946, 0x19D0, 0x1A80, 0x1A90,
  0x1B50, 0x1BB0, 0x1C40, 0x1C50, 0xA620, 0xA8D0, 0xA900, 0xA9D0, 0xA9F0, 0xAA50, 0xABF0, 0xFF10,
  0x104A0, 0x10D30, 0x11066, 0x110F0, 0x11136, 0x111D0, 0x112F0, 0x11450, 0x114D0, 0x11650,
  0x116C0, 0x11730, 0x118E0, 0x11950, 0x11C50, 0x11D50, 0x11DA0, 0x11F50, 0x16A60, 0x16AC0,
  0x16B50, 0x1D7CE, 0x1D7D8, 0x1D7E2, 0x1D7EC, 0x1D7F6, 0x1E140, 0x1E2F0, 0x1E4F0, 0x1E950,
  0x1FBF0]

/-- A digit of any script as the digit of the same value between `0` and `9`. -/
def plainDigit (c : Char) : Char :=
  if c.toNat < 0x80 then c
  else
    match zeros.find? fun z => z ≤ c.toNat && c.toNat < z + 10 with
    | some z => Char.ofNat ('0'.toNat + (c.toNat - z))
    | none => c

/-- The value of a digit or of a letter that stands for one. -/
def digitValue? (c : Char) : Option Nat :=
  if '0' ≤ c ∧ c ≤ '9' then some (c.toNat - '0'.toNat)
  else if 'a' ≤ c ∧ c ≤ 'z' then some (c.toNat - 'a'.toNat + 10)
  else if 'A' ≤ c ∧ c ≤ 'Z' then some (c.toNat - 'A'.toNat + 10)
  else none

/-- A text with plain digits and without the blanks around it. -/
def trimmed (cs : List Char) : List Char :=
  Text.trimEnd ((cs.map plainDigit).dropWhile Text.isBlank)

/-- A sign at the beginning of a text, which is negative or not, and what follows. -/
def splitSign : List Char → Bool × List Char
  | '-' :: rest => (true, rest)
  | '+' :: rest => (false, rest)
  | cs => (false, cs)

/-- A text without the underscores between two characters of a class; others are not allowed. -/
def withoutGaps? (isDigit : Char → Bool) (afterDigit : Bool) : List Char → Option (List Char)
  | [] => some []
  | '_' :: d :: rest =>
      if afterDigit && isDigit d then (withoutGaps? isDigit true rest).map (d :: ·) else none
  | ['_'] => none
  | c :: rest => (withoutGaps? isDigit (isDigit c) rest).map (c :: ·)

end Characters

section Integers

/-- The base that a letter after a zero marks. -/
def markedBase? (c : Char) : Option Nat :=
  if c == 'x' || c == 'X' then some 16
  else if c == 'o' || c == 'O' then some 8
  else if c == 'b' || c == 'B' then some 2
  else none

/-- The digits after the mark of a base, if the mark is there; an underscore may follow it. -/
def afterMark (base : Nat) (cs : List Char) : Nat × List Char :=
  let unmarked := (if base = 0 then 10 else base, cs)
  match cs with
  | '0' :: c :: rest =>
      match markedBase? c with
      | some marked =>
          if base = 0 ∨ base = marked then
            (marked, match rest with | '_' :: more => more | _ => rest)
          else unmarked
      | none => unmarked
  | _ => unmarked

/-- Whether a base is a power of two. -/
def isBinary (base : Nat) : Bool :=
  base == 2 || base == 4 || base == 8 || base == 16 || base == 32

/-- The number that digits of a base stand for. -/
def digitsValue? (base : Nat) (cs : List Char) : Option Nat :=
  if cs.isEmpty then none
  else
    cs.foldl (fun sum c => do
      let d ← digitValue? c
      if d < base then return (← sum) * base + d else none) (some 0)

/-- The natural of some digits, of which there must not be too many. -/
def natural (base : Nat) (cs : List Char) : Except Refusal Nat :=
  match withoutGaps? (fun c => (digitValue? c).isSome) false cs with
  | none => .error .malformed
  | some digits =>
      if maxDigits < digits.length ∧ !isBinary base ∧ digits.all (fun c => (digitValue? c).isSome)
      then .error (.tooLong digits.length)
      else
        match digitsValue? base digits with
        | some n => .ok n
        | none => .error .malformed

/-- The integer that a text stands for in a base. -/
def int (base : Nat) (text : List Char) : Except Refusal Int := do
  let (negative, cs) := splitSign (trimmed text)
  let (base', digits) := afterMark base cs
  let n ← natural base' digits
  if base = 0 ∧ base' = 10 ∧ n ≠ 0 ∧ digits.head? = some '0' then .error .malformed
  else return if negative then -(n : Int) else n

/-- Whether an integer can be written in decimal. -/
def isWritable (i : Int) : Bool :=
  Nat.log2 i.natAbs < 3 * maxDigits || i.natAbs < Nat.pow 10 maxDigits

end Integers

section Fractions

/-- The number that a text stands for; what is not a number has the given origin. -/
def float (origin : Nat) (text : List Char) : Except Refusal Binary64 :=
  let (negative, cs) := splitSign (trimmed text)
  let word := String.ofList (cs.map Char.toLower)
  if word = "inf" ∨ word = "infinity" then .ok (.infinite negative)
  else if word = "nan" then .ok (.nan origin)
  else
    match (withoutGaps? Char.isDigit false cs).bind (Binary64.readMagnitude? negative) with
    | some x => .ok x
    | none => .error .malformed

end Fractions

end Literal
end AccessPolicy
