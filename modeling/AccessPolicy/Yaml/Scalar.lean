import AccessPolicy.Number.Literal
import AccessPolicy.Text.Case
import AccessPolicy.Text.Split
import AccessPolicy.Value.Calendar
import AccessPolicy.Yaml.DataTag
import AccessPolicy.Yaml.Token.Scalars

/-!
# Meanings of plain scalars

A plain scalar is null, a truth value, a number or a point in time if it has the form of
one, and a text otherwise.

**Truth values** are `yes`, `no`, `true`, `false`, `on` and `off` in lower case, upper
case or with a capital.

**Numbers** may hold underscores between digits.  Integers are decimal, octal after a
zero, hexadecimal after `0x`, binary after `0b`, or sexagesimal with colons.  Numbers
with a fraction need a point, and a sign in their exponent.

**Line ends.**  A text of some form may have a line break behind it.  The break belongs to the
text all the same: a truth value with one is none of the words.

**Trouble.**  A tag can ask for data that a text does not have the form of.  The reading
functions accept more than the forms, and say what is wrong with the rest.
-/

namespace AccessPolicy
namespace Yaml
namespace Scalar

section Forms

/-- Words that mean true or false. -/
def truthWords : List (String × Bool) :=
  [("yes", true), ("no", false), ("true", true), ("false", false), ("on", true), ("off", false)]

/-- A word with a capital first letter. -/
def capitalized : List Char → List Char
  | [] => []
  | c :: rest => c.toUpper :: rest

/-- A word in the three ways in which it may be written. -/
def spellings (word : String) : List (List Char) :=
  let cs := word.toList
  [cs, capitalized cs, cs.map Char.toUpper]

/-- A text without a sign at its beginning. -/
def unsigned : List Char → List Char
  | '-' :: rest => rest
  | '+' :: rest => rest
  | cs => cs

/-- Whether a text has at least one character and all are of a class. -/
def consistsOf (p : Char → Bool) (cs : List Char) : Bool :=
  !cs.isEmpty && cs.all p

/-- Whether a character is a digit or an underscore. -/
def isDigitOrGap (c : Char) : Bool :=
  c.isDigit || c == '_'

/-- Whether a text is a digit followed by digits and underscores. -/
def isDigits : List Char → Bool
  | [] => false
  | c :: rest => c.isDigit && rest.all isDigitOrGap

/-- The parts of a text between colons. -/
def parts (cs : List Char) : List (List Char) :=
  Text.splitChars ':' cs

/-- Whether a part of a sexagesimal number is below sixty. -/
def isSexagesimalDigit : List Char → Bool
  | [c] => c.isDigit
  | [c, d] => '0' ≤ c && c ≤ '5' && d.isDigit
  | _ => false

/-- Whether a text has the form of an integer. -/
def isInt (cs : List Char) : Bool :=
  match unsigned cs with
  | '0' :: 'b' :: rest => consistsOf (fun c => c == '0' || c == '1' || c == '_') rest
  | '0' :: 'x' :: rest => consistsOf (fun c => (Text.hexValue? c).isSome || c == '_') rest
  | ['0'] => true
  | '0' :: rest => rest.all fun c => ('0' ≤ c && c ≤ '7') || c == '_'
  | c :: rest =>
      match parts (c :: rest) with
      | [digits] => isDigits digits
      | first :: more => isDigits first && more.all isSexagesimalDigit
      | [] => false
  | [] => false

/-- Whether a text is empty or an exponent with a sign. -/
def isSignedExponent : List Char → Bool
  | [] => true
  | e :: sign :: digits =>
      (e == 'e' || e == 'E') && (sign == '-' || sign == '+') && consistsOf Char.isDigit digits
  | _ => false

/-- Whether a text has the form of a number with a fraction. -/
def isFloat (cs : List Char) : Bool :=
  let whole := (unsigned cs).takeWhile (· != '.')
  match (unsigned cs).dropWhile (· != '.') with
  | '.' :: fraction =>
      let rest := fraction.dropWhile isDigitOrGap
      if whole.isEmpty then
        (spellings "inf").contains fraction ||
          (unsigned cs == cs &&
            (fraction == "nan".toList || fraction == "NaN".toList || fraction == "NAN".toList ||
              (isDigits (fraction.takeWhile isDigitOrGap) && isSignedExponent rest)))
      else
        match parts whole with
        | [digits] => isDigits digits && isSignedExponent rest
        | first :: more => isDigits first && more.all isSexagesimalDigit && rest.isEmpty
        | [] => false
  | _ => false

/-- The digits of a text that begins with at least `least` and at most `most` of them. -/
def leadingDigits? (least most : Nat) (cs : List Char) : Option (Nat × List Char) :=
  let digits := (cs.take most).takeWhile Char.isDigit
  if least ≤ digits.length then some (Binary64.digitsValue digits, cs.drop digits.length)
  else none

/-- A text after a character that it must begin with. -/
def after? (c : Char) : List Char → Option (List Char)
  | d :: rest => if d = c then some rest else none
  | [] => none

/-- A day at the beginning of a text. -/
def day? (least : Nat) (cs : List Char) : Option ((Nat × Nat × Nat) × List Char) := do
  let (year, cs) ← leadingDigits? 4 4 cs
  let cs ← after? '-' cs
  let (month, cs) ← leadingDigits? least 2 cs
  let cs ← after? '-' cs
  let (day, cs) ← leadingDigits? least 2 cs
  return ((year, month, day), cs)

/-- An offset from universal time in minutes, at the end of a text. -/
def offset? (cs : List Char) : Option (Option Int) :=
  match cs.dropWhile Reading.isInlineBlank with
  | [] => if cs.isEmpty then some none else none
  | ['Z'] => some (some 0)
  | sign :: rest => do
      if sign != '+' && sign != '-' then none
      let (hours, rest) ← leadingDigits? 1 2 rest
      let minutes ←
        match rest with
        | [] => some 0
        | ':' :: more => do
            let (m, more) ← leadingDigits? 2 2 more
            if more.isEmpty then some m else none
        | _ => none
      let total : Int := 60 * hours + minutes
      return some (if sign = '-' then -total else total)

/-- A point in the calendar. -/
inductive Temporal where
  | day (d : Day)
  | moment (m : Moment)
deriving DecidableEq, Repr

/-- The day or point in time that a text has the form of; a day alone has months and days of
at least the given number of digits. -/
def temporal? (least : Nat) (cs : List Char) : Option Temporal :=
  match day? least cs with
  | some ((year, month, day), []) => some (.day ⟨year, month, day⟩)
  | _ => do
      let ((year, month, day), rest) ← day? 1 cs
      let rest ←
        match rest with
        | c :: more =>
            if c == 'T' || c == 't' then some more
            else if Reading.isInlineBlank c then some (more.dropWhile Reading.isInlineBlank)
            else none
        | [] => none
      let (hour, rest) ← leadingDigits? 1 2 rest
      let rest ← after? ':' rest
      let (minute, rest) ← leadingDigits? 2 2 rest
      let rest ← after? ':' rest
      let (second, rest) ← leadingDigits? 2 2 rest
      let (fraction, rest) :=
        match rest with
        | '.' :: more => (more.takeWhile Char.isDigit, more.dropWhile Char.isDigit)
        | _ => ([], rest)
      let micro := Binary64.digitsValue ((fraction ++ Binary64.zeros 6).take 6)
      let offset ← offset? rest
      return .moment ⟨⟨year, month, day⟩, hour, minute, second, micro, offset⟩

/-- A text without the line break behind it. -/
def withoutBreak (cs : List Char) : List Char :=
  if cs.getLast? = some '\n' then cs.dropLast else cs

/-- The data that a plain scalar has the form of. -/
def tagOf (text : String) : DataTag :=
  let cs := withoutBreak text.toList
  if text = "" then .null
  else if truthWords.any (fun w => (spellings w.1).contains cs) then .bool
  else if isFloat cs then .float
  else if isInt cs then .int
  else if cs = ['<', '<'] then .merge
  else if cs = ['~'] ∨ (spellings "null").contains cs then .null
  else if (temporal? 2 cs).isSome then .timestamp
  else if cs = ['='] then .default
  else .text

end Forms

section Values

/-- Why a text is not the data that its tag asks for. -/
structure Trouble where
  stage : Stage
  message : String
deriving DecidableEq, Repr

/-- The trouble with a text that has no characters to look at. -/
def noCharacters : Trouble :=
  ⟨.missingNumbers, "string index out of range"⟩

def readInBase (base : Nat) (cs : List Char) : Except Trouble Int :=
  match Literal.int base cs with
  | .ok i => .ok i
  | .error (.tooLong n) =>
      .error ⟨.numbers,
        "Exceeds the limit (4300 digits) for integer string conversion: value has " ++
          toString n ++
          " digits; use sys.set_int_max_str_digits() to increase the limit"⟩
  | .error .malformed =>
      .error ⟨.numbers,
        "invalid literal for int() with base " ++ toString base ++ ": " ++
          String.ofList ((Text.quoted (String.ofList cs)).toList.take 200)⟩

/-- The sum of sexagesimal digits, the first being the most significant. -/
def sexagesimal (digits : List Int) : Int :=
  digits.foldl (fun sum d => 60 * sum + d) 0

def withoutGaps (text : String) : List Char :=
  text.toList.filter (· != '_')

/-- The integer that a text without sign stands for. -/
def readMagnitude (cs : List Char) : Except Trouble Int :=
  match cs with
  | [] => .error noCharacters
  | ['0'] => .ok 0
  | '0' :: 'b' :: rest => readInBase 2 rest
  | '0' :: 'x' :: rest => readInBase 16 rest
  | '0' :: _ => readInBase 8 cs
  | _ =>
      if cs.contains ':' then sexagesimal <$> (parts cs).mapM (readInBase 10)
      else readInBase 10 cs

/-- The integer that a text stands for. -/
def readInt (text : String) : Except Trouble Int :=
  let cs := withoutGaps text
  if cs.isEmpty then .error noCharacters
  else do
    let i ← readMagnitude (unsigned cs)
    return if cs.head? = some '-' then -i else i

/-- A number with a fraction; what is not a number has the given origin. -/
def readFraction (origin : Nat) (cs : List Char) : Except Trouble Binary64 :=
  match Literal.float origin cs with
  | .ok x => .ok x
  | .error _ =>
      .error ⟨.numbers,
        "could not convert string to float: " ++ Text.quoted (String.ofList cs)⟩

/-- The sum of sexagesimal digits with fractions, the first being the least significant. -/
def sexagesimalSum (origin base : Nat) (sum : Binary64) :
    List Binary64 → Except Trouble Binary64
  | [] => .ok sum
  | d :: rest =>
      match Binary64.ofInt base with
      | .infinite _ => .error ⟨.ranges, "int too large to convert to float"⟩
      | factor => sexagesimalSum origin (60 * base) (sum.add origin (d.scale factor)) rest

/-- The number with a fraction that a text without sign stands for. -/
def readAmount (origin : Nat) (cs : List Char) : Except Trouble Binary64 :=
  if cs = ".inf".toList then .ok (.infinite false)
  else if cs = ".nan".toList then .ok (.nan 0)
  else if cs.contains ':' then do
    let digits ← (parts cs).mapM (readFraction origin)
    sexagesimalSum origin 1 (Binary64.zero false) digits.reverse
  else readFraction origin cs

/-- The number with a fraction that a text stands for. -/
def readFloat (origin : Nat) (text : String) : Except Trouble Binary64 :=
  let cs := Text.lowerChars (withoutGaps text)
  if cs.isEmpty then .error noCharacters
  else do
    let x ← readAmount origin (unsigned cs)
    return if cs.head? = some '-' then x.neg else x

/-- The truth value that a text stands for. -/
def readBool (text : String) : Except Trouble Bool :=
  let word := Text.lower text
  match truthWords.lookup word with
  | some b => .ok b
  | none => .error ⟨.words, Text.quoted word⟩

/-- The day or point in time that a text stands for. -/
def readTemporal (text : String) : Except Trouble Temporal :=
  match temporal? 1 (withoutBreak text.toList) with
  | none => .error ⟨.forms, "'NoneType' object has no attribute 'groupdict'"⟩
  | some t =>
      let flaw? :=
        match t with
        | .day d => d.flaw?
        | .moment m => m.flaw?
      match flaw? with
      | some flaw => .error ⟨.numbers, flaw⟩
      | none => .ok t

end Values

end Scalar
end Yaml
end AccessPolicy
