import AccessPolicy.Number.Literal
import AccessPolicy.Number.Shortest
import AccessPolicy.Text.Split
import AccessPolicy.Value.Equality

/-!
# Reading JSON

`Json.read` reads one JSON text as a value.  Objects become maps, arrays lists, and
numbers integers if they have neither a fraction nor an exponent.

**Extensions.**  `NaN`, `Infinity` and `-Infinity` are numbers.

**Limits.**  An integer of too many digits and an array or object at too great a depth are
refused where they stand, before anything wrong behind them is seen.

**Repeated names.**  Of several members with one name the last value counts, at the
position of the first.
-/

namespace AccessPolicy
namespace Json

/-- Why a text cannot be read: it is no JSON text, an integer in it is too long, or arrays and
objects are nested too deeply. -/
inductive Refusal where
  | malformed
  | tooLong
  | tooDeep
deriving DecidableEq, Repr

/-- What is read, if there is something. -/
def orMalformed {α : Type} (x : Option α) : Except Refusal α :=
  match x with
  | some a => .ok a
  | none => .error .malformed

section Texts

/-- Whether a character may stand between tokens. -/
def isBlank (c : Char) : Bool :=
  c == ' ' || c == '\t' || c == '\n' || c == '\r'

/-- A text without the blanks at its beginning. -/
def skipBlanks (cs : List Char) : List Char :=
  cs.dropWhile isBlank

/-- The number that four hexadecimal digits stand for. -/
def codeUnit? (a b c d : Char) : Option Nat :=
  [a, b, c, d].foldl
    (fun sum x => do
      let n ← sum
      let digit ← Text.hexValue? x
      return 16 * n + digit)
    (some 0)

/-- The character that a letter after a backslash stands for. -/
def escaped? : Char → Option Char
  | '"' => some '"'
  | '\\' => some '\\'
  | '/' => some '/'
  | 'b' => some '\x08'
  | 'f' => some '\x0c'
  | 'n' => some '\n'
  | 'r' => some '\r'
  | 't' => some '\t'
  | _ => none

/-- The code units of a text up to its closing quote, and what follows the quote. -/
def readUnits? : List Char → Option (List Nat × List Char)
  | '"' :: rest => some ([], rest)
  | '\\' :: 'u' :: a :: b :: c :: d :: rest => do
      let unit ← codeUnit? a b c d
      let (units, after) ← readUnits? rest
      return (unit :: units, after)
  | '\\' :: e :: rest => do
      let c ← escaped? e
      let (units, after) ← readUnits? rest
      return (c.toNat :: units, after)
  | c :: rest =>
      if c.toNat < 0x20 || c == '\\' then none
      else do
        let (units, after) ← readUnits? rest
        return (c.toNat :: units, after)
  | [] => none

/-- Whether a code unit is the first of two that stand for one character. -/
def isLeading (n : Nat) : Bool :=
  0xD800 ≤ n && n ≤ 0xDBFF

/-- Whether a code unit is the second of two that stand for one character. -/
def isTrailing (n : Nat) : Bool :=
  0xDC00 ≤ n && n ≤ 0xDFFF

/-- The characters of some code units; half of a pair stands for no character of its own. -/
def charsOfUnits : List Nat → List Char
  | a :: b :: rest =>
      if isLeading a && isTrailing b then
        Char.ofNat (0x10000 + 0x400 * (a - 0xD800) + (b - 0xDC00)) :: charsOfUnits rest
      else Text.ofCode a :: charsOfUnits (b :: rest)
  | [a] => [Text.ofCode a]
  | [] => []

/-- A text after its opening quote. -/
def readText? (cs : List Char) : Option (String × List Char) := do
  let (units, rest) ← readUnits? cs
  return (String.ofList (charsOfUnits units), rest)

end Texts

section Numbers

/-- Digits after a point or an exponent mark; nothing if there are none. -/
def digitsAfter (mark rest : List Char) : List Char × List Char :=
  let digits := rest.takeWhile Char.isDigit
  if digits.isEmpty then ([], mark ++ rest)
  else (mark ++ digits, rest.dropWhile Char.isDigit)

/-- The fraction at the beginning of a text. -/
def takeFraction : List Char → List Char × List Char
  | '.' :: rest => digitsAfter ['.'] rest
  | cs => ([], cs)

/-- The exponent at the beginning of a text. -/
def takeExponent : List Char → List Char × List Char
  | e :: sign :: rest =>
      if e == 'e' || e == 'E' then
        if sign == '-' || sign == '+' then digitsAfter [e, sign] rest
        else digitsAfter [e] (sign :: rest)
      else ([], e :: sign :: rest)
  | cs => ([], cs)

/-- The digits before the point: a zero alone, or digits that do not begin with one. -/
def takeWhole : List Char → List Char × List Char
  | '0' :: rest => (['0'], rest)
  | cs => (cs.takeWhile Char.isDigit, cs.dropWhile Char.isDigit)

def readMagnitude (negative : Bool) (cs : List Char) : Except Refusal (Value × List Char) :=
  let (whole, rest) := takeWhole cs
  if whole.isEmpty then .error .malformed
  else
    let (fraction, rest) := takeFraction rest
    let (exponent, rest) := takeExponent rest
    if fraction.isEmpty && exponent.isEmpty then
      if Literal.maxDigits < whole.length then .error .tooLong
      else
        let n := Binary64.digitsValue whole
        .ok (.int (if negative then -(n : Int) else (n : Int)), rest)
    else
      orMalformed
        ((Binary64.readMagnitude? negative (whole ++ fraction ++ exponent)).map fun x =>
          (.float x, rest))

/-- A text after a word that it must begin with. -/
def after? (word : String) (cs : List Char) : Option (List Char) :=
  if cs.take word.length = word.toList then some (cs.drop word.length) else none

def readNumber (cs : List Char) : Except Refusal (Value × List Char) :=
  match cs with
  | '-' :: rest =>
      match after? "Infinity" rest with
      | some rest => .ok (.float (.infinite true), rest)
      | none => readMagnitude true rest
  | _ => readMagnitude false cs

/-- The words that stand for values. -/
def words : List (String × Value) :=
  [("null", .null), ("true", .bool true), ("false", .bool false), ("NaN", .float (.nan 1)),
    ("Infinity", .float (.infinite false))]

def readPlain (cs : List Char) : Except Refusal (Value × List Char) :=
  match words.findSome? (fun w => (after? w.1 cs).map fun rest => (w.2, rest)) with
  | some found => .ok found
  | none => readNumber cs

end Numbers

section Values

/-- How deeply arrays and objects may be nested.  The number belongs to one interpreter, which
allows a thousand calls within one another, and to the calls that are under way where a command
reads its arguments.  Nothing that is proved of texts depends on it. -/
def levelLimit : Nat := 960

mutual

/-- A value at the beginning of a text, which may hold others on the given number of levels;
the items of all levels are limited by the fuel. -/
def readValue (levels : Nat) : Nat → List Char → Except Refusal (Value × List Char)
  | 0, _ => .error .malformed
  | fuel + 1, cs =>
      match cs with
      | '"' :: rest => do
          let (text, after) ← orMalformed (readText? rest)
          return (.text text, after)
      | '[' :: rest =>
          match levels, skipBlanks rest with
          | 0, _ => .error .tooDeep
          | _, ']' :: after => .ok (.list [], after)
          | inner + 1, items => do
              let (vs, after) ← readItems inner fuel items
              return (.list vs, after)
      | '{' :: rest =>
          match levels, skipBlanks rest with
          | 0, _ => .error .tooDeep
          | _, '}' :: after => .ok (Value.record [], after)
          | inner + 1, members => do
              let (entries, after) ← readMembers inner fuel [] members
              return (Value.record entries, after)
      | _ => readPlain cs

/-- The items of an array up to its closing bracket. -/
def readItems (levels : Nat) : Nat → List Char → Except Refusal (List Value × List Char)
  | 0, _ => .error .malformed
  | fuel + 1, cs => do
      let (v, rest) ← readValue levels fuel cs
      match skipBlanks rest with
      | ']' :: after => return ([v], after)
      | ',' :: more =>
          let (vs, after) ← readItems levels fuel (skipBlanks more)
          return (v :: vs, after)
      | _ => .error .malformed

/-- The members of an object up to its closing brace, after some that are read. -/
def readMembers (levels : Nat) : Nat → Entries → List Char → Except Refusal (Entries × List Char)
  | 0, _, _ => .error .malformed
  | fuel + 1, sofar, cs =>
      match cs with
      | '"' :: rest => do
          let (name, rest) ← orMalformed (readText? rest)
          let rest ← orMalformed (after? ":" (skipBlanks rest))
          let (v, rest) ← readValue levels fuel (skipBlanks rest)
          let entries := Entries.set sofar (.text name) v
          match skipBlanks rest with
          | '}' :: after => return (entries, after)
          | ',' :: more => readMembers levels fuel entries (skipBlanks more)
          | _ => .error .malformed
      | _ => .error .malformed

end

/-- The value of a JSON text, which must hold nothing else. -/
def read (text : String) : Except Refusal Value := do
  let cs := text.toList
  let (v, rest) ← readValue levelLimit (cs.length + 1) (skipBlanks cs)
  if (skipBlanks rest).isEmpty then return v else .error .malformed

end Values

end Json
end AccessPolicy
