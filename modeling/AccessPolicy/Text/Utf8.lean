import AccessPolicy.Text.Quoted

/-!
# Characters as bytes

A character is encoded in one to four bytes.  `Utf8.decode` reads a row of bytes as
characters; `Utf8.Flaw` says where a row encodes none and why.
-/

namespace AccessPolicy
namespace Text
namespace Utf8

/-- Why some bytes, from a position on, encode no character. -/
structure Flaw where
  start : Nat
  length : Nat
  first : UInt8
  reason : String
deriving DecidableEq, Repr

/-- Whether a byte goes on with a character. -/
def goesOn (b : UInt8) : Bool :=
  0x80 ≤ b && b < 0xC0

/-- Whether a byte may be the second one of a character. -/
def isSecond (first b : UInt8) : Bool :=
  goesOn b &&
    (first != 0xE0 || 0xA0 ≤ b) && (first != 0xED || b < 0xA0) &&
    (first != 0xF0 || 0x90 ≤ b) && (first != 0xF4 || b < 0x90)

/-- The number of bytes of a character by its first one. -/
def length? (first : UInt8) : Option Nat :=
  if first < 0x80 then some 1
  else if 0xC2 ≤ first && first < 0xE0 then some 2
  else if 0xE0 ≤ first && first < 0xF0 then some 3
  else if 0xF0 ≤ first && first < 0xF5 then some 4
  else none

/-- The number of bytes at the beginning of a row that go on with a character. -/
def following (first : UInt8) : List UInt8 → Nat
  | [] => 0
  | b :: rest => if isSecond first b then 1 + (rest.takeWhile goesOn).length else 0

/-- The first flaw of a row of bytes, if there is one. -/
def flawFrom? (position : Nat) : List UInt8 → Nat → Option Flaw
  | _, 0 => none
  | [], _ => none
  | b :: rest, fuel + 1 =>
      match length? b with
      | none => some ⟨position, 1, b, "invalid start byte"⟩
      | some n =>
          let found := min (following b rest) (n - 1)
          if found = n - 1 then flawFrom? (position + n) (rest.drop (n - 1)) fuel
          else if found = rest.length then
            some ⟨position, found + 1, b, "unexpected end of data"⟩
          else some ⟨position, found + 1, b, "invalid continuation byte"⟩

/-- The first flaw of a row of bytes, if there is one. -/
def flaw? (bs : List UInt8) : Option Flaw :=
  flawFrom? 0 bs bs.length

namespace Flaw

def message (f : Flaw) : String :=
  let what :=
    if f.length = 1 then
      "byte 0x" ++ String.ofList (hex 2 f.first.toNat) ++ " in position " ++ toString f.start
    else
      "bytes in position " ++ toString f.start ++ "-" ++ toString (f.start + f.length - 1)
  "'utf-8' codec can't decode " ++ what ++ ": " ++ f.reason

end Flaw

/-- The text that a row of bytes encodes. -/
def decode (bs : List UInt8) : Except Flaw String :=
  match String.fromUTF8? ⟨bs.toArray⟩, flaw? bs with
  | some s, _ => .ok s
  | none, some flaw => .error flaw
  | none, none => .error ⟨0, bs.length, bs.headD 0, "unexpected end of data"⟩

/-- The run of characters that are not plain, from the first one on, and its position. -/
def firstForeign (position : Nat) : List Char → Option (Nat × List Char)
  | [] => none
  | c :: rest =>
      if c.toNat < 0x80 then firstForeign (position + 1) rest
      else some (position, c :: rest.takeWhile fun d => 0x80 ≤ d.toNat)

/-- Why a text is not made of plain characters alone, if it is not. -/
def foreignMessage? (cs : List Char) : Option String :=
  (firstForeign 0 cs).map fun found =>
    let what :=
      match found with
      | (i, [c]) =>
          "character '" ++ String.ofList (escapeCode c) ++ "' in position " ++ toString i
      | (i, run) =>
          "characters in position " ++ toString i ++ "-" ++ toString (i + run.length - 1)
    "'ascii' codec can't encode " ++ what ++ ": ordinal not in range(128)"

end Utf8
end Text
end AccessPolicy
