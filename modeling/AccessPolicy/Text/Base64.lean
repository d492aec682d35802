import AccessPolicy.Text.Quoted

/-!
# Bytes in base 64

Three bytes are written as four characters, and equals signs fill up the last four.  Other
characters do not count, and nothing after the filling does.
-/

namespace AccessPolicy
namespace Text
namespace Base64

/-- The value of a character, if it has one. -/
def value? (c : Char) : Option Nat :=
  if 'A' ≤ c ∧ c ≤ 'Z' then some (c.toNat - 'A'.toNat)
  else if 'a' ≤ c ∧ c ≤ 'z' then some (c.toNat - 'a'.toNat + 26)
  else if '0' ≤ c ∧ c ≤ '9' then some (c.toNat - '0'.toNat + 52)
  else if c = '+' then some 62
  else if c = '/' then some 63
  else none

/-- The bytes of a group of values, of which there are at most four. -/
def groupBytes (group : List Nat) : List UInt8 :=
  match group with
  | [a, b] => [UInt8.ofNat (a * 4 + b / 16)]
  | [a, b, c] => [UInt8.ofNat (a * 4 + b / 16), UInt8.ofNat (b * 16 + c / 4)]
  | [a, b, c, d] =>
      [UInt8.ofNat (a * 4 + b / 16), UInt8.ofNat (b * 16 + c / 4), UInt8.ofNat (c * 64 + d)]
  | _ => []

/-- The bytes that characters stand for, after some values of a group and some signs that
fill it up. -/
def decodeFrom (count pads : Nat) (group : List Nat) : List Char → Except String (List UInt8)
  | [] =>
      match group with
      | [] => .ok []
      | [_] =>
          .error ("Invalid base64-encoded string: number of data characters (" ++
            toString (4 * count + 1) ++ ") cannot be 1 more than a multiple of 4")
      | _ => .error "Incorrect padding"
  | c :: rest =>
      if c = '=' then
        if 2 ≤ group.length then
          if 4 ≤ group.length + pads + 1 then .ok (groupBytes group)
          else decodeFrom count (pads + 1) group rest
        else decodeFrom count pads group rest
      else
        match value? c with
        | none => decodeFrom count pads group rest
        | some n =>
            if group.length = 3 then
              (decodeFrom (count + 1) 0 [] rest).map (groupBytes (group ++ [n]) ++ ·)
            else decodeFrom count 0 (group ++ [n]) rest

/-- The bytes that a text stands for, or why it stands for none. -/
def decode (cs : List Char) : Except String (List UInt8) :=
  decodeFrom 0 0 [] cs

end Base64
end Text
end AccessPolicy
