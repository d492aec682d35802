import AccessPolicy.Text.Utf8
import AccessPolicy.Yaml.Token.Basic

/-!
# Directives, anchors and tags

Tokens that consist of an indicator and a name.
-/

namespace AccessPolicy
namespace Yaml
namespace Reading

/-- Reads a number of hexadecimal digits; another character is named in the complaint. -/
def readHex (context : String) (start : Mark) (expected : String) :
    Nat → Nat → Nat → Reading Nat
  | 0, _, n => return n
  | count + 1, ahead, n => do
      let c ← peek ahead
      match Text.hexValue? c with
      | some d => readHex context start expected count (ahead + 1) (16 * n + d)
      | none => complain context start (expected ++ ", but found " ++ shown c)

/-- Reads a name that an indicator must be followed by. -/
def readName (context : String) (start : Mark) : Reading String := do
  let name ← readWhile isWord
  if name.isEmpty then
    complain context start
      ("expected alphabetic or numeric character, but found " ++ shown (← peek 0))
  return String.ofList name

section Anchors

/-- Whether a character may follow the name of an anchor. -/
def endsAnchor (c : Char) : Bool :=
  isBlankOrEnd c || "?:,]\x7d%@\x60".toList.contains c

/-- Reads an anchor or an alias: the name after the indicator. -/
def readAnchor (context : String) : Reading String := do
  let start ← mark
  skip 1
  let name ← readName context start
  let c ← peek 0
  if !endsAnchor c then
    complain context start
      ("expected alphabetic or numeric character, but found " ++ shown c)
  return name

end Anchors

section Tags

/-- Whether a character may stand in a tag. -/
def isTagChar (c : Char) : Bool :=
  isWord c || ";/?:@&=+$,.!~*'()[]".toList.contains c

/-- Reads the bytes of consecutive escapes. -/
def readEscapes (context : String) (start : Mark) : Nat → Reading (List UInt8)
  | 0 => return []
  | n + 1 => do
      if (← peek 0) == '%' then
        skip 1
        let b ← readHex context start
          "expected URI escape sequence of 2 hexadecimal numbers" 2 0 0
        skip 2
        return UInt8.ofNat b :: (← readEscapes context start n)
      else return []

/-- Reads the characters of a tag with escapes resolved. -/
def readTagChars (context : String) (start : Mark) : Nat → Reading (List Char)
  | 0 => return []
  | n + 1 => do
      let c ← peek 0
      if c == '%' then
        let place ← mark
        let bytes ← readEscapes context start (← fuel)
        match Text.Utf8.decode bytes with
        | .ok s => return s.toList ++ (← readTagChars context start n)
        | .error flaw => throw ⟨.tokens, some (context, some start), flaw.message, place⟩
      else if isTagChar c then
        skip 1
        return c :: (← readTagChars context start n)
      else return []

/-- Reads the part of a tag after its handle, which must not be empty. -/
def readTagSuffix (what : String) (start : Mark) : Reading String := do
  let cs ← readTagChars ("while scanning a " ++ what) start (← fuel)
  if cs.isEmpty then
    complain ("while parsing a " ++ what) start
      ("expected URI, but found " ++ shown (← peek 0))
  return String.ofList cs

/-- Reads a tag handle: an exclamation mark, or a word between two of them. -/
def readTagHandle (what : String) (start : Mark) : Reading String := do
  let context := "while scanning a " ++ what
  let c ← peek 0
  if c != '!' then complain context start ("expected '!', but found " ++ shown c)
  if (← peek 1) == ' ' then
    skip 1
    return "!"
  else
    skip 1
    let word ← readWhile isWord
    let c ← peek 0
    if c != '!' then complain context start ("expected '!', but found " ++ shown c)
    skip 1
    return String.ofList ('!' :: word ++ ['!'])

/-- Whether an exclamation mark follows before the next space. -/
def hasSecondMark : Reading Bool := do
  let ahead := ((← get).rest.drop 1).takeWhile fun c => !isSpaceOrEnd c
  return ahead.contains '!'

/-- Reads a tag: its handle, if it has one, and the rest. -/
def readTag : Reading (Option String × String) := do
  let start ← mark
  let c ← peek 1
  let tag ←
    if c == '<' then do
      skip 2
      let suffix ← readTagSuffix "tag" start
      let c ← peek 0
      if c != '>' then
        complain "while parsing a tag" start ("expected '>', but found " ++ shown c)
      skip 1
      pure (none, suffix)
    else if isBlankOrEnd c then do
      skip 1
      pure (none, "!")
    else if ← hasSecondMark then do
      let handle ← readTagHandle "tag" start
      pure (some handle, ← readTagSuffix "tag" start)
    else do
      skip 1
      pure (some "!", ← readTagSuffix "tag" start)
  let c ← peek 0
  if !isSpaceOrEnd c then
    complain "while scanning a tag" start ("expected ' ', but found " ++ shown c)
  return tag

end Tags

section Directives

/-- Reads a number of a version. -/
def readVersionNumber (start : Mark) : Reading Nat := do
  let digits ← readWhile Char.isDigit
  if digits.isEmpty then
    complain "while scanning a directive" start
      ("expected a digit, but found " ++ shown (← peek 0))
  return digits.foldl (fun n c => 10 * n + (c.toNat - '0'.toNat)) 0

/-- Reads a version and returns its first number. -/
def readVersion (start : Mark) : Reading Directive := do
  skipWhile (· == ' ')
  let major ← readVersionNumber start
  let c ← peek 0
  if c != '.' then
    complain "while scanning a directive" start
      ("expected a digit or '.', but found " ++ shown c)
  skip 1
  let _ ← readVersionNumber start
  let c ← peek 0
  if !isSpaceOrEnd c then
    complain "while scanning a directive" start
      ("expected a digit or ' ', but found " ++ shown c)
  return .version major

/-- Reads what a tag handle stands for. -/
def readTagDirective (start : Mark) : Reading Directive := do
  skipWhile (· == ' ')
  let handle ← readTagHandle "directive" start
  let c ← peek 0
  if c != ' ' then
    complain "while scanning a directive" start ("expected ' ', but found " ++ shown c)
  skipWhile (· == ' ')
  let replacement ← readTagSuffix "directive" start
  let c ← peek 0
  if !isSpaceOrEnd c then
    complain "while scanning a directive" start ("expected ' ', but found " ++ shown c)
  return .tagHandle handle replacement

/-- Reads a directive and the end of its line. -/
def readDirective : Reading (Directive × Mark) := do
  let start ← mark
  skip 1
  let name ← readName "while scanning a directive" start
  let c ← peek 0
  if !isSpaceOrEnd c then
    complain "while scanning a directive" start
      ("expected alphabetic or numeric character, but found " ++ shown c)
  let d ←
    match name with
    | "YAML" => readVersion start
    | "TAG" => readTagDirective start
    | _ => pure .other
  let stop ← mark
  if d == .other then skipWhile (fun c => !isBreakOrEnd c)
  finishLine "while scanning a directive" start
  return (d, stop)

end Directives

end Reading
end Yaml
end AccessPolicy
