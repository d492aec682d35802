import AccessPolicy.Text.Quoted
import AccessPolicy.Yaml.Problem

/-!
# Reading positions in YAML texts

A cursor is the rest of a text with its place.  `Reading` is the monad of functions that
move a cursor or complain.  Past the end of the text stands the character zero, which
no YAML text contains.
-/

namespace AccessPolicy
namespace Yaml

/-- The rest of a text and where it begins. -/
structure Cursor where
  rest : List Char
  mark : Mark

namespace Cursor

/-- The place after a character, given the character that follows it. -/
def markAfter (m : Mark) (c : Char) (next : Option Char) : Mark :=
  if c == '\r' && next == some '\n' then ⟨m.index + 1, m.line, m.column + 1⟩
  else if isBreak c then ⟨m.index + 1, m.line + 1, 0⟩
  else if c == '\uFEFF' then ⟨m.index + 1, m.line, m.column⟩
  else ⟨m.index + 1, m.line, m.column + 1⟩

/-- The cursor after `n` more characters. -/
def advance : Nat → Cursor → Cursor
  | 0, c => c
  | n + 1, ⟨ch :: rest, m⟩ => advance n ⟨rest, markAfter m ch rest.head?⟩
  | _ + 1, ⟨[], m⟩ => ⟨[], m⟩

/-- The cursor at the beginning of a text. -/
def ofText (cs : List Char) : Cursor :=
  ⟨cs, ⟨0, 0, 0⟩⟩

end Cursor

/-- Functions that move a cursor or complain. -/
abbrev Reading := StateT Cursor (Except Complaint)

namespace Reading

/-- The character that stands for the end of the text. -/
def endChar : Char := '\x00'

def peek (k : Nat) : Reading Char := do
  return ((← get).rest[k]?).getD endChar

def mark : Reading Mark := do
  return (← get).mark

def column : Reading Nat := do
  return (← get).mark.column

def skip (n : Nat) : Reading Unit :=
  modify (Cursor.advance n)

/-- Moves over characters of a class and returns them. -/
def readWhile (p : Char → Bool) : Reading (List Char) := do
  let taken := (← get).rest.takeWhile p
  skip taken.length
  return taken

/-- Moves over characters of a class. -/
def skipWhile (p : Char → Bool) : Reading Unit := do
  let _ ← readWhile p

/-- A bound on the steps that the rest of the text allows. -/
def fuel : Reading Nat := do
  return (← get).rest.length + 2

/-- Complains about a character while a token is read. -/
def complain {α : Type} (context : String) (start : Mark) (problem : String) : Reading α := do
  throw ⟨.tokens, some (context, some start), problem, ← mark⟩

def shown (c : Char) : String :=
  Text.quoted (String.singleton c)

/-- Whether a character ends a line or the text. -/
def isBreakOrEnd (c : Char) : Bool :=
  isBreak c || c == endChar

/-- Whether a character is a space, ends a line or ends the text. -/
def isSpaceOrEnd (c : Char) : Bool :=
  c == ' ' || isBreakOrEnd c

/-- Whether a character is a space or tab, ends a line or ends the text. -/
def isBlankOrEnd (c : Char) : Bool :=
  c == '\t' || isSpaceOrEnd c

/-- Whether a character may stand in the name of an anchor, directive or tag. -/
def isWord (c : Char) : Bool :=
  c.isAlphanum || c == '-' || c == '_'

/-- Reads a line break, which counts as one line feed unless it is a separator. -/
def readBreak : Reading (List Char) := do
  let c ← peek 0
  if c == '\r' && (← peek 1) == '\n' then
    skip 2
    return ['\n']
  else if c == '\r' || c == '\n' || c == '\u0085' then
    skip 1
    return ['\n']
  else if isBreak c then
    skip 1
    return [c]
  else return []

/-- Moves over blanks and a comment to the end of the line, where nothing else may stand. -/
def finishLine (context : String) (start : Mark) : Reading Unit := do
  skipWhile (· == ' ')
  if (← peek 0) == '#' then skipWhile (fun c => !isBreakOrEnd c)
  let c ← peek 0
  if !isBreakOrEnd c then
    complain context start ("expected a comment or a line break, but found " ++ shown c)
  let _ ← readBreak

/-- Whether a line that separates documents begins here. -/
def atSeparator : Reading Bool := do
  let a ← peek 0
  let b ← peek 1
  let c ← peek 2
  return (a == '-' || a == '.') && a == b && b == c && isBlankOrEnd (← peek 3)

end Reading
end Yaml
end AccessPolicy
