import AccessPolicy.Yaml.Token.Names

/-!
# Scalars

A scalar is plain, quoted, or a block of lines.  Line breaks inside plain and quoted
scalars are folded: one break becomes a space, and of several the first is dropped.
A block is literal, or folded where lines begin with a character other than a blank.
-/

namespace AccessPolicy
namespace Yaml
namespace Reading

/-- What a line break and the breaks after it stand for when lines are folded. -/
def folded (first : List Char) (more : List Char) : List Char :=
  if first != ['\n'] then first ++ more
  else if more.isEmpty then [' ']
  else more

section Quoted

/-- Characters that stand for another one after a backslash. -/
def escapes : List (Char × Char) :=
  [('0', '\x00'), ('a', '\x07'), ('b', '\x08'), ('t', '\t'), ('\t', '\t'), ('n', '\n'),
    ('v', '\x0b'), ('f', '\x0c'), ('r', '\r'), ('e', '\x1b'), (' ', ' '), ('"', '"'),
    ('\\', '\\'), ('/', '/'), ('N', '\u0085'), ('_', '\u00a0'), ('L', '\u2028'),
    ('P', '\u2029')]

/-- The number of digits after the letter of a numeric escape. -/
def escapeLength? (c : Char) : Option Nat :=
  if c == 'x' then some 2
  else if c == 'u' then some 4
  else if c == 'U' then some 8
  else none

/-- Whether a character is a blank inside a line. -/
def isInlineBlank (c : Char) : Bool :=
  c == ' ' || c == '\t'

/-- Reads the empty lines after a line break inside quotes. -/
def readQuotedBreaks (start : Mark) : Nat → Reading (List Char)
  | 0 => return []
  | n + 1 => do
      if ← atSeparator then
        complain "while scanning a quoted scalar" start "found unexpected document separator"
      skipWhile isInlineBlank
      if isBreak (← peek 0) then
        let b ← readBreak
        return b ++ (← readQuotedBreaks start n)
      else return []

/-- Reads what follows a backslash between double quotes. -/
def readEscape (start : Mark) : Reading (List Char) := do
  let context := "while scanning a double-quoted scalar"
  let c ← peek 0
  match escapes.lookup c, escapeLength? c with
  | some d, _ =>
      skip 1
      return [d]
  | none, some length =>
      skip 1
      let expected :=
        "expected escape sequence of " ++ toString length ++ " hexadecimal numbers"
      let code ← readHex context start expected length 0 0
      if 0x7FFFFFFF < code then
        throw ⟨.ranges, none, "Python int too large to convert to C int", ← mark⟩
      if 0x10FFFF < code then
        throw ⟨.numbers, none, "chr() arg not in range(0x110000)", ← mark⟩
      skip length
      return [Text.ofCode code]
  | none, none =>
      if isBreak c then
        let _ ← readBreak
        readQuotedBreaks start (← fuel)
      else complain context start ("found unknown escape character " ++ shown c)

/-- Reads the parts of a quoted scalar that are not blank. -/
def readQuotedWords (double : Bool) (start : Mark) : Nat → Reading (List Char)
  | 0 => return []
  | n + 1 => do
      let word ← readWhile fun c => !(c == '\'' || c == '"' || c == '\\' || isBlankOrEnd c)
      let c ← peek 0
      if !double && c == '\'' && (← peek 1) == '\'' then
        skip 2
        return word ++ '\'' :: (← readQuotedWords double start n)
      else if (double && c == '\'') || (!double && (c == '"' || c == '\\')) then
        skip 1
        return word ++ c :: (← readQuotedWords double start n)
      else if double && c == '\\' then
        skip 1
        let e ← readEscape start
        return word ++ e ++ (← readQuotedWords double start n)
      else return word

/-- Reads blanks and line breaks between the parts of a quoted scalar. -/
def readQuotedBlanks (start : Mark) : Reading (List Char) := do
  let blanks ← readWhile isInlineBlank
  let c ← peek 0
  if c == endChar then
    complain "while scanning a quoted scalar" start "found unexpected end of stream"
  else if isBreak c then
    let first ← readBreak
    let more ← readQuotedBreaks start (← fuel)
    return folded first more
  else return blanks

/-- Reads a quoted scalar up to its closing quote. -/
def readQuotedRest (quote : Char) (start : Mark) : Nat → Reading (List Char)
  | 0 => return []
  | n + 1 => do
      let words ← readQuotedWords (quote == '"') start (← fuel)
      if (← peek 0) == quote then
        skip 1
        return words
      else
        let blanks ← readQuotedBlanks start
        return words ++ blanks ++ (← readQuotedRest quote start n)

def readQuoted : Reading String := do
  let start ← mark
  let quote ← peek 0
  skip 1
  return String.ofList (← readQuotedRest quote start (← fuel))

end Quoted

section Plain

/-- The length of the part of a plain scalar that begins here. -/
def plainLength (inFlow : Bool) : List Char → Nat
  | [] => 0
  | c :: rest =>
      let next := rest.head?.getD endChar
      let endsValue := isBlankOrEnd next || (inFlow && ",[]\x7b\x7d".toList.contains next)
      if isBlankOrEnd c || (c == ':' && endsValue) ||
          (inFlow && ",?[]\x7b\x7d".toList.contains c) then 0
      else plainLength inFlow rest + 1

/-- Reads empty lines between the lines of a plain scalar, unless the document ends. -/
def readPlainBreaks : Nat → Reading (Option (List Char))
  | 0 => return some []
  | n + 1 => do
      let c ← peek 0
      if c == ' ' then
        skip 1
        readPlainBreaks n
      else if isBreak c then
        let b ← readBreak
        if ← atSeparator then return none
        else return (← readPlainBreaks n).map (b ++ ·)
      else return some []

/-- Blanks and breaks after a part of a plain scalar, and whether a line ended. -/
def readPlainBlanks : Reading (List Char × Bool) := do
  let blanks ← readWhile (· == ' ')
  if isBreak (← peek 0) then
    let first ← readBreak
    if ← atSeparator then return ([], true)
    else
      match ← readPlainBreaks (← fuel) with
      | none => return ([], true)
      | some more => return (folded first more, true)
  else return (blanks, false)

/-- What is read of a plain scalar: its text, its end, and whether a line ended after it. -/
structure PlainPart where
  text : List Char
  stop : Mark
  lineEnded : Bool

/-- Reads the parts of a plain scalar whose further lines are indented. -/
def readPlainParts (inFlow : Bool) (indent : Int) (blanks : List Char) (sofar : PlainPart) :
    Nat → Reading PlainPart
  | 0 => return sofar
  | n + 1 => do
      let length := plainLength inFlow (← get).rest
      if (← peek 0) == '#' || length == 0 then return sofar
      else
        let part := (← get).rest.take length
        skip length
        let stop ← mark
        let (more, ended) ← readPlainBlanks
        let sofar := ⟨sofar.text ++ blanks ++ part, stop, ended⟩
        if more.isEmpty || (← peek 0) == '#' || (!inFlow && (← column) < indent) then
          return sofar
        else readPlainParts inFlow indent more sofar n

def readPlain (inFlow : Bool) (indent : Int) : Reading PlainPart := do
  readPlainParts inFlow indent [] ⟨[], ← mark, false⟩ (← fuel)

end Plain

section Blocks

/-- What is done with the line breaks at the end of a block. -/
inductive Chomping where
  | clip
  | strip
  | keep
deriving DecidableEq

def readChomping? : Reading (Option Chomping) := do
  let c ← peek 0
  if c == '+' then
    skip 1
    return some .keep
  else if c == '-' then
    skip 1
    return some .strip
  else return none

def readIncrement? (start : Mark) : Reading (Option Nat) := do
  let c ← peek 0
  if c == '0' then
    complain "while scanning a block scalar" start
      "expected indentation indicator in the range 1-9, but found 0"
  else if c.isDigit then
    skip 1
    return some (c.toNat - '0'.toNat)
  else return none

/-- Reads the indicators of a block in either order. -/
def readBlockIndicators (start : Mark) : Reading (Chomping × Option Nat) := do
  let first ← readChomping?
  let increment ← readIncrement? start
  let chomping ←
    match first, increment with
    | some c, _ => pure c
    | none, none => pure .clip
    | none, some _ => return ((← readChomping?).getD .clip, increment)
  return (chomping, increment)

/-- Reads the empty lines at the beginning of a block and finds its indentation. -/
def readBlockIndentation (breaks : List Char) (deepest : Nat) :
    Nat → Reading (List Char × Nat)
  | 0 => return (breaks, deepest)
  | n + 1 => do
      let c ← peek 0
      if c == ' ' then
        skip 1
        readBlockIndentation breaks (max deepest (← column)) n
      else if isBreak c then
        let b ← readBreak
        readBlockIndentation (breaks ++ b) deepest n
      else return (breaks, deepest)

/-- Moves over the indentation of a line. -/
def skipIndentation (indent : Nat) : Reading Unit := do
  let c ← get
  let blanks := (c.rest.take (indent - c.mark.column)).takeWhile (· == ' ')
  skip blanks.length

/-- Reads the empty lines of a block. -/
def readBlockBreaks (indent : Nat) : Nat → Reading (List Char)
  | 0 => return []
  | n + 1 => do
      skipIndentation indent
      if isBreak (← peek 0) then
        let b ← readBreak
        return b ++ (← readBlockBreaks indent n)
      else return []

/-- Whether a line of a block begins here. -/
def atBlockLine (indent : Nat) : Reading Bool := do
  return (← column) == indent && (← peek 0) != endChar

/-- Reads the lines of a block; returns them with the last break and the breaks after it. -/
def readBlockLines (fold : Bool) (indent : Nat) (breaks : List Char) :
    Nat → Reading (List Char × List Char × List Char)
  | 0 => return ([], [], breaks)
  | n + 1 => do
      if ← atBlockLine indent then
        let leading := !isInlineBlank (← peek 0)
        let line ← readWhile fun c => !isBreakOrEnd c
        let last ← readBreak
        let more ← readBlockBreaks indent (← fuel)
        if ← atBlockLine indent then
          let next := !isInlineBlank (← peek 0)
          let joint :=
            if fold && last == ['\n'] && leading && next then
              if more.isEmpty then [' '] else []
            else last
          let (text, final, after) ← readBlockLines fold indent more n
          return (breaks ++ line ++ joint ++ text, final, after)
        else return (breaks ++ line, last, more)
      else return ([], [], breaks)

/-- Reads a block scalar in a collection of the given indentation. -/
def readBlock (fold : Bool) (parent : Int) : Reading String := do
  let start ← mark
  skip 1
  let (chomping, increment) ← readBlockIndicators start
  let c ← peek 0
  if !isSpaceOrEnd c then
    complain "while scanning a block scalar" start
      ("expected chomping or indentation indicators, but found " ++ shown c)
  finishLine "while scanning a block scalar" start
  let least := max 1 (parent + 1).toNat
  let (indent, breaks) ←
    match increment with
    | none => do
        let (breaks, deepest) ← readBlockIndentation [] 0 (← fuel)
        pure (max least deepest, breaks)
    | some i => do
        let indent := least + i - 1
        pure (indent, ← readBlockBreaks indent (← fuel))
  let (text, last, after) ← readBlockLines fold indent breaks (← fuel)
  let ending :=
    match chomping with
    | .clip => last
    | .strip => []
    | .keep => last ++ after
  return String.ofList (text ++ ending)

end Blocks

end Reading
end Yaml
end AccessPolicy
