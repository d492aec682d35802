import AccessPolicy.Yaml.Token.Scalars

/-!
# The tokens of a text

Tokens are read one after the other.  Indentation opens and closes blocks, and a colon
makes a key of the token before it, which is known only then: so positions where a key
may have begun are kept until the line ends.

**Keys.**  In a block, a line that begins at the indentation of its mapping must hold a
key.  A key does not extend over several lines nor over more than 1024 characters.

**Release.**  A token that may be a key can be used only after it is known whether it is one.
`TokenState.release` parts with the tokens before it; the text is read no further than that
takes.
-/

namespace AccessPolicy
namespace Yaml

/-- A place where a key may have begun. -/
structure PossibleKey where
  number : Nat
  required : Bool
  start : Mark
deriving Repr

/-- The state between two tokens; the tokens that are not released yet are kept newest
first, and counted with those that are. -/
structure TokenState where
  tokens : List Token := []
  count : Nat := 0
  flowLevel : Int := 0
  indent : Int := -1
  indents : List Int := []
  keyAllowed : Bool := true
  keys : List (Int × PossibleKey) := []
  finished : Bool := false
deriving Repr

namespace TokenState

/-- Adds a token at the end. -/
def push (s : TokenState) (t : Token) : TokenState :=
  { s with tokens := t :: s.tokens, count := s.count + 1 }

/-- Puts a token before the one of the given number. -/
def insertAt (s : TokenState) (number : Nat) (t : Token) : TokenState :=
  { s with
    tokens := s.tokens.take (s.count - number) ++ t :: s.tokens.drop (s.count - number)
    count := s.count + 1 }

/-- Whether the reader is inside brackets. -/
def inFlow (s : TokenState) : Bool :=
  s.flowLevel != 0

/-- The place where a key may have begun at the present level. -/
def key? (s : TokenState) : Option PossibleKey :=
  s.keys.lookup s.flowLevel

/-- Forgets the place where a key may have begun at the present level. -/
def dropKey (s : TokenState) : TokenState :=
  { s with keys := s.keys.filter fun k => k.1 != s.flowLevel }

/-- The number of the first token that may be a key. -/
def firstKey? (s : TokenState) : Option Nat :=
  s.keys.foldl
    (fun least k =>
      match least with
      | none => some k.2.number
      | some n => some (min n k.2.number)) none

end TokenState

namespace Reading

section Keys

/-- Complains about a key that must be there and is not. -/
def missingKey {α : Type} (k : PossibleKey) : Reading α :=
  complain "while scanning a simple key" k.start "could not find expected ':'"

/-- Forgets the places that can no longer be keys. -/
def dropStaleKeys (s : TokenState) : Reading TokenState := do
  let m ← mark
  let isStale := fun (k : Int × PossibleKey) =>
    k.2.start.line != m.line || k.2.start.index + 1024 < m.index
  match s.keys.find? (fun k => isStale k && k.2.required) with
  | some k => missingKey k.2
  | none => return { s with keys := s.keys.filter fun k => !isStale k }

/-- Forgets the key of the present level, which must not be required. -/
def removeKey (s : TokenState) : Reading TokenState := do
  match s.key? with
  | some k => if k.required then missingKey k else return s.dropKey
  | none => return s

/-- Remembers that a key may begin here. -/
def saveKey (s : TokenState) : Reading TokenState := do
  if s.keyAllowed then
    let m ← mark
    let required := !s.inFlow && s.indent == m.column
    let s' ← removeKey s
    return { s' with keys := (s'.flowLevel, ⟨s'.count, required, m⟩) :: s'.keys }
  else return s

end Keys

section Indentation

/-- Closes the blocks that are indented deeper than a column. -/
def closeBlocks (column : Int) (m : Mark) (s : TokenState) : List Int → TokenState
  | [] => { s with indents := [] }
  | outer :: rest =>
      if column < s.indent then
        closeBlocks column m { s.push ⟨.blockEnd, m, m⟩ with indent := outer } rest
      else { s with indents := outer :: rest }

/-- Closes the blocks that end before a column; inside brackets there are none. -/
def unwind (column : Int) (s : TokenState) : Reading TokenState := do
  if s.inFlow then return s
  else return closeBlocks column (← mark) s s.indents

/-- Opens a block if a column is indented deeper than the present one. -/
def openBlock (kind : TokenKind) (column : Int) (number : Nat) (m : Mark) (s : TokenState) :
    TokenState :=
  if s.indent < column then
    { s.insertAt number ⟨kind, m, m⟩ with indents := s.indent :: s.indents, indent := column }
  else s

end Indentation

section Fetching

variable (s : TokenState)

/-- Moves over blanks, comments and line breaks to the next token. -/
def skipToToken : Nat → TokenState → Reading TokenState
  | 0, s => return s
  | n + 1, s => do
      skipWhile (· == ' ')
      if (← peek 0) == '#' then skipWhile (fun c => !isBreakOrEnd c)
      if isBreak (← peek 0) then
        let _ ← readBreak
        skipToToken n (if s.inFlow then s else { s with keyAllowed := true })
      else return s

/-- Reads an indicator of some characters as a token. -/
def indicator (kind : TokenKind) (length : Nat) (s : TokenState) : Reading TokenState := do
  let start ← mark
  skip length
  return s.push ⟨kind, start, ← mark⟩

def fetchEnd : Reading TokenState := do
  let s ← unwind (-1) s
  let s ← removeKey s
  let m ← mark
  return { s.push ⟨.streamEnd, m, m⟩ with keyAllowed := false, keys := [], finished := true }

def fetchDirective : Reading TokenState := do
  let s ← unwind (-1) s
  let s ← removeKey s
  let start ← mark
  let (d, stop) ← readDirective
  return { s.push ⟨.directive d, start, stop⟩ with keyAllowed := false }

/-- The beginning or end of a document. -/
def fetchSeparator (kind : TokenKind) : Reading TokenState := do
  let s ← unwind (-1) s
  let s ← removeKey s
  indicator kind 3 { s with keyAllowed := false }

def fetchOpening (kind : TokenKind) : Reading TokenState := do
  let s ← saveKey s
  indicator kind 1 { s with flowLevel := s.flowLevel + 1, keyAllowed := true }

def fetchClosing (kind : TokenKind) : Reading TokenState := do
  let s ← removeKey s
  indicator kind 1 { s with flowLevel := s.flowLevel - 1, keyAllowed := false }

def fetchFlowEntry : Reading TokenState := do
  let s ← removeKey { s with keyAllowed := true }
  indicator .flowEntry 1 s

/-- Complains about an indicator that may not stand here. -/
def notAllowed {α : Type} (problem : String) : Reading α := do
  throw ⟨.tokens, none, problem, ← mark⟩

/-- The dash of a block sequence. -/
def fetchBlockEntry : Reading TokenState := do
  let m ← mark
  if !s.inFlow && !s.keyAllowed then notAllowed "sequence entries are not allowed here"
  let s := if s.inFlow then s else openBlock .blockSequenceStart m.column s.count m s
  let s ← removeKey { s with keyAllowed := true }
  indicator .blockEntry 1 s

/-- The question mark of a key. -/
def fetchKey : Reading TokenState := do
  let m ← mark
  if !s.inFlow && !s.keyAllowed then notAllowed "mapping keys are not allowed here"
  let s := if s.inFlow then s else openBlock .blockMappingStart m.column s.count m s
  let s ← removeKey { s with keyAllowed := !s.inFlow }
  indicator .key 1 s

/-- The colon of a value; it makes a key of a token before it if that may be one. -/
def fetchValue : Reading TokenState := do
  match s.key? with
  | some k =>
      let s := s.dropKey.insertAt k.number ⟨.key, k.start, k.start⟩
      let s :=
        if s.inFlow then s
        else openBlock .blockMappingStart k.start.column k.number k.start s
      indicator .value 1 { s with keyAllowed := false }
  | none => do
      let m ← mark
      if !s.inFlow && !s.keyAllowed then notAllowed "mapping values are not allowed here"
      let s := if s.inFlow then s else openBlock .blockMappingStart m.column s.count m s
      let s ← removeKey { s with keyAllowed := !s.inFlow }
      indicator .value 1 s

/-- A token that may be a key and whose kind is read. -/
def fetchNode (read : Reading TokenKind) : Reading TokenState := do
  let s ← saveKey s
  let start ← mark
  let kind ← read
  return { s.push ⟨kind, start, ← mark⟩ with keyAllowed := false }

def fetchBlock (fold : Bool) : Reading TokenState := do
  let s ← removeKey { s with keyAllowed := true }
  let start ← mark
  let text ← readBlock fold s.indent
  return s.push ⟨.scalar text false, start, ← mark⟩

def fetchPlain : Reading TokenState := do
  let s ← saveKey s
  let start ← mark
  let part ← readPlain s.inFlow (s.indent + 1)
  return { s.push ⟨.scalar (String.ofList part.text) true, start, part.stop⟩ with
    keyAllowed := part.lineEnded }

/-- Whether a plain scalar can begin with a character, given the one after it. -/
def beginsPlain (c next : Char) : Bool :=
  !(isBlankOrEnd c || "-?:,[]\x7b\x7d#&*!|>'\"%@\x60".toList.contains c) ||
    (!isBlankOrEnd next && (c == '-' || (!s.inFlow && (c == '?' || c == ':'))))

/-- Reads the token that begins here. -/
def fetchHere : Reading TokenState := do
  let c ← peek 0
  let next ← peek 1
  let atStart := (← column) == 0
  let separator ← atSeparator
  if c == endChar then fetchEnd s
  else if c == '%' && atStart then fetchDirective s
  else if c == '-' && atStart && separator then fetchSeparator s .documentStart
  else if c == '.' && atStart && separator then fetchSeparator s .documentEnd
  else if c == '[' then fetchOpening s .flowSequenceStart
  else if c == '\x7b' then fetchOpening s .flowMappingStart
  else if c == ']' then fetchClosing s .flowSequenceEnd
  else if c == '\x7d' then fetchClosing s .flowMappingEnd
  else if c == ',' then fetchFlowEntry s
  else if c == '-' && isBlankOrEnd next then fetchBlockEntry s
  else if c == '?' && (s.inFlow || isBlankOrEnd next) then fetchKey s
  else if c == ':' && (s.inFlow || isBlankOrEnd next) then fetchValue s
  else if c == '*' then fetchNode s (TokenKind.alias <$> readAnchor "while scanning an alias")
  else if c == '&' then fetchNode s (TokenKind.anchor <$> readAnchor "while scanning an anchor")
  else if c == '!' then fetchNode s ((fun t => TokenKind.tag t.1 t.2) <$> readTag)
  else if c == '|' && !s.inFlow then fetchBlock s false
  else if c == '>' && !s.inFlow then fetchBlock s true
  else if c == '\'' || c == '"' then fetchNode s ((TokenKind.scalar · false) <$> readQuoted)
  else if beginsPlain s c next then fetchPlain s
  else
    throw ⟨.tokens, some ("while scanning for the next token", none),
      "found character " ++ shown c ++ " that cannot start any token", ← mark⟩

/-- Reads the next token and those that indentation puts before it. -/
def fetch : Reading TokenState := do
  let s ← skipToToken (← fuel) s
  let s ← dropStaleKeys s
  let s ← unwind (← column) s
  fetchHere s

end Fetching

end Reading

namespace TokenState

/-- Parts with the tokens before the first one that may be a key, oldest first. -/
def release (s : TokenState) : List Token × TokenState :=
  let kept := s.count - s.firstKey?.getD s.count
  ((s.tokens.drop kept).reverse, { s with tokens := s.tokens.take kept })

end TokenState
end Yaml
end AccessPolicy
