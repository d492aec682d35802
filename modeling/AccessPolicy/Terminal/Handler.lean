import AccessPolicy.Terminal.Style

/-!
# Arguments of handlers

A tag whose name begins with `@` is for a handler, and what is behind its equals sign are the
arguments: a name, a name with arguments in brackets, or a literal alone.

**Literals** are numbers, texts, bytes, truth values, tuples, sets and maps.  Only texts, bytes,
numbers, truth values and tuples of such can be in a set or be the key of a map.

`Handler.isReadable` tells whether arguments can be read.
-/

namespace AccessPolicy
namespace Handler

/-- What a literal is.  Signs and sums are told apart, since only plain numbers have a sign and
only an imaginary number can be added. -/
inductive LiteralKind where
  | number (signed : Bool)
  | imaginary (signed : Bool)
  | text
  | bytes
  | fixed
  | changing
deriving DecidableEq, Repr

/-- Whether a literal can be in a set. -/
def LiteralKind.isFixed : LiteralKind → Bool
  | .changing => false
  | _ => true

/-- A literal at the beginning of some characters, and those behind it. -/
abbrev Found := Option (LiteralKind × List Char)

section Blanks

/-- Characters without the blanks and remarks before them; inside of brackets a line break is
a blank. -/
def skip (inside remark : Bool) : List Char → List Char
  | [] => []
  | c :: rest =>
      let ends := c == '\n' || c == '\r'
      if remark && !ends then skip inside true rest
      else if c == ' ' || c == '\t' || c == '\x0c' || (inside && ends) then skip inside false rest
      else if c == '#' then skip inside true rest
      else c :: rest

/-- Whether a character can be part of a word. -/
def isWord (c : Char) : Bool :=
  c.isAlphanum || c == '_' || (0x80 ≤ c.toNat && !Text.isBlank c)

end Blanks

section Numbers

/-- Characters behind further digits, between which there may be single gaps. -/
def moreDigits (isDigit : Char → Bool) : List Char → List Char
  | [] => []
  | c :: rest =>
      if isDigit c then moreDigits isDigit rest
      else
        match c, rest with
        | '_', d :: more => if isDigit d then moreDigits isDigit more else c :: rest
        | _, _ => c :: rest

/-- Characters behind digits, of which there must be one. -/
def digits? (isDigit : Char → Bool) : List Char → Option (List Char)
  | [] => none
  | c :: rest => if isDigit c then some (moreDigits isDigit rest) else none

/-- Characters behind an exponent, if there is one. -/
def exponent? : List Char → Option (List Char)
  | c :: rest =>
      if c == 'e' || c == 'E' then
        match rest with
        | '+' :: more => digits? Char.isDigit more
        | '-' :: more => digits? Char.isDigit more
        | _ => digits? Char.isDigit rest
      else none
  | [] => none

def decimal? (cs : List Char) : Found := do
  let whole? := digits? Char.isDigit cs
  let behind := whole?.getD cs
  let (rest, hasPoint) ←
    match behind with
    | '.' :: more =>
        match digits? Char.isDigit more with
        | some rest => some (rest, true)
        | none => if whole?.isSome then some (more, true) else none
    | _ => if whole?.isSome then some (behind, false) else none
  let (rest, isWhole) :=
    match exponent? rest with
    | some behind => (behind, false)
    | none => (rest, !hasPoint)
  match rest with
  | 'j' :: more => return (.imaginary false, more)
  | 'J' :: more => return (.imaginary false, more)
  | _ =>
      let figures := cs.take (cs.length - rest.length)
      if isWhole && figures.head? == some '0' && figures.any (fun c => c != '0' && c != '_') then none
      else return (.number false, rest)

/-- The digits that belong to the letter of a base. -/
def digitsOfBase? (c : Char) : Option (Char → Bool) :=
  if c == 'x' || c == 'X' then some fun d => (Text.hexValue? d).isSome
  else if c == 'o' || c == 'O' then some fun d => '0' ≤ d && d ≤ '7'
  else if c == 'b' || c == 'B' then some fun d => d == '0' || d == '1'
  else none

/-- A number; no word may follow it directly. -/
def number? (cs : List Char) : Found := do
  let based :=
    match cs with
    | '0' :: letter :: rest => (digitsOfBase? letter).map fun isDigit => (isDigit, rest)
    | _ => none
  let (kind, rest) ←
    match based with
    | some (isDigit, '_' :: rest) => (digits? isDigit rest).map fun r => (.number false, r)
    | some (isDigit, rest) => (digits? isDigit rest).map fun r => (.number false, r)
    | none => decimal? cs
  if rest.head?.any isWord then none else return (kind, rest)

end Numbers

section Texts

/-- How a text is written: bytes or not, with escapes or without, in which quotes. -/
structure Writing where
  isBytes : Bool
  isRaw : Bool
  quote : Char
  isTripled : Bool

/-- How many digits the code behind the letter of an escape has; zero means any number. -/
def codeDigits (isBytes : Bool) (c : Char) : Option Nat :=
  if c == 'x' then some 2
  else if isBytes then some 0
  else if c == 'u' then some 4
  else if c == 'U' then some 8
  else if c == 'N' then none
  else some 0

/-- Whether the code of an escape is complete and means a character. -/
def isCode (n : Nat) (cs : List Char) : Bool :=
  let code := cs.take n
  code.length == n && code.all (fun c => (Text.hexValue? c).isSome) &&
    code.foldl (fun sum c => 16 * sum + (Text.hexValue? c).getD 0) 0 < 0x110000

/-- Characters behind the end of a text, if it is well written. -/
def behindText? (w : Writing) : List Char → Option (List Char)
  | [] => none
  | '\\' :: c :: rest =>
      if w.isRaw then behindText? w rest
      else
        match codeDigits w.isBytes c with
        | none => none
        | some n => if isCode n rest then behindText? w rest else none
  | c :: rest =>
      if c == '\\' || (w.isBytes && 0x80 ≤ c.toNat) then none
      else if c == w.quote then
        if w.isTripled then
          if rest.take 2 == [c, c] then some (rest.drop 2) else behindText? w rest
        else some rest
      else if c == '\n' && !w.isTripled then none
      else behindText? w rest

/-- How a text is written that begins here, and what is behind its opening quotes. -/
def writing? (isBytes isRaw : Bool) : List Char → Option (Writing × List Char)
  | c :: rest =>
      if c == '\'' || c == '"' then
        if rest.take 2 == [c, c] then some (⟨isBytes, isRaw, c, true⟩, rest.drop 2)
        else some (⟨isBytes, isRaw, c, false⟩, rest)
      else none
  | [] => none

/-- How a text is written that begins here, perhaps with letters before its quotes. -/
def opening? (cs : List Char) : Option (Writing × List Char) :=
  let letters := (cs.take 2).takeWhile Char.isAlpha
  let rest := cs.drop letters.length
  match letters.map Char.toLower with
  | [] => writing? false false rest
  | ['u'] => writing? false false rest
  | ['r'] => writing? false true rest
  | ['b'] => writing? true false rest
  | ['b', 'r'] => writing? true true rest
  | ['r', 'b'] => writing? true true rest
  | _ => none

/-- A text, which may be written in several parts. -/
def text? (inside : Bool) : Nat → List Char → Found
  | 0, _ => none
  | fuel + 1, cs => do
      let (w, rest) ← opening? cs
      let kind := if w.isBytes then LiteralKind.bytes else .text
      let behind ← behindText? w rest
      let next := skip inside false behind
      if (opening? next).isNone then return (kind, behind)
      else
        let (more, behind) ← text? inside fuel next
        if more = kind then return (kind, behind) else none

end Texts

section Literals

def withSign : LiteralKind → Option LiteralKind
  | .number false => some (.number true)
  | .imaginary false => some (.imaginary true)
  | _ => none

def sum : LiteralKind → LiteralKind → Option LiteralKind
  | .number _, .imaginary false => some .fixed
  | _, _ => none

/-- A word that is a literal. -/
def word? (cs : List Char) : Found :=
  let word := cs.takeWhile isWord
  let rest := cs.drop word.length
  if ["True", "False", "None"].contains (String.ofList word) then some (.fixed, rest)
  else if String.ofList word = "set" then
    match skip false false rest with
    | '(' :: more =>
        match skip true false more with
        | ')' :: behind => some (.changing, behind)
        | _ => none
    | _ => none
  else none

mutual

def plain? (inside : Bool) : Nat → List Char → Found
  | 0, _ => none
  | fuel + 1, cs =>
      match cs with
      | '(' :: rest => do
          let (kinds, hasComma, rest) ← items? true [')'] fuel rest
          match rest, kinds with
          | ')' :: behind, [kind] =>
              return (if hasComma then (if kind.isFixed then .fixed else .changing) else kind, behind)
          | ')' :: behind, kinds =>
              return (if kinds.all LiteralKind.isFixed then .fixed else .changing, behind)
          | _, _ => none
      | '\x7b' :: rest => do
          let behind ← members? fuel rest
          return (.changing, behind)
      | '.' :: '.' :: '.' :: rest => some (.fixed, rest)
      | c :: _ =>
          if (opening? cs).isSome then text? inside fuel cs
          else if c.isDigit || c == '.' then number? cs
          else word? cs
      | [] => none

/-- A literal, which may have a sign or be a sum. -/
def literal? (inside : Bool) : Nat → List Char → Found
  | 0, _ => none
  | fuel + 1, cs => do
      let cs := skip inside false cs
      let (kind, rest) ←
        match cs with
        | c :: rest =>
            if c == '+' || c == '-' then do
              let (kind, rest) ← plain? inside fuel (skip inside false rest)
              return (← withSign kind, rest)
            else plain? inside fuel cs
        | [] => none
      match skip inside false rest with
      | c :: more =>
          if c == '+' || c == '-' then do
            let (second, rest) ← plain? inside fuel (skip inside false more)
            return (← sum kind second, rest)
          else return (kind, rest)
      | [] => return (kind, rest)

/-- Literals between commas up to one of some ends, whether there was a comma, and what is
behind them. -/
def items? (inside : Bool) (ends : List Char) :
    Nat → List Char → Option (List LiteralKind × Bool × List Char)
  | 0, _ => none
  | fuel + 1, cs => do
      let cs := skip inside false cs
      if cs.isEmpty || cs.head?.any ends.contains then return ([], false, cs)
      else
        let (kind, rest) ← literal? inside fuel cs
        match skip inside false rest with
        | ',' :: rest => do
            let (kinds, _, rest) ← items? inside ends fuel rest
            return (kind :: kinds, true, rest)
        | rest => return ([kind], false, rest)

/-- Characters behind the entries of a map or the items of a set. -/
def members? : Nat → List Char → Option (List Char)
  | 0, _ => none
  | fuel + 1, cs => do
      match skip true false cs with
      | '\x7d' :: behind => return behind
      | cs => do
          let (key, rest) ← literal? true fuel cs
          if !key.isFixed then none
          match skip true false rest with
          | ':' :: rest => do
              let (_, rest) ← literal? true fuel rest
              entries? fuel (skip true false rest)
          | rest => do
              let (kinds, _, rest) ←
                match rest with
                | ',' :: rest => items? true ['\x7d'] fuel rest
                | rest => some ([], false, rest)
              match rest with
              | '\x7d' :: behind => if kinds.all LiteralKind.isFixed then return behind else none
              | _ => none

/-- Characters behind further entries of a map. -/
def entries? : Nat → List Char → Option (List Char)
  | 0, _ => none
  | fuel + 1, cs => do
      match cs with
      | '\x7d' :: behind => return behind
      | ',' :: rest =>
          match skip true false rest with
          | '\x7d' :: behind => return behind
          | rest => do
              let (key, rest) ← literal? true fuel rest
              if !key.isFixed then none
              match skip true false rest with
              | ':' :: rest => do
                  let (_, rest) ← literal? true fuel rest
                  entries? fuel (skip true false rest)
              | _ => none
      | _ => none

end

/-- Whether characters are a literal, or several between commas. -/
def isLiteral (cs : List Char) : Bool :=
  match items? false [] (4 * cs.length + 8) cs with
  | some (kinds, _, rest) => !kinds.isEmpty && (skip true false rest).isEmpty
  | none => false

end Literals

/-- Whether the arguments of a handler can be read; there may be none. -/
def isReadable (arguments : List Char) : Bool :=
  let cs := Style.trim arguments
  let rest := cs.dropWhile fun c => isWord c || c == '.'
  match rest with
  | [] => true
  | '(' :: _ =>
      if rest.getLast? == some ')' && !rest.contains '\n' then isLiteral rest else isLiteral cs
  | _ => isLiteral cs

end Handler
end AccessPolicy
