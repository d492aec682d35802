import AccessPolicy.Failure

/-!
# Writing JSON

`Json.write` writes a value as a JSON text over several lines, each level of nesting
indented by two more blanks.

**Characters.**  Everything outside the printable part of ASCII is escaped, in two code
units where one is not enough.

**Other values.**  Values that JSON does not have are written as the text that displays
them.  A map with a key that JSON cannot name is refused, and so are a collection inside
itself and an integer that is too long.
-/

namespace AccessPolicy
namespace Json

section Texts

/-- The escape of a code unit. -/
def escapeUnit (n : Nat) : List Char :=
  '\\' :: 'u' :: Text.hex 4 n

def escapeCode (c : Char) : List Char :=
  let n := c.toNat
  if n < 0x10000 then escapeUnit n
  else escapeUnit (0xD800 + (n - 0x10000) / 0x400) ++ escapeUnit (0xDC00 + (n - 0x10000) % 0x400)

def escapeChar (c : Char) : List Char :=
  if c == '"' then "\\\"".toList
  else if c == '\\' then "\\\\".toList
  else if c == '\n' then "\\n".toList
  else if c == '\r' then "\\r".toList
  else if c == '\t' then "\\t".toList
  else if c == '\x08' then "\\b".toList
  else if c == '\x0c' then "\\f".toList
  else if ' ' ≤ c && c ≤ '~' then [c]
  else escapeCode c

def quoted (s : String) : String :=
  String.ofList ('"' :: s.toList.flatMap escapeChar ++ ['"'])

def floatText (x : Binary64) : String :=
  match x with
  | .nan _ => "NaN"
  | .infinite false => "Infinity"
  | .infinite true => "-Infinity"
  | x => x.text

/-- An integer, if it can be written. -/
def intText (i : Int) : Except Failure String :=
  if Literal.isWritable i then .ok (toString i) else .error .unwritable

/-- The name of a key, if it can be one. -/
def name : Value → Except Failure String
  | .null => .ok "null"
  | .bool b => .ok (if b then "true" else "false")
  | .int i => intText i
  | .float x => .ok (floatText x)
  | v =>
      match v.text? with
      | some s => .ok s
      | none => .error .wrongType

end Texts

section Layout

/-- A line break and the indentation of a level. -/
def lineBreak (level : Nat) : String :=
  String.ofList ('\n' :: List.replicate (2 * level) ' ')

/-- Items in brackets, each on a line of its own. -/
def block (left right : String) (level : Nat) (items : List String) : String :=
  if items.isEmpty then left ++ right
  else
    left ++ lineBreak (level + 1) ++ Text.join ("," ++ lineBreak (level + 1)) items ++
      lineBreak level ++ right

/-- The text that displays a value that JSON does not have. -/
def displayed (v : Value) : Except Failure String :=
  if v.isWritable then .ok (quoted v.display) else .error .unwritable

mutual

def writeAt (level : Nat) : Value → Except Failure String
  | .null => .ok "null"
  | .bool b => .ok (if b then "true" else "false")
  | .int i => intText i
  | .float x => .ok (floatText x)
  | .text s => .ok (quoted s)
  | .tag t => .ok (quoted t.text)
  | .list xs => (writeItems (level + 1) xs).map (block "[" "]" level)
  | .tuple xs => (writeItems (level + 1) xs).map (block "[" "]" level)
  | .map t entries =>
      if t.isSubtypeOf (.builtin .map) then
        (writeMembers (level + 1) entries).map (block "\x7b" "\x7d" level)
      else displayed (.map t entries)
  | .loop _ => .error .wrongValue
  | v => displayed v

/-- The items of a sequence on a level. -/
def writeItems (level : Nat) : List Value → Except Failure (List String)
  | [] => .ok []
  | v :: rest => do
      let s ← writeAt level v
      let more ← writeItems level rest
      return s :: more

/-- The members of a map on a level. -/
def writeMembers (level : Nat) : List (Value × Value) → Except Failure (List String)
  | [] => .ok []
  | (k, v) :: rest => do
      let name ← name k
      let s ← writeAt level v
      let more ← writeMembers level rest
      return (quoted name ++ ": " ++ s) :: more

end

/-- A value as a JSON text. -/
def write (v : Value) : Except Failure String :=
  writeAt 0 v

end Layout

end Json
end AccessPolicy
