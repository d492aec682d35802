import AccessPolicy.Terminal.Handler
import AccessPolicy.Terminal.Pictogram

/-!
# Marked-up text

Texts for a terminal are written with tags in square brackets that switch colours on and
off.  `Markup.plain?` gives the text that is seen, `Markup.escape` makes a text that is
seen as it was.

**Tags.**  A tag begins with a lower-case letter, `#`, `/` or `@` and holds no opening
bracket.  Brackets around anything else are text.  A tag with a slash closes the last open tag of
its name, or the last one of all if it has no name; there must be one.  A tag may be left
open.

**Backslashes.**  Before a tag, two backslashes stand for one, and an odd one makes the
tag a text.  A backslash before a bracket that begins no tag is not seen.

**Pictograms.**  Between tags, names of pictograms in colons are shown as such.  This holds
of escaped texts too.

**Joined texts.**  An escaped text shows no tag, but two of them one behind the other may: a
bracket that is open in the first can be closed in the second.
-/

namespace AccessPolicy
namespace Markup

/-- Whether a character may begin the name of a tag. -/
def beginsName (c : Char) : Bool :=
  ('a' ≤ c && c ≤ 'z') || c == '#' || c == '/' || c == '@'

/-- Whether a text goes on to a closing bracket without another opening one. -/
def closes : List Char → Bool
  | [] => false
  | c :: rest => c == ']' || (c != '[' && closes rest)

/-- Whether a text after an opening bracket makes a tag. -/
def isTag : List Char → Bool
  | c :: rest => beginsName c && closes rest
  | [] => false

def slashes (n : Nat) : List Char :=
  List.replicate n '\\'

/-- Escapes a text that follows some backslashes. -/
def escapeFrom (pending : Nat) : List Char → List Char
  | [] => slashes pending
  | '\\' :: rest => escapeFrom (pending + 1) rest
  | '[' :: rest =>
      slashes (if isTag rest then 2 * pending + 1 else pending) ++ '[' :: escapeFrom 0 rest
  | c :: rest => slashes pending ++ c :: escapeFrom 0 rest

/-- A backslash alone at the end of a text is doubled, since a tag may follow it. -/
def guardEnd (cs : List Char) : List Char :=
  match cs.reverse with
  | '\\' :: c :: _ => if c = '\\' then cs else cs ++ ['\\']
  | ['\\'] => ['\\', '\\']
  | _ => cs

/-- A text that is seen as it was. -/
def escape (s : String) : String :=
  String.ofList (guardEnd (escapeFrom 0 s.toList))

/-- A piece of a marked-up text: a text that is seen, or what is written in a tag. -/
inductive Piece where
  | text (cs : List Char)
  | tag (cs : List Char)
deriving DecidableEq, Repr

namespace Piece

/-- A piece with a character before it. -/
def withFirst (c : Char) : Piece → Piece
  | .text cs => .text (c :: cs)
  | .tag cs => .tag (c :: cs)

/-- Puts a character before the first of some pieces. -/
def putFirst (c : Char) : List Piece → List Piece
  | [] => []
  | p :: more => p.withFirst c :: more

/-- Puts characters before the first of some pieces, as a text. -/
def joinFront (cs : List Char) : List Piece → List Piece
  | .text t :: more => .text (cs ++ t) :: more
  | pieces => .text cs :: pieces

end Piece

section Reading

mutual

/-- The pieces of a text that follows some backslashes. -/
def piecesFrom (pending : Nat) : List Char → List Piece
  | [] => [.text (slashes pending)]
  | '\\' :: rest => piecesFrom (pending + 1) rest
  | '[' :: rest =>
      if isTag rest then
        let pieces := piecesThroughTag (pending % 2 = 1) rest
        .text [] :: .text (slashes (pending / 2)) ::
          (if pending % 2 = 1 then Piece.putFirst '[' pieces else pieces)
      else Piece.joinFront (slashes (pending - 1) ++ ['[']) (piecesFrom 0 rest)
  | c :: rest => Piece.joinFront (slashes pending ++ [c]) (piecesFrom 0 rest)

/-- The pieces of a text that begins inside a tag, which is seen as text or not at all. -/
def piecesThroughTag (isSeen : Bool) : List Char → List Piece
  | [] => []
  | c :: rest =>
      if c = ']' then (if isSeen then .text [c] else .tag []) :: piecesFrom 0 rest
      else Piece.putFirst c (piecesThroughTag isSeen rest)

end

def pieces (cs : List Char) : List Piece :=
  piecesFrom 0 cs

end Reading

section Tags

/-- A tag that is open: the name of its style, and its arguments if it has some. -/
structure OpenTag where
  style : String
  arguments : Option (List Char)
deriving DecidableEq, Repr

/-- Whether a tag can be closed; the arguments of a handler must be readable then. -/
def OpenTag.canClose (t : OpenTag) : Bool :=
  t.style.toList.head? != some '@' || t.arguments.all Handler.isReadable

/-- The first of some open tags that a tag closes, which has a name or is for any of them, and
the tags without it. -/
def closed? (name : List Char) (tags : List OpenTag) : Option (OpenTag × List OpenTag) :=
  match tags with
  | [] => none
  | t :: rest =>
      if name.isEmpty || t.style = Style.canonical name then some (t, rest)
      else (closed? name rest).map fun (found, left) => (found, t :: left)

/-- The tags that are open after one is written, if it can stand there. -/
def afterTag? (tags : List OpenTag) (content : List Char) : Option (List OpenTag) :=
  let name := content.takeWhile (· != '=')
  match name with
  | '/' :: closing => do
      let (t, left) ← closed? (Style.trim closing) tags
      if t.canClose then return left else none
  | _ =>
      match content.drop name.length with
      | _ :: arguments => some (⟨Style.canonical name, some arguments⟩ :: tags)
      | [] => some (⟨Style.canonical name, none⟩ :: tags)

/-- What is seen of some pieces, if the tags among them match. -/
def seen? (signs : Pictogram.Signs) (tags : List OpenTag) : List Piece → Option (List Char)
  | [] => some []
  | .text cs :: rest => (seen? signs tags rest).map (Pictogram.showAll signs cs ++ ·)
  | .tag content :: rest => do seen? signs (← afterTag? tags content) rest

end Tags

/-- What is seen of a text, if its tags match. -/
def plain? (signs : Pictogram.Signs) (s : String) : Option String :=
  (seen? signs [] (pieces s.toList)).map String.ofList

end Markup
end AccessPolicy
