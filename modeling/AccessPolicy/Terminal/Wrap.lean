import AccessPolicy.Text.Blank
import AccessPolicy.Text.Split
import AccessPolicy.Text.Width

/-!
# Lines of a given width

`Text.wrap` breaks a text into lines that are no wider than a given number of columns.

**Words.**  Lines are broken between words.  A word wider than a whole line begins a line
of its own.  What becomes of it depends on the style: it is folded into several lines, or cut
off with an ellipsis.

**Blanks.**  A tab takes the columns up to the next multiple of eight.  As many of the blanks
at the end of a line are dropped as it has characters too many.
-/

namespace AccessPolicy
namespace Text

/-- What becomes of words that are wider than a line. -/
inductive WrapStyle where
  | fold
  | ellipsis
deriving DecidableEq, Repr

/-- Parts that were divided by tabs, with blanks in place of the tabs, from a column on. -/
def joinAtTabs (column : Nat) : List (List Char) → List Char
  | [] => []
  | [part] => part
  | part :: rest =>
      let column := column + columnsOfChars part
      let blanks := 8 - column % 8
      part ++ List.replicate blanks ' ' ++ joinAtTabs (column + blanks) rest

def expandTabs (cs : List Char) : List Char :=
  joinAtTabs 0 (splitChars '\t' cs)

/-- Puts a character before some words: into the first one, or alone before it. -/
def joinWord (c : Char) (goesOn : Bool) : List (List Char) → List (List Char)
  | [] => [[c]]
  | word :: more => if goesOn then (c :: word) :: more else [c] :: word :: more

/-- The words of a text, each with the blanks behind it; blanks at the beginning stand alone. -/
def words : List Char → List (List Char)
  | [] => []
  | [c] => [[c]]
  | c :: d :: rest => joinWord c (!isBlank c || isBlank d) (words (d :: rest))

/-- The words of a text, where blanks at its beginning belong to the first word. -/
def wordsOf (cs : List Char) : List (List Char) :=
  match words cs with
  | first :: second :: more =>
      if first.all isBlank then (first ++ second) :: more else first :: second :: more
  | short => short

/-- Puts graphemes into pieces that are no wider than a width; the first piece has some
columns already. -/
def chopFrom (width columns : Nat) : List Grapheme → List (List Char)
  | [] => [[]]
  | g :: rest =>
      if width < columns + g.columns then [] :: putFirst g (chopFrom width g.columns rest)
      else putFirst g (chopFrom width (columns + g.columns) rest)
where
  /-- Puts a grapheme before the first of some pieces. -/
  putFirst (g : Grapheme) : List (List Char) → List (List Char)
    | [] => [g.chars]
    | piece :: more => (g.chars ++ piece) :: more

/-- Cuts characters into pieces that are no wider than a width. -/
def chop (width : Nat) (cs : List Char) : List (List Char) :=
  chopFrom width 0 (graphemes cs)

/-- The beginning of some graphemes that takes exactly some columns; of one that does not
fit a blank remains. -/
def cropGraphemes : Nat → List Grapheme → List Char
  | _, [] => []
  | room, g :: rest =>
      if room = 0 then []
      else if g.columns ≤ room then g.chars ++ cropGraphemes (room - g.columns) rest
      else [' ']

/-- Characters brought to a number of columns. -/
def setColumns (width : Nat) (cs : List Char) : List Char :=
  let taken := columnsOfChars cs
  if taken ≤ width then cs ++ List.replicate (width - taken) ' '
  else cropGraphemes width (graphemes cs)

/-- Characters that take no more than a number of columns. -/
def cutOff (style : WrapStyle) (width : Nat) (cs : List Char) : List Char :=
  if columnsOfChars cs ≤ width then cs
  else
    match style with
    | .fold => setColumns width cs
    | .ellipsis => setColumns (width - 1) cs ++ ['…']

/-- A line without as many blanks at its end as it has characters above a number. -/
def dropBlanks (width : Nat) (cs : List Char) : List Char :=
  let blanks := (cs.reverse.takeWhile isBlank).length
  cs.take (cs.length - Nat.min blanks (cs.length - width))

/-- Lines in the making: those that are full, and the last one with its columns. -/
structure Lines where
  full : List (List Char) := []
  last : List Char := []
  columns : Nat := 0

namespace Lines

def isUnwritten (l : Lines) : Bool :=
  l.full.isEmpty && l.last.isEmpty

/-- Begins a line with some characters. -/
def startLine (l : Lines) (cs : List Char) : Lines :=
  let full := if l.isUnwritten then l.full else l.full ++ [l.last]
  ⟨full, cs, columnsOfChars cs⟩

def append (l : Lines) (cs : List Char) : Lines :=
  ⟨l.full, l.last ++ cs, l.columns + columnsOfChars cs⟩

def addWord (style : WrapStyle) (width : Nat) (l : Lines) (word : List Char) : Lines :=
  let needed := columnsOfChars (trimEnd word)
  if l.columns + needed ≤ width then l.append word
  else if width < needed && style = .fold then (chop width word).foldl startLine l
  else l.startLine word

def toList (l : Lines) : List (List Char) :=
  l.full ++ [l.last]

end Lines

/-- The lines of characters without line breaks. -/
def wrapLine (style : WrapStyle) (width : Nat) (cs : List Char) : List (List Char) :=
  let lines := (wordsOf (expandTabs cs)).foldl (Lines.addWord style width) {}
  lines.toList.map fun line => cutOff style width (dropBlanks width line)

/-- The lines of a text that are no wider than a width. -/
def wrap (style : WrapStyle) (width : Nat) (s : String) : List (List Char) :=
  (splitChars '\n' s.toList).flatMap (wrapLine style width)

end Text
end AccessPolicy
