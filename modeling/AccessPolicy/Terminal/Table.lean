import AccessPolicy.Number.Rounding
import AccessPolicy.Terminal.Screen

/-!
# Tables on a screen

A `Table` is drawn with lines between its columns and under its headers.  A row is as high
as its highest cell.  The title stands above the middle of the table; if the blanks around it
cannot be halved, the odd one is on the right.

**Widths.**  A column is as wide as its widest cell if the screen has room for that.  If not,
the widest columns are narrowed, first to the width of the next one, until the table fits.

**Cells.**  A cell is broken into lines of the width of its column; a word that is too wide is
cut off.  A line break of any kind counts for the width that a cell asks for, and tabs count
as nothing.

**Markup.**  Titles and cells are marked up.  `Table.seen?` is the table of what is seen of them,
if all their tags match, and `Table.draw` draws a table of plain texts.
-/

namespace AccessPolicy

/-- A table of texts. -/
structure Table where
  title : String
  headers : List String
  rows : List (List String)
deriving Repr

namespace Table

section Widths

/-- The columns that a cell asks for. -/
def cellWidth (cell : String) : Nat :=
  let lines := Text.splitWhere Text.endsLine cell.toList
  (lines.map Text.columnsOfChars).foldl Nat.max 0

/-- The widths that are enough for a row and for what is above it. -/
def widen : List Nat → List String → List Nat
  | w :: widths, cell :: row => Nat.max w (cellWidth cell) :: widen widths row
  | widths, [] => widths
  | [], row => row.map cellWidth

/-- The columns of the whole table, with lines and blanks between its cells. -/
def totalWidth : List Nat → Nat
  | [] => 1
  | w :: rest => w + 3 + totalWidth rest

/-- Takes an amount in equal shares from the given number of widest columns, from each of
them at most a limit. -/
def takeShares (widest limit : Nat) : Nat → Nat → List Nat → List Nat
  | _, _, [] => []
  | amount, sharers, w :: rest =>
      if w = widest && 0 < sharers then
        let share := Nat.min limit (Rounding.divide amount sharers)
        (w - share) :: takeShares widest limit (amount - share) (sharers - 1) rest
      else w :: takeShares widest limit amount sharers rest

/-- Narrows the widest columns once, at most to the width of the next ones. -/
def narrowOnce (excess : Nat) (widths : List Nat) : List Nat :=
  let widest := widths.foldl Nat.max 0
  let next := (widths.filter (· != widest)).foldl Nat.max 0
  takeShares widest (Nat.min excess (widest - next)) excess (widths.count widest) widths

/-- Narrows columns until a table fits, at most the given number of times. -/
def narrow (room : Nat) : Nat → List Nat → List Nat
  | 0, widths => widths
  | times + 1, widths =>
      let excess := totalWidth widths - room
      if excess = 0 then widths else narrow room times (narrowOnce excess widths)

/-- The widths of the columns.  Every narrowing takes away something, so that there are no
more of them than columns in excess. -/
def widths (t : Table) : List Nat :=
  let wanted := t.rows.foldl widen (t.headers.map cellWidth)
  narrow Screen.width (totalWidth wanted - Screen.width) wanted

end Widths

section Drawing

/-- The lines of a cell in a column of some width. -/
def cellLines (width : Nat) (cell : String) : List (List Char) :=
  Text.wrap .ellipsis width cell

/-- A line of a cell, filled with blanks to its width and with one blank on either side. -/
def fill (width : Nat) (line : List Char) : List Char :=
  ' ' :: line ++ List.replicate (width + 1 - Text.columnsOfChars line) ' '

def between (left middle right : Char) (parts : List (List Char)) : List Char :=
  left :: ([middle].intercalate parts ++ [right])

def rowLines (bar : Char) (widths : List Nat) (row : List String) : List (List Char) :=
  let cells := List.zipWith cellLines widths row
  let height := (cells.map List.length).foldl Nat.max 1
  (List.range height).map fun i =>
    between bar bar bar (List.zipWith (fun w cell => fill w (cell.getD i [])) widths cells)

def crossLine (left line middle right : Char) (widths : List Nat) : List Char :=
  between left middle right (widths.map fun w => List.replicate (w + 2) line)

/-- A line in the middle of a width. -/
def center (width : Nat) (line : List Char) : List Char :=
  let line := Text.trimEnd line
  List.replicate ((width - Text.columnsOfChars line) / 2) ' ' ++ line

def titleLines (width : Nat) (title : String) : List (List Char) :=
  (Text.wrap .fold width title).map (center width)

/-- A table as it is drawn. -/
def draw (t : Table) : String :=
  let w := t.widths
  Screen.ofLines
    (titleLines (totalWidth w) t.title ++
      [crossLine '┏' '━' '┳' '┓' w] ++ rowLines '┃' w t.headers ++
      [crossLine '┡' '━' '╇' '┩' w] ++ t.rows.flatMap (rowLines '│' w) ++
      [crossLine '└' '─' '┴' '┘' w])

end Drawing

section Markup

/-- The table of what is seen of a table, if the tags of each text match. -/
def seen? (signs : Pictogram.Signs) (t : Table) : Option Table := do
  return {
    title := ← Screen.seen? signs t.title
    headers := ← t.headers.mapM (Screen.seen? signs)
    rows := ← t.rows.mapM fun row => row.mapM (Screen.seen? signs) }

/-- A table as it is shown. -/
def print? (signs : Pictogram.Signs) (t : Table) : Option String :=
  (t.seen? signs).map draw

end Markup

end Table
end AccessPolicy
