import AccessPolicy.Text.Blank
import AccessPolicy.Text.Case
import AccessPolicy.Text.Split

/-!
# Pictograms by name

A name between two colons stands for a pictogram: a text with `:key:` in it is shown with
the sign of a key.  The case of letters does not count, and `-emoji` or `-text` behind the
name asks for the coloured or the plain form of the sign.  Which names have signs is a matter
of the terminal.

A name holds neither blanks nor colons.  What stands between colons and is no known name is
shown as it is, with both colons, and neither of them begins another name.
-/

namespace AccessPolicy
namespace Pictogram

/-- The signs that a terminal knows by their names. -/
abbrev Signs := String → Option (List Char)

/-- The beginning of a name without what must stand behind it. -/
def before? (ending name : String) : Option String :=
  let (e, n) := (ending.toList, name.toList)
  if e.isSuffixOf n then some (String.ofList (n.take (n.length - e.length))) else none

section Texts

/-- The signs that ask for a form of a pictogram. -/
def forms : List (String × Char) :=
  [("-emoji", '\ufe0f'), ("-text", '\ufe0e')]

/-- A name without the form behind it, and the sign of that form. -/
def cutForm (name : String) : String × List Char :=
  match forms.findSome? fun f => (before? f.1 name).map fun base => (base, [f.2]) with
  | some found => found
  | none => (name, [])

variable (signs : Signs)

/-- What is shown for the text between two colons. -/
def shown (name : List Char) : List Char :=
  let (base, form) := cutForm (String.ofList name)
  match signs (Text.lower base) with
  | some sign => sign ++ form
  | none => ':' :: (name ++ [':'])

/-- Shows a text, after an opening colon and the reversed beginning of a name if there is
one. -/
def showFrom : Option (List Char) → List Char → List Char
  | none, [] => []
  | some name, [] => ':' :: name.reverse
  | none, c :: rest => if c = ':' then showFrom (some []) rest else c :: showFrom none rest
  | some name, c :: rest =>
      if c = ':' then shown signs name.reverse ++ showFrom none rest
      else if Text.isBlank c then ':' :: (name.reverse ++ c :: showFrom none rest)
      else showFrom (some (c :: name)) rest

/-- A text with the pictograms that it names. -/
def showAll (cs : List Char) : List Char :=
  showFrom signs none cs

end Texts

end Pictogram
end AccessPolicy
