import AccessPolicy.Terminal.Markup
import AccessPolicy.Terminal.Wrap

/-!
# Output on a screen

A marked-up text is shown in lines of a limited width, without its tags and without the
characters that would move the cursor.  A text whose tags do not match is not shown.
-/

namespace AccessPolicy
namespace Screen

def width : Nat := 400

/-- Whether a character moves the cursor or rings the bell instead of being shown. -/
def isUnseen (c : Char) : Bool :=
  c == '\x07' || c == '\x08' || c == '\x0b' || c == '\x0c' || c == '\r'

/-- What is seen of a marked-up text, if its tags match. -/
def seen? (signs : Pictogram.Signs) (markup : String) : Option String :=
  (Markup.plain? signs markup).map fun s => String.ofList (s.toList.filter fun c => !isUnseen c)

/-- Lines of text without the blanks behind them, each with its end. -/
def ofLines (lines : List (List Char)) : String :=
  String.join (lines.map fun line => String.ofList (Text.trimEnd line) ++ "\n")

/-- A marked-up text as it is shown. -/
def print? (signs : Pictogram.Signs) (markup : String) : Option String :=
  (seen? signs markup).map fun s => ofLines (Text.wrap .fold width s)

end Screen
end AccessPolicy
