import AccessPolicy.Terminal.Pictogram
import AccessPolicy.Terminal.Pictogram.Flags
import AccessPolicy.Terminal.Pictogram.People
import AccessPolicy.Terminal.Pictogram.Things

/-!
# Known pictograms

The signs that the program knows by their names: flags, people in several tones, and other things.
Nothing but the program itself depends on which these are.
-/

namespace AccessPolicy
namespace Pictogram

section Signs

/-- What stands behind a name in a row of names, each with something behind it. -/
def behind? (name : String) : List String → Option String
  | key :: entry :: rest => if key = name then some entry else behind? name rest
  | _ => none

/-- What stands behind a name in some lines. -/
def find? (name : String) (lines : List String) : Option (List Char) :=
  (lines.findSome? fun line => behind? name (Text.split ' ' line)).map String.toList

/-- The end of a name without what must stand before it. -/
def after? (beginning name : String) : Option String :=
  let (b, n) := (beginning.toList, name.toList)
  if b.isPrefixOf n then some (String.ofList (n.drop b.length)) else none

/-- The sign that indicates a letter. -/
def indicator (c : Char) : Char :=
  Char.ofNat (0x1F1E6 + (c.toNat - 'A'.toNat))

def flag? (name : String) : Option (List Char) :=
  let letters :=
    match after? "flag_for_" name with
    | some region => (find? region regions).or (find? region longNamedRegions)
    | none => (find? name regions).or (find? name shortNamedRegions)
  letters.map fun cs => cs.map indicator

/-- A sign with the mark of a tone. -/
def toned (mark : Char) : List Char → List Char
  | c :: rest => c :: mark :: rest.dropWhile (· == '\ufe0f')
  | [] => []

/-- The sign with a name and the name of a tone. -/
def tonedSign? (name : String) : Option (List Char) :=
  tones.findSome? fun t => do
    let sign ← find? (← before? t.1 name) people
    return toned t.2 sign

def sign? (name : String) : Option (List Char) :=
  (find? name things).or ((find? name people).or ((flag? name).or (tonedSign? name)))

end Signs

end Pictogram
end AccessPolicy
