import AccessPolicy.Text.Quoted

/-!
# Parts of a text

`Text.split` cuts a text at every occurrence of a character, `Text.cut?` at the first
one, and `Text.splitWhere` wherever a character has a property.
-/

namespace AccessPolicy
namespace Text

/-- The parts of a list of characters between those that end a part. -/
def splitWhere (ends : Char → Bool) : List Char → List (List Char)
  | [] => [[]]
  | c :: rest =>
      if ends c then [] :: splitWhere ends rest
      else
        match splitWhere ends rest with
        | part :: parts => (c :: part) :: parts
        | [] => [[c]]

/-- The parts of a list of characters between the occurrences of a separator. -/
def splitChars (separator : Char) (cs : List Char) : List (List Char) :=
  splitWhere (· == separator) cs

/-- The parts of a text between the occurrences of a separator. -/
def split (separator : Char) (s : String) : List String :=
  (splitChars separator s.toList).map String.ofList

/-- The texts before and after the first occurrence of a separator. -/
def cut? (separator : Char) (s : String) : Option (String × String) :=
  let cs := s.toList
  let before := cs.takeWhile (· != separator)
  match cs.dropWhile (· != separator) with
  | [] => none
  | _ :: after => some (String.ofList before, String.ofList after)

/-- The first line of a text. -/
def firstLine (s : String) : String :=
  String.ofList (s.toList.takeWhile (· != '\n'))

end Text
end AccessPolicy
