import AccessPolicy.Yaml.Graph

/-!
# Plain data from YAML texts

A document of plain data consists of null, truth values, numbers, texts, bytes, points in
time, lists, maps and sets.  `Yaml.load` reads a text as such data; an empty text is null.
-/

namespace AccessPolicy
namespace Yaml

/-- Whether a character may occur in a YAML text. -/
def isAllowed (c : Char) : Bool :=
  let n := c.toNat
  c == '\t' || c == '\n' || c == '\r' || (0x20 ≤ n && n ≤ 0x7E) || n == 0x85 ||
    (0xA0 ≤ n && n ≤ 0xD7FF) || (0xE000 ≤ n && n ≤ 0xFFFD) || 0x10000 ≤ n

/-- The problem of a character that may not occur. -/
def characterProblem (c : Char) (position : Nat) : Problem :=
  ⟨.characters, "unacceptable character #x" ++ String.ofList (Text.hex 4 c.toNat) ++
    ": special characters are not allowed\n  in \"<unicode string>\", position " ++
    toString position⟩

/-- The graph of the document of a text, if it has one. -/
def graph? (cs : List Char) : Except Complaint (Option Graph) := do
  match ← Document.ofText? cs with
  | none => return none
  | some d => some <$> Graph.ofDocument d

/-- The data of a text; an empty text is null. -/
def load (text : String) : Except Problem Value :=
  let cs := text.toList
  match cs.dropWhile isAllowed with
  | c :: rest => .error (characterProblem c (cs.length - rest.length - 1))
  | [] =>
      match graph? cs with
      | .ok (some g) => .ok g.value
      | .ok none => .ok .null
      | .error complaint => .error (complaint.toProblem cs)

end Yaml
end AccessPolicy
