/-!
# Problems of YAML texts

A YAML text is read in stages.  A problem belongs to the stage that found it and
carries its full description, with the places in the text that it is about.
-/

namespace AccessPolicy
namespace Yaml

/-- The stages of reading a YAML text.  The last ones turn scalars into data: numbers, among
them those that lie out of range or have no digits, words for truth values, forms of points
in time, and kinds of nodes that have no text; before them, collections that are nested too
deeply are refused. -/
inductive Stage where
  | characters
  | tokens
  | structures
  | anchors
  | values
  | levels
  | numbers
  | missingNumbers
  | ranges
  | words
  | forms
  | kinds
deriving DecidableEq, Repr

/-- Whether a problem of a stage is described without a place in the text: one of a scalar that
its tag does not fit, or of nested collections. -/
def Stage.isConversion : Stage → Bool
  | .levels | .numbers | .missingNumbers | .ranges | .words | .forms | .kinds => true
  | _ => false

/-- Why a text is not a YAML document of plain data. -/
structure Problem where
  stage : Stage
  description : String
deriving DecidableEq, Repr

/-- A place in a text: characters before it, line and column, all from zero. -/
structure Mark where
  index : Nat
  line : Nat
  column : Nat
deriving DecidableEq, Repr

/-- A problem before it is described: what was being read, and what is wrong where. -/
structure Complaint where
  stage : Stage
  context : Option (String × Option Mark)
  problem : String
  mark : Mark
deriving Repr

/-- Whether a character ends a line. -/
def isBreak (c : Char) : Bool :=
  c == '\n' || c == '\r' || c == '\u0085' || c == '\u2028' || c == '\u2029'

namespace Mark

/-- How far a line is shown to either side of a mark. -/
def reach : Nat := 37

/-- The end of the line before a mark, shortened at a distance from it. -/
def before (cs : List Char) (m : Mark) : List Char × List Char :=
  let line := ((cs.take m.index).reverse.takeWhile (fun c => !isBreak c)).reverse
  if reach ≤ line.length then (" ... ".toList, (line.drop (line.length - reach)).drop 5)
  else ([], line)

/-- The beginning of the line after a mark, shortened at a distance from it. -/
def after (cs : List Char) (m : Mark) : List Char :=
  let line := (cs.drop m.index).takeWhile (fun c => !isBreak c)
  if reach ≤ line.length then line.take (reach - 5) ++ " ... ".toList
  else line

/-- The place of a mark and its line, with a sign under the character. -/
def describe (cs : List Char) (m : Mark) : String :=
  let (head, start) := m.before cs
  let place :=
    "  in \"<unicode string>\", line " ++ toString (m.line + 1) ++
      ", column " ++ toString (m.column + 1) ++ ":\n"
  let indent := List.replicate 4 ' '
  let shown := indent ++ head ++ start ++ m.after cs
  let sign := indent ++ List.replicate (head.length + start.length) ' ' ++ ['^']
  place ++ String.ofList shown ++ "\n" ++ String.ofList sign

end Mark

namespace Complaint

/-- The full description of a complaint about a text. -/
def toProblem (cs : List Char) (c : Complaint) : Problem :=
  let context :=
    match c.context with
    | none => ""
    | some (text, none) => text ++ "\n"
    | some (text, some m) =>
        if m.line = c.mark.line ∧ m.column = c.mark.column then text ++ "\n"
        else text ++ "\n" ++ m.describe cs ++ "\n"
  if c.stage.isConversion then ⟨c.stage, c.problem⟩
  else ⟨c.stage, context ++ c.problem ++ "\n" ++ c.mark.describe cs⟩

end Complaint

end Yaml
end AccessPolicy
