import AccessPolicy.CommandLine.Outcome
import AccessPolicy.Terminal.Pictogram.Known

/-!
# The program

`main` carries out its arguments on the files of the working directory.  The program hosts
no check functions, so that policies whose rules need none can be inspected and decided.
-/

namespace AccessPolicy
namespace CommandLine

/-- A host program without functions, modules and types. -/
def emptyEnvironment : Environment where
  apply := fun _ _ => .error .wrongType
  importable := []
  classMembers := fun _ => []
  callback := fun _ => none
  signs := Pictogram.sign?

/-- The file that a command needs, if it exists. -/
def readFiles (args : List String) : IO Files := do
  match Invocation.read args with
  | .command c =>
      try
        let text ← IO.FS.readFile c.policy.path
        return [(c.policy.path, text)]
      catch _ => return []
  | _ => return []

/-- Writes what an outcome has to say, and gives its exit code. -/
def conclude (outcome : Outcome) : IO UInt32 := do
  IO.print outcome.output
  match outcome with
  | .crash failure => IO.eprintln failure.message
  | .exit _ _ => pure ()
  return outcome.code.toUInt32

def runProgram (args : List String) : IO UInt32 := do
  let files ← readFiles args
  match (run emptyEnvironment files args).outcome with
  | .ok outcome => conclude outcome
  | .error failure => conclude (.crash failure)

end CommandLine
end AccessPolicy

def main (args : List String) : IO UInt32 :=
  AccessPolicy.CommandLine.runProgram args
