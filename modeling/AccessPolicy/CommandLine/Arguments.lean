import AccessPolicy.Text.Split

/-!
# Arguments of a command

A command takes options and positional arguments.

**Options.**  `--name value` and `--name=value` give an option its value; with a letter,
`-l value` and `-lvalue` do.  A flag takes no value, and the letters of several flags may
share a dash.

**Positions.**  What begins with no dash is positional, a dash alone is, and so is
everything after `--`.
-/

namespace AccessPolicy
namespace CommandLine

/-- An option that a command knows. -/
structure OptionSpec where
  name : String
  letter : Option Char
  takesValue : Bool
deriving DecidableEq, Repr

/-- An option that takes a value. -/
def OptionSpec.valued (name : String) (letter : Option Char) : OptionSpec :=
  ⟨name, letter, true⟩

/-- An option that takes no value. -/
def OptionSpec.flag (name : String) (letter : Option Char) : OptionSpec :=
  ⟨name, letter, false⟩

/-- The options that were given, in order, and the positional arguments. -/
structure Arguments where
  options : List (String × String) := []
  positions : List String := []
deriving DecidableEq, Repr

/-- What one argument says: options, of which the last may still wait for its value. -/
structure GivenOptions where
  options : List (String × String)
  waiting : Option String
deriving Repr

namespace Arguments

def has (a : Arguments) (name : String) : Bool :=
  a.options.any fun o => o.1 == name

/-- The values of an option in order. -/
def all (a : Arguments) (name : String) : List String :=
  (a.options.filter fun o => o.1 == name).map (·.2)

/-- The value of an option; the last one counts. -/
def last? (a : Arguments) (name : String) : Option String :=
  (a.all name).getLast?

def withOptions (options : List (String × String)) (a : Arguments) : Arguments :=
  { a with options := options ++ a.options }

section Reading

variable (specs : List OptionSpec)

/-- Reads the letters after a dash; a letter that takes a value takes the rest as such. -/
def readLetters : List Char → Option GivenOptions
  | [] => some ⟨[], none⟩
  | c :: rest => do
      let spec ← specs.find? fun s => s.letter == some c
      if spec.takesValue then
        if rest.isEmpty then return ⟨[], some spec.name⟩
        else return ⟨[(spec.name, String.ofList rest)], none⟩
      else
        let more ← readLetters rest
        return ⟨(spec.name, "") :: more.options, more.waiting⟩

/-- Reads the name after two dashes, with the value that may follow it. -/
def readName (name : String) : Option GivenOptions :=
  match Text.cut? '=' name with
  | some (name, value) => do
      let spec ← specs.find? fun s => s.name == name
      if spec.takesValue then return ⟨[(spec.name, value)], none⟩ else none
  | none => do
      let spec ← specs.find? fun s => s.name == name
      if spec.takesValue then return ⟨[], some spec.name⟩
      else return ⟨[(spec.name, "")], none⟩

/-- Reads arguments after an option that may wait for its value. -/
def readAfter (mixed : Bool) : Option String → List String → Option Arguments
  | none, [] => some {}
  | some _, [] => none
  | some name, value :: rest => (readAfter mixed none rest).map (withOptions [(name, value)])
  | none, arg :: rest =>
      let go := fun (r : GivenOptions) =>
        (readAfter mixed r.waiting rest).map (withOptions r.options)
      match arg.toList with
      | ['-', '-'] => some ⟨[], rest⟩
      | '-' :: '-' :: name => readName specs (String.ofList name) >>= go
      | '-' :: c :: letters => readLetters specs (c :: letters) >>= go
      | _ =>
          if mixed then
            (readAfter mixed none rest).map fun a => { a with positions := arg :: a.positions }
          else some ⟨[], arg :: rest⟩

/-- Reads arguments in which options and positional arguments are mixed. -/
def read? (args : List String) : Option Arguments :=
  readAfter specs true none args

/-- Reads options; everything from the first positional argument on is positional. -/
def readLeading? (args : List String) : Option Arguments :=
  readAfter specs false none args

end Reading

end Arguments
end CommandLine
end AccessPolicy
