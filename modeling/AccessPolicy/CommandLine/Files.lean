import AccessPolicy.Text.Split

/-!
# Files of a working directory

The texts of some files, by their paths below the working directory.  Where a file lies,
its directories exist.
-/

namespace AccessPolicy
namespace CommandLine

/-- The texts of files by path. -/
abbrev Files := List (String × String)

/-- What lies at a path. -/
inductive FileEntry where
  | text (content : String)
  | directory
deriving DecidableEq, Repr

namespace Files

/-- The names on a path from the working directory down; a step up removes a name. -/
def below? : List String → List String → Option (List String)
  | reversed, [] => some reversed.reverse
  | reversed, name :: rest =>
      if name = "" ∨ name = "." then below? reversed rest
      else if name = ".." then
        match reversed with
        | _ :: up => below? up rest
        | [] => none
      else below? (name :: reversed) rest

/-- The names on a path, if it stays below the working directory. -/
def names? (path : String) : Option (List String) :=
  if path.toList.head? = some '/' then none
  else below? [] (Text.split '/' path)

/-- Whether a path leads to a directory on the way to some file. -/
def isDirectory (files : Files) (names : List String) : Bool :=
  names.isEmpty ||
    files.any fun f =>
      match names? f.1 with
      | some ns => ns.take names.length == names
      | none => false

/-- What lies at a path, if something does; a path may be written in several ways. -/
def entry? (files : Files) (path : String) : Option FileEntry :=
  match files.lookup path, names? path with
  | some text, _ => some (.text text)
  | none, none => none
  | none, some names =>
      match files.find? (fun f => names? f.1 == some names) with
      | some f => some (.text f.2)
      | none => if isDirectory files names then some .directory else none

end Files
end CommandLine
end AccessPolicy
