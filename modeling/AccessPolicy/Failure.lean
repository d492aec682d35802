import AccessPolicy.Fault.Basic
import AccessPolicy.Yaml.Problem

/-!
# Failures

Everything that can end an operation early.  A failure is a coded fault, a list of
problems found while validating data, a shorthand that has no reading, something that
code of the host program raises, or one of the plain causes below.  `Failure.message` words
each of them.

**Exceptions.**  Whoever looks after failures looks after exceptions.  All failures of the
library are exceptions, but the host program may raise something else: an exit from the
program, or an interrupt.  `Failure.exitCode?` tells these apart.
-/

namespace AccessPolicy

/-- One step of the way from a model to a part of its data. -/
inductive Step where
  | name (s : String)
  | index (i : Int)
deriving DecidableEq, Repr

/-- What is wrong with a part of the data of a model. -/
inductive ProblemKind where
  | missing
  | extraForbidden
  | invalidKey
  | textExpected
  | textTooShort
  | textUnreadable
  | boolExpected
  | boolUnreadable
  | mapExpected
  | modelExpected
  | notAMember
  | frozen
  | refused (message : String)
deriving DecidableEq, Repr

/-- A problem and where it lies. -/
structure Problem where
  kind : ProblemKind
  path : List Step
deriving DecidableEq, Repr

/-- The problems of the data of a model, in the order of its fields. -/
structure Invalidity where
  title : String
  problems : List Problem
deriving DecidableEq, Repr

/-- Something that code of the host program raises on its own. -/
structure Raised where
  kind : String
  message : String
  /-- If it is no exception: the exit code of a program in which only exceptions are looked
  after.  The same stands for an exception that has no text to be reported. -/
  exitCode? : Option Nat := none
deriving DecidableEq, Repr

/-- Why an operation ended early. -/
inductive Failure where
  | fault (f : Fault)
  | invalid (i : Invalidity)
  | invalidCheck (raw : Value)
  | invalidHook (raw : Value)
  | invalidMetadata (entry : Value)
  | notCallable (given : Value)
  | namelessFunction
  | emptyModulePath
  | moduleNotFound (name : String) (parent : Option String)
  | attributeNotFound (module member : String)
  | fileNotFound
  | unreadable (problem : Yaml.Problem)
  | wrongType
  | wrongCount
  | wrongValue
  | outOfRange
  | divisionByZero
  | unknownEncoding
  | missingIndex
  | missingAttribute
  | missingKey
  | tooDeep
  | unwritable
  | malformedMarkup
  | unknownLogLevel (name : String)
  | raised (r : Raised)
deriving Repr

namespace Failure

/-- A coded fault with nothing overridden. -/
def ofCause (cause : Cause) : Failure :=
  .fault (Fault.of cause)

/-- The failure to make a coded fault. -/
def ofFlaw : Fault.Flaw → Failure
  | .wrongType => .wrongType
  | .wrongCount => .wrongCount
  | .missingMember => .missingAttribute
  | .unwritable => .unwritable

/-- A coded fault, if it can be made. -/
def makeFault (x : Except Fault.Flaw Fault) : Except Failure Fault :=
  x.mapError ofFlaw

/-- What is said in place of a text with an integer that is too long to be written. -/
def limitMessage : String :=
  "Exceeds the limit (4300 digits) for integer string conversion; " ++
    "use sys.set_int_max_str_digits() to increase the limit"

/-- A text about a value, unless the value cannot be written. -/
def about (v : Value) (text : String) : String :=
  if v.isWritable then text else limitMessage

/-- The count of problems of a model, as a sentence. -/
def problemCount (i : Invalidity) : String :=
  let n := i.problems.length
  toString n ++ (if n = 1 then " validation error for " else " validation errors for ") ++ i.title

def message : Failure → String
  | .fault f => f.text?.getD ""
  | .invalid i => problemCount i
  | .invalidCheck raw => about raw ("Invalid check: " ++ raw.inspect)
  | .invalidHook raw => about raw ("Invalid pre-hook: " ++ raw.inspect)
  | .invalidMetadata entry => about entry ("Invalid metadata entry: " ++ entry.inspect)
  | .notCallable given => about given ("Cannot register non-callable " ++ given.inspect)
  | .unwritable => limitMessage
  | .namelessFunction => "Check function must have a non-empty name"
  | .emptyModulePath => "Empty module name"
  | .moduleNotFound name none => "No module named " ++ Text.quoted name
  | .moduleNotFound name (some parent) =>
      "No module named " ++ Text.quoted name ++ "; " ++ Text.quoted parent ++ " is not a package"
  | .attributeNotFound module member =>
      "Module " ++ module ++ " has no attribute " ++ member
  | .fileNotFound => "No such file"
  | .unreadable problem => problem.description
  | .wrongType => "Unsupported type"
  | .wrongCount => "Wrong number of parts"
  | .wrongValue => "Unsupported value"
  | .outOfRange => "Number out of range"
  | .divisionByZero => "Division by zero"
  | .unknownEncoding => "Unknown encoding"
  | .missingIndex => "No such position"
  | .missingAttribute => "No such attribute"
  | .missingKey => "No such key"
  | .tooDeep => "Too deeply nested"
  | .malformedMarkup => "Tags do not match"
  | .unknownLogLevel name => "Unknown level: " ++ Text.quoted name
  | .raised r => r.message

/-- The exit code of a program that looks after exceptions only, if a failure is none. -/
def exitCode? : Failure → Option Nat
  | .raised r => r.exitCode?
  | _ => none

/-- Whether a failure says that a value is not acceptable where it stands. -/
def isRefusal : Failure → Bool
  | .invalidCheck _ | .invalidHook _ | .invalidMetadata _ => true
  | .notCallable _ | .namelessFunction | .emptyModulePath | .wrongCount | .wrongValue => true
  | .unwritable => true
  | _ => false

end Failure
end AccessPolicy
