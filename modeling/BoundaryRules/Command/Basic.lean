/-!
Commands of the program.
-/
namespace BoundaryRules

/-- The layout of a report. -/
inductive Format where
  | plain
  | json
deriving DecidableEq, Repr

namespace Format

def all : List Format := [plain, json]

def name : Format → String
  | plain => "text"
  | json => "json"

def summary : Format → String
  | plain => "Plain text, one entry per line"
  | json => "JSON array"

end Format

/-- Where a report goes, and its layout. Without a file it goes to standard output. -/
structure Target where
  file : Option String := none
  format : Format := .plain
deriving DecidableEq, Repr

structure SplitCommand where
  inputs : List String
  wordsOnly : Bool
  grammar : Option String
  target : Target
deriving DecidableEq, Repr

structure CountCommand where
  inputs : List String
  top : UInt64
  lowercase : Bool
  allSegments : Bool
  threads : Option UInt64
  grammar : Option String
  target : Target
deriving DecidableEq, Repr

inductive Command where
  /-- Splits inputs into segments. -/
  | split (command : SplitCommand)
  /-- Counts the words of inputs. -/
  | count (command : CountCommand)
  /-- Checks a grammar. -/
  | validate (grammar : String)
  | listClasses (grammar : Option String)
  | listRules (grammar : Option String)
  | listFormats
deriving DecidableEq, Repr

/-- The file that a command writes. -/
def Command.outputFile? : Command → Option String
  | split command => command.target.file
  | count command => command.target.file
  | _ => none

end BoundaryRules
