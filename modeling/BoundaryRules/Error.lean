import BoundaryRules.Description

/-!
All errors of the library and their messages.
-/
namespace BoundaryRules

inductive Error where
  | rule (invalid : Rule.Invalid)
  | load (fault : LoadFault)
  | description (fault : Description.Fault)
  | unreadable (path : String) (fault : FileFault)
  | notUtf8 (fault : Utf8.Fault)
  | emptyGrammarPath
  | zeroCapacity
  | zeroCount
deriving DecidableEq, Repr

/-- How a call ends that returns nothing: with an error, or in a panic over more memory than may be
set aside at once. -/
inductive Halt where
  | error (error : Error)
  | capacityOverflow
deriving DecidableEq, Repr

def LoadFault.message : LoadFault → String
  | record fault => "class definition error: " ++ fault.message ClassRecord.Reason.message
  | index (.reservedName name) => s!"class name '{name}' is reserved"
  | index (.tooManyClasses count) => s!"configuration error: too many classes ({count})"
  | rule fault => "rule syntax error: " ++ fault.message RuleLine.Reason.message
  | unknownClass unknown => unknown.message

def Error.message : Error → String
  | rule invalid => invalid.message
  | load fault => fault.message
  | description fault => "configuration error: " ++ fault.message
  | unreadable path fault => "failed to read " ++ path ++ ": " ++ fault.message
  | notUtf8 fault => "invalid argument: input is not valid UTF-8: " ++ fault.message
  | emptyGrammarPath => "configuration error: grammar path must not be empty"
  | zeroCapacity => "invalid argument: heap capacity must be greater than 0"
  | zeroCount => "invalid argument: requested word count must be greater than 0"

namespace Description

/-- Reads the description in a file. Its sources are looked up next to it. -/
def ofFile (files : FileTree) (path : String) (reader : Reader := ofText) :
    Except Error Description := do
  let text ← (files.readText path).mapError (.unreadable path)
  let description ← (read text reader).mapError .description
  return { description with baseDir := Path.parent? path }

/-- Loads the grammar from its sources, with the warnings on the way. -/
def loadFrom (description : Description) (files : FileTree) :
    List Warning × Except Error Ruleset :=
  let classPath := description.resolve description.classes
  let rulePath := description.resolve description.rules
  match files.readText classPath, files.readText rulePath with
  | .error fault, _ => ([], .error (.unreadable classPath fault))
  | .ok _, .error fault => ([], .error (.unreadable rulePath fault))
  | .ok classText, .ok ruleText =>
    let loading := description.load classText ruleText
    (loading.warnings, loading.result.mapError .load)

end Description
end BoundaryRules
