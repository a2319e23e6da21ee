import BoundaryRules.Unicode.Text

/-!
Names of character classes, and tables of aliases, which rule lines use as short names for several
classes. Names are compared in capitals and without white space around them; four of them are
reserved for the built-in classes.
-/
namespace BoundaryRules

/-- The spelling that all others of the same name are reduced to. -/
def normalizeName (name : String) : String :=
  String.ofList (Unicode.toUpper (Unicode.trim name.toList))

/-- The built-in classes: the edges of the text, the wildcard, and whatever no class covers. -/
def builtInNames : List String := ["SOT", "EOT", "ANY", "OTHER"]

/-- Whether `name` is a spelling of a built-in class's name. -/
def isReservedName (name : String) : Bool := builtInNames.contains (normalizeName name)

/-- Aliases with their classes, all names normalized, in the order of first definition. -/
structure Aliases where
  entries : List (String × List String) := []
deriving DecidableEq, Repr

namespace Aliases

/-- Defines an alias, or gives a defined one new classes. -/
def insert (table : Aliases) (name : String) (classes : List String) : Aliases :=
  ⟨put table.entries⟩
where
  put : List (String × List String) → List (String × List String)
    | [] => [(normalizeName name, classes.map normalizeName)]
    | entry :: more =>
      if entry.1 = normalizeName name then (entry.1, classes.map normalizeName) :: more
      else entry :: put more

def ofList (entries : List (String × List String)) : Aliases :=
  entries.foldl (fun table entry => table.insert entry.1 entry.2) {}

def get? (table : Aliases) (name : String) : Option (List String) :=
  (table.entries.find? (·.1 = normalizeName name)).map (·.2)

def size (table : Aliases) : Nat := table.entries.length

def isEmpty (table : Aliases) : Bool := table.entries.isEmpty

/-- The classes that a name in a rule line stands for: those of the alias, or the class itself. -/
def expand (table : Aliases) (name : String) : List String :=
  (table.get? name).getD [normalizeName name]

end Aliases
end BoundaryRules
