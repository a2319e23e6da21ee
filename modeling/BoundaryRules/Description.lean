import BoundaryRules.Files.FileTree
import BoundaryRules.GrammarText
import BoundaryRules.Toml.Document

/-!
Grammar descriptions: TOML documents that name a grammar, define its aliases and say where its
classes and rules are.
-/
namespace BoundaryRules

/-- Relative sources are looked up in `baseDir`, or in the working directory if there is none. -/
structure Description where
  name : String
  summary : Option String
  /-- The aliases as written, sorted. -/
  aliases : List (String × List String)
  classes : String
  rules : String
  mode : Mode
  baseDir : Option String := none
deriving DecidableEq, Repr

namespace Description

/-- Why a text describes no grammar. -/
inductive Fault where
  | malformed (fault : Toml.Fault)
  | missing (key : String)
  | wrongType (key : String)
  | overflow (key : String)
  | emptyName
  | emptyAlias (name : String)
deriving DecidableEq, Repr

def Fault.message : Fault → String
  | malformed fault => parseFailure ++ ": " ++ fault.message
  | missing key => parseFailure ++ ": missing `" ++ key ++ "`"
  | wrongType key => parseFailure ++ ": wrong type for `" ++ key ++ "`"
  | overflow key => parseFailure ++ ": number out of range in `" ++ key ++ "`"
  | emptyName => "metadata.name must not be empty"
  | emptyAlias name => s!"macro '{name}' must name at least one class"
where
  parseFailure : String := "Failed to parse grammar config"

/-- The fields of a section, looked up by name in a table and by position in an array. A date is a
section without known fields. -/
inductive Section where
  | byName (entries : List (String × Toml.Value))
  | byPosition (items : List Toml.Value)

def Section.ofValue? : Toml.Value → Option Section
  | .table entries => some (.byName entries)
  | .array items => some (.byPosition items)
  | .date => some (.byName [])
  | _ => none

def Section.field? (part : Section) (key : String) (position : Nat) : Option Toml.Value :=
  match part with
  | .byName entries => Toml.lookup? entries key
  | .byPosition items => items[position]?

/-- The section under a key of the document. -/
def readSection (document : List (String × Toml.Value)) (key : String) :
    Except Fault (Option Section) :=
  match Toml.lookup? document key with
  | none => .ok none
  | some value => match Section.ofValue? value with
    | some found => .ok (some found)
    | none => .error (.wrongType key)

def require (key : String) : Option α → Except Fault α
  | some a => .ok a
  | none => .error (.missing key)

def readString (key : String) : Toml.Value → Except Fault String
  | .string text => .ok text
  | _ => .error (.wrongType key)

def readStrings (key : String) : Toml.Value → Except Fault (List String)
  | .array items => items.mapM (readString key)
  | _ => .error (.wrongType key)

def modeOfName? (name : String) : Option Mode :=
  if name = "strict" then some .strict
  else if name = "lenient" then some .lenient
  else none

/-- A mode by its name, or as a table with the name as its only key and nothing under it. -/
def readMode (value : Toml.Value) : Except Fault Mode :=
  match value with
  | .string name => named name
  | .table [(name, .table [])] => named name
  | .table [(name, .array [])] => named name
  | _ => .error (.wrongType "mode")
where
  named (name : String) : Except Fault Mode :=
    match modeOfName? name with
    | some mode => .ok mode
    | none => .error (.wrongType "mode")

def readAliases (document : List (String × Toml.Value)) :
    Except Fault (List (String × List String)) :=
  match Toml.lookup? document "macros" with
  | none => .ok []
  | some (.table entries) => do
    let aliases ← entries.mapM fun (name, value) => do
      return (name, ← readStrings name value)
    return sortStable (fun a b => a.1 ≤ b.1) aliases
  | some _ => .error (.wrongType "macros")

/-- Whether the numbers under a key can be represented. Of a section in an array nothing is read
past its fields, which hold no numbers. -/
def hasReadableNumbers (key : String) (value : Toml.Value) : Bool :=
  match value with
  | .array _ => sections.contains key || value.isRepresentable
  | _ => value.isRepresentable
where
  sections : List String := ["metadata", "sources", "parsing"]

def checkNumbers (document : List (String × Toml.Value)) : Except Fault Unit :=
  match document.find? fun (key, value) => !hasReadableNumbers key value with
  | some (key, _) => .error (.overflow key)
  | none => .ok ()

/-- Reads the parts of a description. Keys that mean nothing here are passed over, but what is
under them has to be readable. -/
def ofDocument (document : List (String × Toml.Value)) : Except Fault Description := do
  checkNumbers document
  let metadata ← require "metadata" (← readSection document "metadata")
  let name ← readString "name" (← require "name" (metadata.field? "name" 0))
  let summary ← (metadata.field? "description" 1).mapM (readString "description")
  let aliases ← readAliases document
  let sources ← require "sources" (← readSection document "sources")
  let classes ← readString "classes" (← require "classes" (sources.field? "classes" 0))
  let rules ← readString "rules" (← require "rules" (sources.field? "rules" 1))
  let parsing ← readSection document "parsing"
  let mode ← (parsing.bind (·.field? "mode" 0)).mapM readMode
  return { name, summary, aliases, classes, rules, mode := mode.getD .strict }

/-- A grammar has a name, and each of its aliases stands for something. -/
def check (description : Description) : Except Fault Description :=
  if Unicode.isBlank description.name.toList then .error .emptyName
  else match description.aliases.find? (·.2.isEmpty) with
    | some (name, _) => .error (.emptyAlias name)
    | none => .ok description

/-- A way to read the parts of a description. -/
abbrev Reader := List Char → Except Fault Description

/-- Reads the parts of a description in a TOML document. -/
def ofText : Reader := fun text => do
  let document ← (Toml.read text).mapError .malformed
  ofDocument document

/-- Reads a description. -/
def read (text : List Char) (reader : Reader := ofText) : Except Fault Description := do
  (← reader text).check

def aliasTable (description : Description) : Aliases := Aliases.ofList description.aliases

/-- Loads the grammar from the texts of its sources. -/
def load (description : Description) (classText ruleText : List Char) : Loading :=
  GrammarText.load description.aliasTable description.mode classText ruleText

/-- Where a source is. -/
def resolve (description : Description) (source : String) : String :=
  match description.baseDir with
  | some base => if Path.isAbsolute source then source else Path.join base source
  | none => source

end Description
end BoundaryRules
