import BoundaryRules.Toml.Lexeme
import BoundaryRules.Toml.Scalar

/-!
TOML documents. Statements are read one after the other into a tree of tables, in which each table
knows how it came about: that decides what may still be added to it.
-/
namespace BoundaryRules.Toml

/-- How a table came about. -/
inductive Origin where
  /-- By a header of its own, or as an inline table. -/
  | declared
  /-- By a header of a table inside it. -/
  | implied
  /-- By a dotted key. -/
  | dotted
deriving DecidableEq, Repr

/-- A document under construction. -/
inductive Tree where
  | leaf (value : Value)
  | table (origin : Origin) (entries : List (String × Tree))
  /-- An array of tables, the last one first. -/
  | tables (items : List (List (String × Tree)))

abbrev Entries := List (String × Tree)

namespace Tree

mutual

/-- The value that a tree stands for. -/
def toValue : Tree → Value
  | leaf value => value
  | table _ entries => .table (toEntries entries)
  | tables items => .array (toItems items).reverse

def toEntries : List (String × Tree) → List (String × Value)
  | [] => []
  | (key, tree) :: entries => (key, tree.toValue) :: toEntries entries

def toItems : List (List (String × Tree)) → List Value
  | [] => []
  | entries :: items => .table (toEntries entries) :: toItems items

end

def find? (entries : Entries) (key : String) : Option Tree :=
  (entries.find? (·.1 = key)).map (·.2)

/-- Sets the tree under a key. -/
def put (entries : Entries) (key : String) (tree : Tree) : Entries :=
  match entries with
  | [] => [(key, tree)]
  | entry :: more => if entry.1 = key then (key, tree) :: more else entry :: put more key tree

/-- Changes the table at the end of a path, making the tables on the way. A dotted path goes
through no table with a header of its own, unless through the last one of an array. -/
def change (dotted : Bool) (path : List String)
    (f : Origin → Entries → Except Fault (Origin × Entries)) (origin : Origin)
    (entries : Entries) : Except Fault (Origin × Entries) :=
  match path with
  | [] => f origin entries
  | key :: path =>
    match find? entries key with
    | none => do
      let (o, e) ← change dotted path f (if dotted then .dotted else .implied) []
      return (origin, put entries key (.table o e))
    | some (.table o e) =>
      if dotted ∧ o = .declared then .error (.duplicateKey key)
      else do
        let (o, e) ← change dotted path f o e
        return (origin, put entries key (.table o e))
    | some (.tables (last :: items)) => do
      let (_, e) ← change dotted path f .declared last
      return (origin, put entries key (.tables (e :: items)))
    | some _ => .error (.notExtensible key)

/-- Adds a value under a key that the table does not have. Dotted keys and plain ones do not add
to the same table. -/
def addValue (dotted : Bool) (key : String) (value : Value) (origin : Origin)
    (entries : Entries) : Except Fault (Origin × Entries) :=
  if (origin = .dotted) ≠ dotted then .error (.duplicateKey key)
  else match find? entries key with
    | none => .ok (origin, put entries key (.leaf value))
    | some _ => .error (.duplicateKey key)

/-- Adds a value under a path of keys, relative to a table. -/
def addPair (keys : List String) (value : Value) (origin : Origin) (entries : Entries) :
    Except Fault (Origin × Entries) :=
  change true keys.dropLast (addValue (1 < keys.length) (keys.getLastD "") value) origin entries

/-- Declares a table. One that was implied before is declared now. -/
def declareTable (key : String) (origin : Origin) (entries : Entries) :
    Except Fault (Origin × Entries) :=
  match find? entries key with
  | none => .ok (origin, put entries key (.table .declared []))
  | some (.table .implied e) => .ok (origin, put entries key (.table .declared e))
  | some _ => .error (.duplicateKey key)

/-- Declares a further table of an array. -/
def declareItem (key : String) (origin : Origin) (entries : Entries) :
    Except Fault (Origin × Entries) :=
  match find? entries key with
  | none => .ok (origin, put entries key (.tables [[]]))
  | some (.tables items) => .ok (origin, put entries key (.tables ([] :: items)))
  | some _ => .error (.duplicateKey key)

end Tree

/-- What was read of lexemes, and those after it. -/
abbrev Read (α : Type) := Except Fault (α × List Lexeme)

def skipBlank : List Lexeme → List Lexeme
  | .blank _ :: lexemes => skipBlank lexemes
  | lexemes => lexemes

def skipSpace : List Lexeme → List Lexeme
  | .blank _ :: lexemes => skipSpace lexemes
  | .newline :: lexemes => skipSpace lexemes
  | lexemes => lexemes

def isKeyChar (c : Char) : Bool := c.isAlphanum || c == '_' || c == '-'

/-- One part of a key, and what follows it. -/
def readKey? : List Lexeme → Option (String × List Lexeme)
  | .bare key :: lexemes => if key.toList.all isKeyChar then some (key, lexemes) else none
  | .quoted false key :: lexemes => some (key, lexemes)
  | _ => none

/-- The parts of a key with dots between them. -/
def readKeys : Nat → List Lexeme → Read (List String)
  | 0, _ => .error .keyExpected
  | fuel + 1, lexemes =>
    match readKey? (skipBlank lexemes) with
    | none => .error .keyExpected
    | some (key, lexemes) =>
      match skipBlank lexemes with
      | .mark '.' :: lexemes => (readKeys fuel lexemes).map fun (keys, rest) => (key :: keys, rest)
      | lexemes => .ok ([key], lexemes)

/-- How deep arrays and inline tables may be nested, and how many parts a key may have. -/
def depthLimit : Nat := 80

/-- A key as the path of its parts. -/
def readPath (lexemes : List Lexeme) : Read (List String) :=
  match readKeys lexemes.length lexemes with
  | .ok (keys, rest) => if keys.length ≤ depthLimit then .ok (keys, rest) else .error .tooDeep
  | .error fault => .error fault

/-- The text of an unquoted value, of which dots are a part. -/
def readScalarText (text : String) : List Lexeme → String × List Lexeme
  | .bare more :: lexemes => readScalarText (text ++ more) lexemes
  | .mark '.' :: lexemes => readScalarText (text ++ ".") lexemes
  | lexemes => (text, lexemes)

/-- An unquoted value. A date may be followed by a space and a time. -/
def readScalar (lexemes : List Lexeme) : Read Value :=
  let (text, rest) := readScalarText "" lexemes
  let (text, rest) :=
    match Scalar.readDate? text.toList, rest with
    | some [], .blank " " :: .bare time :: more =>
      if time.toList.head?.any Numeral.isDigit then
        readScalarText (text ++ " ") (.bare time :: more)
      else (text, rest)
    | _, _ => (text, rest)
  match Scalar.read? text with
  | some value => .ok (value, rest)
  | none => .error (.invalidScalar text)

mutual

/-- Reads a value. The fuel bounds the number of lexemes, and `room` how deep it is nested. -/
def readValue : Nat → Nat → List Lexeme → Read Value
  | 0, _, _ => .error .valueExpected
  | fuel + 1, room, lexemes =>
    match lexemes with
    | .quoted _ text :: rest => .ok (.string text, rest)
    | .mark '[' :: rest =>
      if room = 0 then .error .tooDeep
      else (readItems fuel (room - 1) [] rest).map fun (items, rest) => (.array items, rest)
    | .mark '\x7b' :: rest =>
      if room = 0 then .error .tooDeep else readInline fuel (room - 1) [] rest
    | .bare _ :: _ => readScalar lexemes
    | .mark '.' :: _ => readScalar lexemes
    | _ => .error .valueExpected

/-- Reads the items of an array up to its end; `items` holds those before, the last one first. -/
def readItems : Nat → Nat → List Value → List Lexeme → Read (List Value)
  | 0, _, _, _ => .error .unterminatedArray
  | fuel + 1, room, items, lexemes =>
    match skipSpace lexemes with
    | .mark ']' :: rest => .ok (items.reverse, rest)
    | [] => .error .unterminatedArray
    | lexemes =>
      match readValue fuel room lexemes with
      | .error fault => .error fault
      | .ok (item, rest) =>
        match skipSpace rest with
        | .mark ',' :: rest => readItems fuel room (item :: items) rest
        | .mark ']' :: rest => .ok ((item :: items).reverse, rest)
        | _ => .error .unterminatedArray

/-- Reads the pairs of an inline table up to its end. Lines may end anywhere but inside a key. -/
def readInline : Nat → Nat → Entries → List Lexeme → Read Value
  | 0, _, _, _ => .error .unterminatedTable
  | fuel + 1, room, entries, lexemes =>
    match skipSpace lexemes with
    | .mark '\x7d' :: rest => .ok (.table (Tree.toEntries entries), rest)
    | [] => .error .unterminatedTable
    | lexemes =>
      match readPath lexemes with
      | .error fault => .error fault
      | .ok (keys, rest) =>
        match skipSpace rest with
        | .mark '=' :: rest =>
          match readValue fuel room (skipSpace rest) with
          | .error fault => .error fault
          | .ok (value, rest) =>
            match Tree.addPair keys value .declared entries with
            | .error fault => .error fault
            | .ok (_, entries) =>
              match skipSpace rest with
              | .mark ',' :: rest => readInline fuel room entries rest
              | .mark '\x7d' :: rest => .ok (.table (Tree.toEntries entries), rest)
              | _ => .error .unterminatedTable
        | _ => .error .equalsExpected

end

/-- A statement of a document. -/
inductive Statement where
  | pair (keys : List String) (value : Value)
  | header (keys : List String)
  | itemHeader (keys : List String)

/-- Reads one statement. -/
def readStatement (lexemes : List Lexeme) : Read Statement :=
  match lexemes with
  | .mark '[' :: .mark '[' :: rest =>
    match readPath rest with
    | .ok (keys, .mark ']' :: .mark ']' :: rest) => .ok (.itemHeader keys, rest)
    | .ok _ => .error .unterminatedHeader
    | .error fault => .error fault
  | .mark '[' :: rest =>
    match readPath rest with
    | .ok (keys, .mark ']' :: rest) => .ok (.header keys, rest)
    | .ok _ => .error .unterminatedHeader
    | .error fault => .error fault
  | _ =>
    match readPath lexemes with
    | .ok (keys, .mark '=' :: rest) =>
      (readValue rest.length depthLimit (skipBlank rest)).map fun (value, rest) =>
        (.pair keys value, rest)
    | .ok _ => .error .equalsExpected
    | .error fault => .error fault

/-- A document that was read in part: its tables, and the path of the one that pairs are added
to. -/
structure Draft where
  entries : Entries
  current : List String

namespace Draft

/-- Adds what a statement says. -/
def add (draft : Draft) : Statement → Except Fault Draft
  | .pair keys value => do
    let (_, entries) ←
      Tree.change false draft.current (Tree.addPair keys value) .declared draft.entries
    return { draft with entries }
  | .header keys => do
    let (_, entries) ←
      Tree.change false keys.dropLast (Tree.declareTable (keys.getLastD "")) .declared draft.entries
    return ⟨entries, keys⟩
  | .itemHeader keys => do
    let (_, entries) ←
      Tree.change false keys.dropLast (Tree.declareItem (keys.getLastD "")) .declared draft.entries
    return ⟨entries, keys⟩

/-- Adds the statements of lexemes, each up to the end of its line. -/
def addAll : Nat → Draft → List Lexeme → Except Fault Draft
  | 0, draft, _ => .ok draft
  | fuel + 1, draft, lexemes =>
    match skipSpace lexemes with
    | [] => .ok draft
    | lexemes => do
      let (statement, rest) ← readStatement lexemes
      let draft ← draft.add statement
      match skipBlank rest with
      | [] => return draft
      | .newline :: rest => addAll fuel draft rest
      | _ => .error .endOfLineExpected

end Draft

/-- Reads a document as its top table. -/
def read (text : List Char) : Except Fault (List (String × Value)) := do
  let lexemes ← Lexeme.scan text
  let draft ← Draft.addAll (lexemes.length + 1) ⟨[], []⟩ lexemes
  return Tree.toEntries draft.entries

end BoundaryRules.Toml
