import BoundaryRules.CharClass
import BoundaryRules.Text.Lines

/-!
Class records, the lines `HEX[..HEX] ; NAME [# comment]` of a class definition text.
-/
namespace BoundaryRules.ClassRecord

/-- Why a line is no record. -/
inductive Reason where
  | shape
  | outOfRange (numeral : String)
  | inverted (first last : Nat)
deriving DecidableEq, Repr

def Reason.message : Reason → String
  | shape => "expected `HEX[..HEX] ; NAME [# comment]`"
  | outOfRange numeral => s!"codepoint {numeral} is out of range"
  | inverted first last =>
    let first := String.ofList (Hex.padded 4 first)
    let last := String.ofList (Hex.padded 4 last)
    s!"range start {first} is above its end {last}"

abbrev Fault := LineFault Reason

/-- The parts of a record as written. -/
structure Parts where
  first : List Char
  last : Option (List Char)
  name : List Char
deriving DecidableEq, Repr

def maxCodepoint : Nat := 0x10FFFF

def isNameChar (c : Char) : Bool := !Unicode.isWhiteSpace c && c != ';' && c != '#'

/-- The numeral after `..`, if there is one, and what follows. Dots without a numeral are left
where they stand. -/
def splitLast (text : List Char) : Option (List Char) × List Char :=
  match text with
  | '.' :: '.' :: after =>
    if (after.takeWhile Hex.isDigit).isEmpty then (none, text)
    else (some (after.takeWhile Hex.isDigit), after.dropWhile Hex.isDigit)
  | _ => (none, text)

/-- The name after the semicolon, if only white space and a comment of one line follow it. -/
def splitName? (text : List Char) : Option (List Char) :=
  let text := text.dropWhile Unicode.isWhiteSpace
  let name := text.takeWhile isNameChar
  if name.isEmpty then none
  else match (text.dropWhile isNameChar).dropWhile Unicode.isWhiteSpace with
    | [] => some name
    | '#' :: comment => if comment.contains '\n' then none else some name
    | _ => none

/-- Splits a line of the record format. -/
def split? (line : List Char) : Option Parts :=
  let line := line.dropWhile Unicode.isWhiteSpace
  let first := line.takeWhile Hex.isDigit
  if first.isEmpty then none
  else
    let (last, rest) := splitLast (line.dropWhile Hex.isDigit)
    match rest.dropWhile Unicode.isWhiteSpace with
    | ';' :: rest => (splitName? rest).map (⟨first, last, ·⟩)
    | _ => none

def codepoint (numeral : List Char) : Except Reason Nat :=
  if Hex.value numeral ≤ maxCodepoint then .ok (Hex.value numeral)
  else .error (.outOfRange (String.ofList numeral))

/-- The class of one range that split parts define. -/
def Parts.toClass (parts : Parts) : Except Reason CharClass := do
  let first ← codepoint parts.first
  let last ← match parts.last with
    | some numeral => codepoint numeral
    | none => .ok first
  if h : first ≤ last then
    .ok (.named (String.ofList parts.name) [⟨first, last, h⟩])
  else .error (.inverted first last)

/-- Reads one line. -/
def read (line : List Char) : Except Reason CharClass :=
  match split? line with
  | some parts => parts.toClass
  | none => .error .shape

def readLine (number : Option Nat) (line : List Char) : Except Fault CharClass :=
  (read line).mapError fun reason => ⟨String.ofList line, number, reason⟩

/-- Reads every line that defines something, each on its own. -/
def readLines (text : List Char) : List (Nat × Except Fault CharClass) :=
  (definitionLines text).map fun (n, line) => (n, readLine (some n) line)

/-- Reads a text whose lines are all well formed; records of one name are merged. -/
def readAll (text : List Char) : Except Fault (List CharClass) :=
  ((readLines text).mapM Prod.snd).map CharClass.mergeByName

end BoundaryRules.ClassRecord
