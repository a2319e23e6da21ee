import BoundaryRules.Unicode.Text

/-!
Line-oriented texts, and faults of a line. A line ends with a line feed, or with a carriage return
before it; what follows the last line feed is a line only if it is not empty.
-/
namespace BoundaryRules

/-- A finished line, held with its last character first, without a carriage return at its end. -/
def finishLine : List Char → List Char
  | '\r' :: line => line.reverse
  | line => line.reverse

/-- Lines of what follows an unfinished line, held with its last character first. -/
def linesFrom (line : List Char) : List Char → List (List Char)
  | [] => if line.isEmpty then [] else [line.reverse]
  | c :: text =>
    if c = '\n' then finishLine line :: linesFrom [] text else linesFrom (c :: line) text

def lines (text : List Char) : List (List Char) := linesFrom [] text

/-- Whether a line defines nothing: it is blank, or its first character is `#`. -/
def isIgnorable (line : List Char) : Bool := line.head? == some '#' || Unicode.isBlank line

/-- The lines that define something, with their positions counted from one. -/
def definitionLines (text : List Char) : List (Nat × List Char) :=
  (((lines text).zipIdx 1).filter fun (line, _) => !isIgnorable line).map fun (line, n) => (n, line)

/-- What is wrong with a line, with the line as written and its position if it is one of many. -/
structure LineFault (ε : Type) where
  line : String
  number : Option Nat
  reason : ε
deriving DecidableEq, Repr

/-- The reason and the line, with the position in front. -/
def LineFault.message {ε : Type} (describe : ε → String) (fault : LineFault ε) : String :=
  let reason := describe fault.reason
  let line := fault.line
  match fault.number with
  | some number => s!"line {number}: {reason} in `{line}`"
  | none => s!"{reason} in `{line}`"

end BoundaryRules
