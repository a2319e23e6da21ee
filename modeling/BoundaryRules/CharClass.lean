import BoundaryRules.ClassName
import BoundaryRules.Text.Escape

/-!
Character classes: named lists of code point ranges. Records of one name are parts of one class,
which `mergeByName` puts together.
-/
namespace BoundaryRules

/-- The code points from `first` to `last`. -/
structure CodepointRange where
  first : Nat
  last : Nat
  first_le_last : first ≤ last
deriving DecidableEq, Repr

namespace CodepointRange

/-- The range with the given ends, in either order. -/
def ofEnds (a b : Nat) : CodepointRange :=
  if h : a ≤ b then ⟨a, b, h⟩ else ⟨b, a, by omega⟩

def single (n : Nat) : CodepointRange := ⟨n, n, Nat.le_refl n⟩

def contains (range : CodepointRange) (n : Nat) : Bool := range.first ≤ n && n ≤ range.last

/-- Hexadecimal, with at least four digits for each end. -/
def text (range : CodepointRange) : String :=
  if range.first = range.last then String.ofList (Hex.padded 4 range.first)
  else String.ofList (Hex.padded 4 range.first) ++ ".." ++ String.ofList (Hex.padded 4 range.last)

end CodepointRange

structure CharClass where
  name : String
  ranges : List CodepointRange
deriving DecidableEq, Repr

namespace CharClass

/-- A class under the normalized form of `name`. -/
def named (name : String) (ranges : List CodepointRange) : CharClass := ⟨normalizeName name, ranges⟩

def contains (cls : CharClass) (n : Nat) : Bool := cls.ranges.any (·.contains n)

/-- `cls` with the ranges of a further record of its name. -/
def absorb (cls other : CharClass) : CharClass := ⟨cls.name, cls.ranges ++ other.ranges⟩

@[simp] theorem name_absorb (cls other : CharClass) : (cls.absorb other).name = cls.name := rfl

/-- The name, and after it the ranges if there are any. -/
def text (cls : CharClass) : String :=
  if cls.ranges.isEmpty then cls.name
  else cls.name ++ "(" ++ ",".intercalate (cls.ranges.map (·.text)) ++ ")"

/-- Adds a record to the class of its name, or at the end as a new class. -/
def mergeInto (classes : List CharClass) (record : CharClass) : List CharClass :=
  match classes with
  | [] => [record]
  | cls :: more =>
    if cls.name = record.name then cls.absorb record :: more else cls :: mergeInto more record

/-- One class for each name, in the order of the first records. -/
def mergeByName (records : List CharClass) : List CharClass := records.foldl mergeInto []

end CharClass
end BoundaryRules
