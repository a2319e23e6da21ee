import BoundaryRules.Bisection
import BoundaryRules.CharClass
import BoundaryRules.StableSort

/-!
Class indexes. An index numbers the classes of a grammar, the four built-in ones first, and finds
the class of each code point by bisection over the ranges of all classes.
-/
namespace BoundaryRules

/-- The position of a class in its index. -/
structure ClassId where
  index : Nat
deriving DecidableEq, Repr

namespace ClassId

/-- The edge before the text. -/
def start : ClassId := ⟨0⟩

/-- The edge after the text. -/
def stop : ClassId := ⟨1⟩

/-- The wildcard of rule contexts. -/
def any : ClassId := ⟨2⟩

/-- What no class of the grammar covers. -/
def other : ClassId := ⟨3⟩

def isBuiltIn (id : ClassId) : Bool := id.index < builtInNames.length

end ClassId

/-- A range of one class in an index. -/
structure Interval where
  range : CodepointRange
  id : ClassId
deriving DecidableEq, Repr

/-- Two classes with ranges that share the code point `at`. -/
structure Overlap where
  former : String
  latter : String
  codepoint : Nat
deriving DecidableEq, Repr

/-- The map from the names of classes to their identifiers. -/
def ClassId.byName (classes : List CharClass) : List (String × ClassId) :=
  classes.zipIdx.map fun (cls, i) => (cls.name, ⟨i⟩)

structure ClassIndex where
  classes : List CharClass
  byName : List (String × ClassId)
  intervals : Array Interval
  byName_eq : byName = ClassId.byName classes
deriving DecidableEq, Repr

namespace ClassIndex

/-- Why classes cannot be indexed. -/
inductive Fault where
  | reservedName (name : String)
  | tooManyClasses (count : Nat)
deriving DecidableEq, Repr

/-- Identifiers have sixteen bits. -/
def maxClasses : Nat := 65536

def builtIns : List CharClass := builtInNames.map (CharClass.named · [])

/-- Adds a class to those collected so far. -/
def collect (classes : List CharClass) (cls : CharClass) : Except Fault (List CharClass) :=
  if isReservedName cls.name then .error (.reservedName cls.name)
  else if classes.any (·.name = cls.name) || classes.length < maxClasses then
    .ok (CharClass.mergeInto classes cls)
  else .error (.tooManyClasses classes.length)

/-- The ranges of all classes, in the order of definition. -/
def intervalsOf (classes : List CharClass) : List Interval :=
  classes.zipIdx.flatMap fun (cls, i) => cls.ranges.map fun range => ⟨range, ⟨i⟩⟩

/-- Indexes collected classes. Of ranges with one start the last defined one comes last. -/
def ofCollected (classes : List CharClass) : ClassIndex where
  classes := classes
  byName := ClassId.byName classes
  intervals :=
    (sortStable (fun a b => a.range.first ≤ b.range.first) (intervalsOf classes)).toArray
  byName_eq := rfl

/-- Indexes classes; those of one name are merged. -/
def build (classes : List CharClass) : Except Fault ClassIndex :=
  (classes.foldlM collect builtIns).map ofCollected

/-- The class of a code point: that of the last range that starts at or before it, if the range
reaches it. -/
def resolve (index : ClassIndex) (n : Nat) : ClassId :=
  match lastAtMost? (·.range.first) index.intervals n with
  | some interval => if n ≤ interval.range.last then interval.id else .other
  | none => .other

def classOf (index : ClassIndex) (c : Char) : ClassId := index.resolve c.toNat

/-- The class with exactly this name. -/
def exactId? (index : ClassIndex) (name : String) : Option ClassId :=
  (index.byName.find? (·.1 = name)).map (·.2)

/-- A name is found in the map where its class stands among the classes. -/
theorem find?_byName (classes : List CharClass) (name : String) :
    ((ClassId.byName classes).find? (·.1 = name)).map (·.2) =
      (classes.findIdx? (·.name = name)).map ClassId.mk := by
  rw [List.findIdx?_eq_findSome?_zipIdx, ClassId.byName]
  induction classes.zipIdx with
  | nil => rfl
  | cons entry more ih =>
    by_cases h : entry.1.name = name
    · simp [h]
    · simpa [h] using ih

theorem exactId?_eq (index : ClassIndex) (name : String) :
    index.exactId? name = (index.classes.findIdx? (·.name = name)).map ClassId.mk := by
  rw [exactId?, index.byName_eq, find?_byName]

/-- The class with this name in any spelling. -/
def id? (index : ClassIndex) (name : String) : Option ClassId :=
  index.exactId? name <|> index.exactId? (normalizeName name)

def class? (index : ClassIndex) (id : ClassId) : Option CharClass := index.classes[id.index]?

/-- The name of a class of this index. -/
def nameOf (index : ClassIndex) (id : ClassId) : String := (index.class? id).elim "" (·.name)

def size (index : ClassIndex) : Nat := index.classes.length

/-- Whether only the built-in classes are there. -/
def isEmpty (index : ClassIndex) : Bool := index.size = builtInNames.length

/-- The overlaps between neighbours in the table of ranges. -/
def overlapsOf (index : ClassIndex) : List Interval → List Overlap
  | a :: b :: more =>
    let rest := overlapsOf index (b :: more)
    if b.range.first ≤ a.range.last ∧ b.id ≠ a.id then
      ⟨index.nameOf a.id, index.nameOf b.id, b.range.first⟩ :: rest
    else rest
  | _ => []

def overlaps (index : ClassIndex) : List Overlap := index.overlapsOf index.intervals.toList

end ClassIndex
end BoundaryRules
