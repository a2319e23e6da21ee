/-!
Enumeration of the choices of one element from each of several groups. The positions of a choice
turn like the wheels of an odometer, the last one fastest.
-/
namespace BoundaryRules

variable {α : Type}

/-- Groups, and the positions of the choice that comes next unless all have been made. -/
structure Odometer (α : Type) where
  groups : List (List α)
  positions : Option (List Nat)
deriving Repr

namespace Odometer

/-- The number of choices. -/
def total (groups : List (List α)) : Nat := (groups.map List.length).foldr (· * ·) 1

/-- Stands at the first choice. An empty group leaves none. -/
def start (groups : List (List α)) : Odometer α where
  groups := groups
  positions := if groups.any List.isEmpty then none else some (groups.map fun _ => 0)

/-- The positions after the given ones: the last wheel that can turn does, and those after it go
back to zero. -/
def advance : List (List α) → List Nat → Option (List Nat)
  | group :: groups, p :: ps =>
    match advance groups ps with
    | some next => some (p :: next)
    | none => if p + 1 < group.length then some ((p + 1) :: groups.map fun _ => 0) else none
  | _, _ => none

/-- The elements at the given positions. -/
def pick : List (List α) → List Nat → List α
  | group :: groups, p :: ps => (group[p]?).toList ++ pick groups ps
  | _, _ => []

/-- The next choice, and the odometer turned past it. -/
def next? (odometer : Odometer α) : Option (List α × Odometer α) :=
  odometer.positions.map fun positions =>
    (pick odometer.groups positions,
      { odometer with positions := advance odometer.groups positions })

/-- Up to `n` further choices. -/
def take : Nat → Odometer α → List (List α)
  | 0, _ => []
  | n + 1, odometer =>
    match odometer.next? with
    | some (choice, rest) => choice :: take n rest
    | none => []

end Odometer

/-- All choices of one element from each group. -/
def combinations (groups : List (List α)) : List (List α) :=
  (Odometer.start groups).take (Odometer.total groups)

end BoundaryRules
