import BoundaryRules.Error
import BoundaryRules.StableSort

/-!
Selection of the greatest of the elements offered, up to a fixed number. Room for that many elements
and one more is set aside at once. Numbers have sixty-four bits and wrap around. A machine with less
memory than what may be set aside is not looked at.
-/
namespace BoundaryRules

variable {α : Type}

/-- The elements kept so far in ascending order, at most `capacity` of them. -/
structure BestOf (α : Type) (le : α → α → Bool) where
  capacity : Nat
  held : List α := []

namespace BestOf

variable {le : α → α → Bool}

/-- The most bytes that may be set aside at once. -/
def maxBytes : Nat := 9223372036854775807

/-- Whether places for so many elements of a size in bytes, and for one more, may be set aside. -/
def Fits (elementSize : Nat) (capacity : UInt64) : Prop :=
  (capacity + 1).toNat * elementSize ≤ maxBytes

instance (elementSize : Nat) (capacity : UInt64) : Decidable (Fits elementSize capacity) :=
  inferInstanceAs (Decidable (_ ≤ _))

/-- An empty selection from elements of a size in bytes. There is a place in it, and all its places
may be set aside. -/
def ofCapacity (elementSize : Nat) (capacity : UInt64) : Except Halt (BestOf α le) :=
  if capacity = 0 then .error (.error .zeroCapacity)
  else if Fits elementSize capacity then .ok { capacity := capacity.toNat }
  else .error .capacityOverflow

/-- Offers an element. When the place is full it is kept only if it is strictly greater than the
least element, which leaves. -/
def offer (best : BestOf α le) (a : α) : Bool × BestOf α le :=
  if best.held.length < best.capacity then
    (true, { best with held := insertStable le a best.held })
  else match best.held with
    | [] => (false, best)
    | least :: others =>
      if le a least then (false, best)
      else (true, { best with held := insertStable le a others })

/-- Offers elements one after the other. -/
def extend (best : BestOf α le) (elements : List α) : BestOf α le :=
  elements.foldl (fun best a => (best.offer a).2) best

/-- A least element of those kept. -/
def least? (best : BestOf α le) : Option α := best.held.head?

def size (best : BestOf α le) : Nat := best.held.length

/-- The elements kept, the greatest first. -/
def descending (best : BestOf α le) : List α := best.held.reverse

end BestOf
end BoundaryRules
