import BoundaryRules.Bisection

/-!
Tables of Unicode data. A set of code points is held as sorted, disjoint, inclusive ranges, a case
mapping of single characters as runs of code points that move by one distance, and as a list of the
characters that become several.
-/
namespace BoundaryRules.Unicode

abbrev RangeTable := Array (Nat × Nat)

/-- Membership by bisection on the range starts. -/
def RangeTable.contains (table : RangeTable) (n : Nat) : Bool :=
  (lastAtMost? Prod.fst table n).any (n ≤ ·.2)

/-- The code points `first`, `first + step`, …, `last`, which map to `image`, `image + step`, …. -/
structure CaseRun where
  first : Nat
  last : Nat
  step : Nat
  image : Nat

namespace CaseRun

/-- The image of `n`, if `n` is of this run. -/
def image? (run : CaseRun) (n : Nat) : Option Nat :=
  if run.first ≤ n ∧ n ≤ run.last ∧ (n - run.first) % run.step = 0 then
    some (run.image + (n - run.first))
  else none

end CaseRun

/-- Both tables are sorted by code point and have none in common. -/
structure CaseMapping where
  runs : Array CaseRun
  expansions : Array (Nat × List Nat)

namespace CaseMapping

/-- The image of one character; a character in neither table is its own. -/
def apply (mapping : CaseMapping) (c : Char) : List Char :=
  match lastAtMost? Prod.fst mapping.expansions c.toNat with
  | some (n, image) => if n = c.toNat then image.map Char.ofNat else simple c
  | none => simple c
where
  simple (c : Char) : List Char :=
    match (lastAtMost? CaseRun.first mapping.runs c.toNat).bind (·.image? c.toNat) with
    | some n => [Char.ofNat n]
    | none => [c]

end CaseMapping
end BoundaryRules.Unicode
