/-!
Bisection on sorted entries. The main statement is `lt_partitionPoint_iff`: when a predicate
holds on an initial part of a range only, bisection finds where it stops.
-/
namespace BoundaryRules

/-- The first index in `[lo, hi)` at which `p` fails, or `hi` if there is none. -/
def partitionPoint (p : Nat → Bool) (lo hi : Nat) : Nat :=
  if lo < hi then
    let mid := lo + (hi - lo) / 2
    if p mid then partitionPoint p (mid + 1) hi else partitionPoint p lo mid
  else lo
termination_by hi - lo

theorem partitionPoint_le (p : Nat → Bool) (lo hi : Nat) (h : lo ≤ hi) :
    lo ≤ partitionPoint p lo hi ∧ partitionPoint p lo hi ≤ hi := by
  fun_induction partitionPoint p lo hi with
  | case1 lo hi hlt mid hp ih => have := ih (by omega); omega
  | case2 lo hi hlt mid hp ih => have := ih (by omega); omega
  | case3 lo hi hlt => omega

theorem lt_partitionPoint_iff {p : Nat → Bool} {lo hi : Nat}
    (mono : ∀ i j, i ≤ j → p j = true → p i = true) {i : Nat} (hlo : lo ≤ i) (hhi : i < hi) :
    i < partitionPoint p lo hi ↔ p i = true := by
  fun_induction partitionPoint p lo hi with
  | case1 lo hi hlt mid hp ih =>
    by_cases hi' : mid + 1 ≤ i
    · exact ih hi' hhi
    · have := (partitionPoint_le p (mid + 1) hi (by omega)).1
      exact ⟨fun _ => mono i mid (by omega) hp, fun _ => by omega⟩
  | case2 lo hi hlt mid hp ih =>
    by_cases hi' : i < mid
    · exact ih hlo hi'
    · have := (partitionPoint_le p lo mid (by omega)).2
      exact ⟨fun _ => by omega, fun h => absurd (mono mid i (by omega) h) hp⟩
  | case3 lo hi hlt => omega

/-- The last of the entries, sorted by `key`, whose key is at most `n`. -/
def lastAtMost? {α : Type} (key : α → Nat) (entries : Array α) (n : Nat) : Option α :=
  match partitionPoint (fun i => entries[i]?.any (key · ≤ n)) 0 entries.size with
  | 0 => none
  | i + 1 => entries[i]?

end BoundaryRules
