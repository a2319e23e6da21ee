import BoundaryRules.Proofs.ClassIds

/-! What bisection over the ranges of an index finds. Where no two ranges meet, a code point is of
the class whose range it lies in. -/
namespace BoundaryRules

section Bisection

variable {α : Type} {key : α → Nat} {entries : Array α} {n : Nat} {a : α}

private theorem atMost_mono (sorted : entries.toList.Pairwise (key · ≤ key ·)) (i j : Nat)
    (hij : i ≤ j) (hj : entries[j]?.any (key · ≤ n) = true) :
    entries[i]?.any (key · ≤ n) = true := by
  rcases Nat.eq_or_lt_of_le hij with rfl | hlt
  · exact hj
  · obtain ⟨b, hb, hbn⟩ := (Option.any_eq_true _ _).mp hj
    obtain ⟨hsize, rfl⟩ := Array.getElem?_eq_some_iff.mp hb
    have hle := List.pairwise_iff_getElem.mp sorted i j (by simp; omega) (by simpa using hsize) hlt
    simp only [Array.getElem_toList] at hle
    rw [Array.getElem?_eq_getElem (by omega), Option.any_some, decide_eq_true_eq]
    exact Nat.le_trans hle (of_decide_eq_true hbn)

/-- What is found is the last entry whose key is at most `n`. -/
theorem exists_index_of_lastAtMost? (sorted : entries.toList.Pairwise (key · ≤ key ·))
    (h : lastAtMost? key entries n = some a) :
    ∃ i : Nat, entries[i]? = some a ∧ key a ≤ n ∧
      ∀ (j : Nat) b, entries[j]? = some b → key b ≤ n → j ≤ i := by
  have hpoint := fun i hi => lt_partitionPoint_iff (atMost_mono (n := n) sorted)
    (Nat.zero_le i) (hi : i < entries.size)
  have hsize := (partitionPoint_le (fun i => entries[i]?.any (key · ≤ n)) 0 entries.size
    (Nat.zero_le _)).2
  unfold lastAtMost? at h
  split at h
  next => contradiction
  next i hi =>
    refine ⟨i, h, ?_, ?_⟩
    · have hat := (hpoint i (by omega)).mp (by omega)
      simpa [h] using hat
    · intro j b hb hbn
      obtain ⟨hj, rfl⟩ := Array.getElem?_eq_some_iff.mp hb
      have hlt := (hpoint j hj).mpr (by simpa [hj] using hbn)
      omega

theorem lt_of_lastAtMost?_eq_none (sorted : entries.toList.Pairwise (key · ≤ key ·))
    (h : lastAtMost? key entries n = none) (ha : a ∈ entries) : n < key a := by
  obtain ⟨i, hi, rfl⟩ := Array.mem_iff_getElem.mp ha
  have hpoint := lt_partitionPoint_iff (atMost_mono (n := n) sorted) (Nat.zero_le i) hi
  have hsize := (partitionPoint_le (fun i => entries[i]?.any (key · ≤ n)) 0 entries.size
    (Nat.zero_le _)).2
  unfold lastAtMost? at h
  split at h
  next hzero =>
    apply Nat.lt_of_not_le
    intro hle
    rw [hzero] at hpoint
    exact Nat.not_lt_zero i (hpoint.mpr (by simpa [hi] using hle))
  next k hk =>
    rw [Array.getElem?_eq_none_iff] at h
    omega

/-- Where the entries cover intervals that do not meet, the one that covers `n` is found. -/
theorem lastAtMost?_eq_some {last : α → Nat} (hle : ∀ b ∈ entries, key b ≤ last b)
    (hseparated : entries.toList.Pairwise (last · < key ·)) (ha : a ∈ entries)
    (hkey : key a ≤ n) (hlast : n ≤ last a) : lastAtMost? key entries n = some a := by
  have hsorted : entries.toList.Pairwise (key · ≤ key ·) := by
    refine hseparated.imp_of_mem fun {b c} hb _ hlt => ?_
    exact Nat.le_of_lt (Nat.lt_of_le_of_lt (hle b (Array.mem_toList_iff.mp hb)) hlt)
  cases hfound : lastAtMost? key entries n with
  | none =>
    have := lt_of_lastAtMost?_eq_none hsorted hfound ha
    omega
  | some found =>
    obtain ⟨i, hi, hfirst, hmax⟩ := exists_index_of_lastAtMost? hsorted hfound
    obtain ⟨k, hk⟩ := Array.getElem?_of_mem ha
    rcases Nat.eq_or_lt_of_le (hmax k a hk hkey) with rfl | hlt
    · exact hi.symm.trans hk
    · obtain ⟨hksize, rfl⟩ := Array.getElem?_eq_some_iff.mp hk
      obtain ⟨hisize, rfl⟩ := Array.getElem?_eq_some_iff.mp hi
      have hgap := List.pairwise_iff_getElem.mp hseparated k i (by simpa using hksize)
        (by simpa using hisize) hlt
      simp only [Array.getElem_toList] at hgap
      omega

end Bisection

namespace ClassIndex

/-- The ranges follow one another and do not meet. -/
def Separated (index : ClassIndex) : Prop :=
  index.intervals.toList.Pairwise fun a b => a.range.last < b.range.first

variable {index : ClassIndex} {interval : Interval} {n : Nat}

theorem Separated.sorted (h : index.Separated) :
    index.intervals.toList.Pairwise fun a b => a.range.first ≤ b.range.first := by
  apply List.Pairwise.imp _ h
  intro a b hlt
  have := a.range.first_le_last
  omega

/-- A code point is of the class that one of its ranges belongs to. -/
theorem resolve_of_mem (h : index.Separated) (hmem : interval ∈ index.intervals)
    (hcontains : interval.range.contains n = true) : index.resolve n = interval.id := by
  obtain ⟨hfirst, hlast⟩ := Bool.and_eq_true_iff.mp hcontains
  have hlast := of_decide_eq_true hlast
  have hfound : lastAtMost? (·.range.first) index.intervals n = some interval :=
    lastAtMost?_eq_some (fun interval _ => interval.range.first_le_last) h hmem
      (of_decide_eq_true hfirst) hlast
  rw [resolve, hfound]
  exact if_pos hlast

/-- A code point in no range is of no class. -/
theorem resolve_of_not_mem (h : index.Separated)
    (hnone : ∀ interval ∈ index.intervals, interval.range.contains n = false) :
    index.resolve n = .other := by
  unfold resolve
  split
  next found hfound =>
    obtain ⟨i, hi, hle, -⟩ := exists_index_of_lastAtMost? h.sorted hfound
    have hout := hnone found (Array.mem_of_getElem? hi)
    simp only [CodepointRange.contains, hle, decide_true, Bool.true_and] at hout
    exact if_neg (of_decide_eq_false hout)
  next => rfl

end ClassIndex
end BoundaryRules
