import BoundaryRules.Proofs.Resolution
import BoundaryRules.Proofs.StableOrder

/-! Bisection as a scan of all ranges in the order of definition. What decides about a code point
is the last of the ranges with the greatest start that is not above it. -/
namespace BoundaryRules

/-- `a`, in position `i`, has a key of at most `n`. All others of which this is true have smaller
keys, or the same key and stand before it. -/
structure Latest {α : Type} (key : α → Nat) (l : List α) (n i : Nat) (a : α) : Prop where
  at_index : l[i]? = some a
  key_le : key a ≤ n
  greatest : ∀ (j : Nat) b, l[j]? = some b → key b ≤ n → key b < key a ∨ key b = key a ∧ j ≤ i

/-- Entries of an ordered list are in its order, if they are not one and the same. -/
theorem eq_or_rel_of_pairwise {α : Type} {R : α → α → Prop} {l : List α} {a b : α} {i j : Nat}
    (h : l.Pairwise R) (ha : l[i]? = some a) (hb : l[j]? = some b) (hle : i ≤ j) :
    a = b ∨ R a b := by
  obtain ⟨hi, rfl⟩ := List.getElem?_eq_some_iff.mp ha
  obtain ⟨hj, rfl⟩ := List.getElem?_eq_some_iff.mp hb
  rcases Nat.eq_or_lt_of_le hle with rfl | hlt
  · exact .inl rfl
  · exact .inr (List.pairwise_iff_getElem.mp h i j hi hj hlt)

section Key

variable {α : Type} {key : α → Nat} {l : List α} {n i j : Nat} {a b : α}

theorem Latest.unique (ha : Latest key l n i a) (hb : Latest key l n j b) : a = b := by
  have hba := ha.greatest j b hb.at_index hb.key_le
  have hab := hb.greatest i a ha.at_index ha.key_le
  obtain rfl : i = j := by omega
  exact Option.some.inj (ha.at_index.symm.trans hb.at_index)

/-- The entries of a list, sorted stably by their keys. -/
def tableOf (key : α → Nat) (l : List α) : Array α :=
  (sortStable (fun a b => key a ≤ key b) l).toArray

theorem le_total_of_key (key : α → Nat) (a b : α) :
    (decide (key a ≤ key b) || decide (key b ≤ key a)) = true := by
  simpa using Nat.le_total (key a) (key b)

theorem le_trans_of_key (key : α → Nat) (a b c : α) (hab : decide (key a ≤ key b) = true)
    (hbc : decide (key b ≤ key c) = true) : decide (key a ≤ key c) = true :=
  decide_eq_true (Nat.le_trans (of_decide_eq_true hab) (of_decide_eq_true hbc))

theorem sorted_tableOf (key : α → Nat) (l : List α) :
    (tableOf key l).toList.Pairwise (key · ≤ key ·) := by
  apply List.Pairwise.imp of_decide_eq_true
  exact pairwise_sortStable (le_total_of_key key) (le_trans_of_key key) l

theorem lt_of_lastAtMost?_tableOf (h : lastAtMost? key (tableOf key l) n = none) (ha : a ∈ l) :
    n < key a := by
  apply lt_of_lastAtMost?_eq_none (sorted_tableOf key l) h
  rw [tableOf, List.mem_toArray]
  exact (sortStable_perm _ _).mem_iff.mpr ha

/-- `a` has the smaller key, or the same key and the earlier position. -/
def Before (key : α → Nat) (a b : α × Nat) : Prop :=
  key a.1 < key b.1 ∨ key a.1 = key b.1 ∧ a.2 < b.2

instance (key : α → Nat) (a b : α × Nat) : Decidable (Before key a b) :=
  inferInstanceAs (Decidable (_ ∨ _))

theorem Before.key_le {a b : α × Nat} (h : Before key a b) : key a.1 ≤ key b.1 := by
  unfold Before at h
  omega

theorem Before.trans {a b c : α × Nat} (hab : Before key a b) (hbc : Before key b c) :
    Before key a c := by
  unfold Before at *
  omega

theorem Before.not_before {a b : α × Nat} (h : Before key a b) : ¬ Before key b a := by
  unfold Before at *
  omega

/-- The entries of the table with their positions in the list. -/
def tableWithPositions (key : α → Nat) (l : List α) : List (α × Nat) :=
  sortStable (List.zipIdxLE fun a b => key a ≤ key b) l.zipIdx

theorem map_fst_tableWithPositions (key : α → Nat) (l : List α) :
    (tableWithPositions key l).map Prod.fst = (tableOf key l).toList := by
  rw [tableWithPositions, map_fst_sortStable (pairwise_snd_zipIdx l), List.zipIdx_map_fst, tableOf]

theorem mem_tableWithPositions : (a, i) ∈ tableWithPositions key l ↔ l[i]? = some a :=
  (sortStable_perm _ _).mem_iff.trans List.mk_mem_zipIdx_iff_getElem?

theorem pairwise_tableWithPositions (key : α → Nat) (l : List α) :
    (tableWithPositions key l).Pairwise (Before key) := by
  refine (pairwise_sortStable_placed (le_total_of_key key) (le_trans_of_key key)
    (pairwise_snd_zipIdx l)).imp fun {a b} h => ?_
  simp only [decide_eq_true_eq] at h
  unfold Before
  omega

/-- What bisection finds in the table is the latest entry of the list. -/
theorem exists_latest_of_lastAtMost? (h : lastAtMost? key (tableOf key l) n = some a) :
    ∃ i, Latest key l n i a := by
  obtain ⟨t, ht, hle, hmax⟩ := exists_index_of_lastAtMost? (sorted_tableOf key l) h
  have htable : ∀ m : Nat, (tableOf key l)[m]? = (tableWithPositions key l)[m]?.map Prod.fst := by
    intro m
    rw [← List.getElem?_map, map_fst_tableWithPositions, Array.getElem?_toList]
  obtain ⟨⟨found, i⟩, hfound, rfl⟩ := Option.map_eq_some_iff.mp ((htable t).symm.trans ht)
  refine ⟨i, mem_tableWithPositions.mp (List.mem_of_getElem? hfound), hle, ?_⟩
  intro j b hb hkey
  obtain ⟨m, hm⟩ := List.getElem?_of_mem (mem_tableWithPositions.mpr hb)
  have hmt := hmax m b (by rw [htable, hm, Option.map_some]) hkey
  rcases eq_or_rel_of_pairwise (pairwise_tableWithPositions key l) hm hfound hmt with
    heq | hbefore
  · obtain ⟨rfl, rfl⟩ := Prod.mk.inj heq
    exact .inr ⟨rfl, Nat.le_refl _⟩
  · exact hbefore.imp id fun h => ⟨h.1, Nat.le_of_lt h.2⟩

end Key

namespace ClassIndex

variable {classes : List CharClass} {interval : Interval} {n i : Nat}

theorem intervals_ofCollected (classes : List CharClass) :
    (ofCollected classes).intervals = tableOf (·.range.first) (intervalsOf classes) := rfl

/-- The latest range decides: its class if it reaches the code point, else none. -/
theorem resolve_of_latest (h : Latest (·.range.first) (intervalsOf classes) n i interval) :
    (ofCollected classes).resolve n = if n ≤ interval.range.last then interval.id else .other := by
  rw [resolve, intervals_ofCollected]
  split
  next found hfound =>
    obtain ⟨j, hlatest⟩ := exists_latest_of_lastAtMost? hfound
    rw [hlatest.unique h]
  next hnone =>
    have hlt := lt_of_lastAtMost?_tableOf hnone (List.mem_of_getElem? h.at_index)
    exact absurd h.key_le (Nat.not_le_of_lt hlt)

/-- There is a latest range, unless all start behind the code point. -/
theorem exists_latest_or (classes : List CharClass) (n : Nat) :
    (∃ i interval, Latest (·.range.first) (intervalsOf classes) n i interval) ∨
      (∀ interval ∈ intervalsOf classes, n < interval.range.first) ∧
        (ofCollected classes).resolve n = .other := by
  rw [resolve, intervals_ofCollected]
  cases hfound : lastAtMost? (·.range.first) (tableOf (·.range.first) (intervalsOf classes)) n with
  | some interval =>
    obtain ⟨i, hlatest⟩ := exists_latest_of_lastAtMost? hfound
    exact .inl ⟨i, interval, hlatest⟩
  | none => exact .inr ⟨fun interval hmem => (lt_of_lastAtMost?_tableOf hfound hmem :), rfl⟩

end ClassIndex
end BoundaryRules
