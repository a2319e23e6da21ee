import BoundaryRules.StableSort

/-! Stable sorting as sorting by an order and then by position. Elements that the order does not
tell apart stay as they stood. -/
namespace BoundaryRules

variable {α : Type} {le : α → α → Bool} {placed sorted : List (α × Nat)} {a b : α × Nat}

theorem zipIdxLE_iff :
    List.zipIdxLE le a b = true ↔ le a.1 b.1 = true ∧ (le b.1 a.1 = true → a.2 ≤ b.2) := by
  rw [List.zipIdxLE]
  cases le a.1 b.1 <;> cases le b.1 a.1 <;> simp

/-- Before what stands behind it an element goes by the order alone. -/
theorem map_fst_insertStable (h : ∀ b ∈ sorted, a.2 ≤ b.2) :
    (insertStable (List.zipIdxLE le) a sorted).map Prod.fst =
      insertStable le a.1 (sorted.map Prod.fst) := by
  induction sorted with
  | nil => rfl
  | cons b sorted ih =>
    obtain ⟨hb, hsorted⟩ := List.forall_mem_cons.mp h
    have hle : List.zipIdxLE le a b = le a.1 b.1 := by
      rw [Bool.eq_iff_iff, zipIdxLE_iff]
      exact and_iff_left fun _ => hb
    rw [insertStable, List.map_cons, insertStable, hle]
    split
    · rfl
    · rw [List.map_cons, ih hsorted]

/-- Elements in the order of their positions are sorted stably by the order and then by position. -/
theorem map_fst_sortStable (h : placed.Pairwise (·.2 < ·.2)) :
    (sortStable (List.zipIdxLE le) placed).map Prod.fst = sortStable le (placed.map Prod.fst) := by
  induction placed with
  | nil => rfl
  | cons a placed ih =>
    obtain ⟨hfirst, hplaced⟩ := List.pairwise_cons.mp h
    rw [sortStable_cons, List.map_cons, sortStable_cons, map_fst_insertStable, ih hplaced]
    intro b hb
    exact Nat.le_of_lt (hfirst b ((sortStable_perm _ _).mem_iff.mp hb))

theorem pairwise_snd_zipIdx (l : List α) : l.zipIdx.Pairwise (·.2 < ·.2) := by
  apply List.pairwise_map.mp
  rw [List.zipIdx_map_snd]
  exact List.pairwise_lt_range'

/-- Of two sorted elements that precede each other the one with the smaller position is first. -/
theorem pairwise_sortStable_placed (total : ∀ a b, le a b || le b a)
    (trans : ∀ a b c, le a b → le b c → le a c) (h : placed.Pairwise (·.2 < ·.2)) :
    (sortStable (List.zipIdxLE le) placed).Pairwise fun a b =>
      le a.1 b.1 = true ∧ (le b.1 a.1 = true → a.2 < b.2) := by
  have hsorted := pairwise_sortStable (List.zipIdxLE_total total) (List.zipIdxLE_trans trans) placed
  have hne : (sortStable (List.zipIdxLE le) placed).Pairwise (·.2 ≠ ·.2) := by
    rw [(sortStable_perm _ _).pairwise_iff fun hab heq => hab heq.symm]
    exact h.imp Nat.ne_of_lt
  refine (hsorted.and hne).imp fun {a b} hab => ?_
  obtain ⟨hle, hposition⟩ := hab
  obtain ⟨hle, hstable⟩ := zipIdxLE_iff.mp hle
  exact ⟨hle, fun hback => Nat.lt_of_le_of_ne (hstable hback) hposition⟩

end BoundaryRules
