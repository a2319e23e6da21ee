/-!
Stable insertion sort. The main statements are `sortStable_perm` and `pairwise_sortStable`.
-/
namespace BoundaryRules

variable {α : Type}

/-- Puts `a` in front of the first element that it may precede. -/
def insertStable (le : α → α → Bool) (a : α) : List α → List α
  | [] => [a]
  | b :: l => if le a b then a :: b :: l else b :: insertStable le a l

/-- Sorts by `le`; elements that precede each other keep their order. -/
def sortStable (le : α → α → Bool) (l : List α) : List α := l.foldr (insertStable le) []

@[simp] theorem sortStable_nil (le : α → α → Bool) : sortStable le [] = [] := rfl

@[simp] theorem sortStable_cons (le : α → α → Bool) (a : α) (l : List α) :
    sortStable le (a :: l) = insertStable le a (sortStable le l) := rfl

theorem insertStable_perm (le : α → α → Bool) (a : α) (l : List α) :
    (insertStable le a l).Perm (a :: l) := by
  induction l with
  | nil => exact .refl _
  | cons b l ih =>
    unfold insertStable
    split
    · exact .refl _
    · exact (ih.cons b).trans (.swap a b l)

theorem sortStable_perm (le : α → α → Bool) (l : List α) : (sortStable le l).Perm l := by
  induction l with
  | nil => exact .refl _
  | cons a l ih => exact (insertStable_perm le a _).trans (ih.cons a)

theorem pairwise_insertStable {le : α → α → Bool} (total : ∀ a b, le a b || le b a)
    (trans : ∀ a b c, le a b → le b c → le a c) (a : α) {l : List α}
    (sorted : l.Pairwise (le · ·)) : (insertStable le a l).Pairwise (le · ·) := by
  induction l with
  | nil => simp [insertStable]
  | cons b l ih =>
    obtain ⟨hb, hl⟩ := List.pairwise_cons.1 sorted
    unfold insertStable
    split
    · next hab =>
      refine List.pairwise_cons.2 ⟨fun c hc => ?_, sorted⟩
      rcases List.mem_cons.1 hc with rfl | hc
      · exact hab
      · exact trans a b c hab (hb c hc)
    · next hab =>
      refine List.pairwise_cons.2 ⟨fun c hc => ?_, ih hl⟩
      rcases List.mem_cons.1 ((insertStable_perm le a l).mem_iff.1 hc) with rfl | hc
      · simpa [hab] using total c b
      · exact hb c hc

theorem pairwise_sortStable {le : α → α → Bool} (total : ∀ a b, le a b || le b a)
    (trans : ∀ a b c, le a b → le b c → le a c) (l : List α) :
    (sortStable le l).Pairwise (le · ·) := by
  induction l with
  | nil => exact .nil
  | cons a l ih => exact pairwise_insertStable total trans a ih

end BoundaryRules
