import BoundaryRules.StableSort

/-! The first least element of a list among those that pass a test. It is what a search finds
first once the list is sorted stably. -/
namespace BoundaryRules

variable {α : Type}

/-- `a`, at position `i`, passes `p` and precedes all that do; of equals it stands first. -/
structure FirstLeast (le : α → α → Bool) (p : α → Bool) (l : List α) (i : Nat) (a : α) : Prop where
  at_index : l[i]? = some a
  passes : p a = true
  le_all : ∀ (j : Nat) b, l[j]? = some b → p b = true → le a b = true
  first : ∀ (j : Nat) b, l[j]? = some b → p b = true → le b a = true → i ≤ j

variable {le : α → α → Bool} {p : α → Bool} {l : List α} {i : Nat} {a x : α}

/-- An element in front that is kept out, or comes after `a` in the order, changes nothing. -/
theorem FirstLeast.cons_of_not_le (h : FirstLeast le p l i a)
    (hx : p x = true → le x a = false ∧ le a x = true) : FirstLeast le p (x :: l) (i + 1) a where
  at_index := h.at_index
  passes := h.passes
  le_all := by
    rintro (_ | j) b hb hp
    · cases hb
      exact (hx hp).2
    · exact h.le_all j b hb hp
  first := by
    rintro (_ | j) b hb hp hle
    · cases hb
      simp [(hx hp).1] at hle
    · exact Nat.succ_le_succ (h.first j b hb hp hle)

/-- An element in front that precedes all that pass is the first least one. -/
theorem FirstLeast.head (hxx : le x x = true) (hx : p x = true)
    (hall : ∀ b ∈ l, p b = true → le x b = true) : FirstLeast le p (x :: l) 0 x where
  at_index := rfl
  passes := hx
  le_all := by
    rintro (_ | j) b hb hp
    · cases hb
      exact hxx
    · exact hall b (List.mem_of_getElem? hb) hp
  first := fun _ _ _ _ _ => Nat.zero_le _

/-- Where a search of a sorted list ends once one more element is put into it. -/
theorem find?_insertStable (trans : ∀ a b c, le a b → le b c → le a c)
    (sorted : l.Pairwise (le · ·)) (x : α) :
    (insertStable le x l).find? p =
      if p x = true ∧ ∀ b, l.find? p = some b → le x b = true then some x else l.find? p := by
  induction l with
  | nil => by_cases hx : p x <;> simp [insertStable, hx]
  | cons b l ih =>
    obtain ⟨hb, hl⟩ := List.pairwise_cons.mp sorted
    unfold insertStable
    split
    next hxb =>
      by_cases hx : p x
      · have hall : ∀ c, (b :: l).find? p = some c → le x c = true := by
          intro c hc
          rcases List.mem_cons.mp (List.mem_of_find?_eq_some hc) with rfl | hmem
          · exact hxb
          · exact trans x b c hxb (hb c hmem)
        rw [List.find?_cons_of_pos hx, if_pos ⟨hx, hall⟩]
      · rw [List.find?_cons_of_neg hx, if_neg (fun h => hx h.1)]
    next hxb =>
      by_cases hpb : p b
      · rw [List.find?_cons_of_pos hpb, List.find?_cons_of_pos hpb]
        exact (if_neg fun h => hxb (h.2 b rfl)).symm
      · rw [List.find?_cons_of_neg hpb, List.find?_cons_of_neg hpb]
        exact ih hl

/-- A search of the sorted elements that pass `f` finds the first least one of the whole list. -/
theorem firstLeast_of_find?_sortStable {f : α → Bool} (total : ∀ a b, le a b || le b a)
    (trans : ∀ a b c, le a b → le b c → le a c)
    (h : (sortStable le (l.filter f)).find? p = some a) :
    ∃ i, FirstLeast le (fun a => f a && p a) l i a := by
  induction l generalizing a with
  | nil => simp at h
  | cons x l ih =>
    by_cases hf : f x
    · rw [List.filter_cons_of_pos hf, sortStable_cons,
        find?_insertStable trans (pairwise_sortStable total trans _)] at h
      split at h
      next hfirst =>
        obtain rfl := Option.some.inj h
        refine ⟨0, .head (by simpa using total x x) (by simp [hf, hfirst.1]) ?_⟩
        intro b hb hpass
        obtain ⟨hfb, hpb⟩ := Bool.and_eq_true_iff.mp hpass
        cases hfind : (sortStable le (l.filter f)).find? p with
        | none =>
          have hmem := (sortStable_perm le _).mem_iff.mpr (List.mem_filter.mpr ⟨hb, hfb⟩)
          exact absurd hpb (List.find?_eq_none.mp hfind b hmem)
        | some c =>
          obtain ⟨i, hc⟩ := ih hfind
          obtain ⟨j, hj⟩ := List.getElem?_of_mem hb
          exact trans x c b (hfirst.2 c hfind) (hc.le_all j b hj (by simp [hfb, hpb]))
      next hfirst =>
        obtain ⟨i, ha⟩ := ih h
        refine ⟨i + 1, ha.cons_of_not_le ?_⟩
        intro hpass
        have hpx := (Bool.and_eq_true_iff.mp hpass).2
        have hxa : le x a = false := by
          rw [← Bool.not_eq_true]
          intro hle
          exact hfirst ⟨hpx, fun b hb => Option.some.inj (h.symm.trans hb) ▸ hle⟩
        exact ⟨hxa, by simpa [hxa] using total x a⟩
    · rw [List.filter_cons_of_neg hf] at h
      obtain ⟨i, ha⟩ := ih h
      exact ⟨i + 1, ha.cons_of_not_le fun hpass => absurd (Bool.and_eq_true_iff.mp hpass).1 hf⟩

end BoundaryRules
