import BoundaryRules.BestOf
import Mathlib.Data.List.DropRight

/-! What a selection keeps of the elements offered to it: the last ones of all once they are sorted.
Of equal elements those offered first are sorted last, so that a newcomer does not displace them. -/
namespace BoundaryRules

variable {α : Type} {le : α → α → Bool} {a b : α} {front back : List α}

theorem length_insertStable (le : α → α → Bool) (a : α) (l : List α) :
    (insertStable le a l).length = l.length + 1 :=
  (insertStable_perm le a l).length_eq

theorem insertStable_append_of_not_le (h : ∀ b ∈ front, le a b = false) :
    insertStable le a (front ++ back) = front ++ insertStable le a back := by
  induction front with
  | nil => rfl
  | cons b front ih =>
    obtain ⟨hb, hfront⟩ := List.forall_mem_cons.mp h
    rw [List.cons_append, insertStable, hb, ih hfront]
    rfl

theorem exists_insertStable_append_of_le (h : le a b = true) :
    ∃ more, insertStable le a (front ++ b :: back) = more ++ b :: back := by
  induction front with
  | nil => exact ⟨[a], by simp [insertStable, h]⟩
  | cons c front ih =>
    rw [List.cons_append, insertStable]
    split
    · exact ⟨a :: c :: front, rfl⟩
    · obtain ⟨more, hmore⟩ := ih
      exact ⟨c :: more, by rw [hmore, List.cons_append]⟩

theorem rtake_append_length (front back : List α) : (front ++ back).rtake back.length = back := by
  simp [List.rtake]

theorem rtake_of_length_le {l : List α} {n : Nat} (h : l.length ≤ n) : l.rtake n = l := by
  simp [List.rtake, Nat.sub_eq_zero_of_le h]

/-- What is left of a sorted list's end when an element is put into the list. -/
theorem rtake_insertStable (trans : ∀ a b c, le a b → le b c → le a c)
    (sorted : (front ++ b :: back).Pairwise (le · ·)) (a : α) :
    (insertStable le a (front ++ b :: back)).rtake (b :: back).length =
      if le a b then b :: back else insertStable le a back := by
  split
  next hab =>
    obtain ⟨more, hmore⟩ : ∃ more, insertStable le a (front ++ b :: back) = more ++ b :: back :=
      exists_insertStable_append_of_le hab
    rw [hmore, rtake_append_length]
  next hab =>
    have hfront : ∀ c ∈ front ++ [b], le a c = false := by
      intro c hc
      rw [← Bool.not_eq_true]
      intro hac
      rcases List.mem_append.mp hc with hc | hc
      · have hcb := (List.pairwise_append.mp sorted).2.2 c hc b List.mem_cons_self
        exact hab (trans a c b hac hcb)
      · exact hab (List.mem_singleton.mp hc ▸ hac)
    rw [List.append_cons, insertStable_append_of_not_le hfront, List.length_cons,
      ← length_insertStable le a back, rtake_append_length]

namespace BestOf

variable {best : BestOf α le} {offered : List α}

theorem offer_of_room (h : best.size < best.capacity) (a : α) :
    best.offer a = (true, { best with held := insertStable le a best.held }) :=
  if_pos h

theorem offer_of_nil (hfull : best.capacity ≤ best.size) (hheld : best.held = []) (a : α) :
    best.offer a = (false, best) := by
  have hroom : ¬ best.held.length < best.capacity := Nat.not_lt.mpr hfull
  rw [offer, if_neg hroom, hheld]

theorem offer_of_cons {least : α} {others : List α} (hfull : best.capacity ≤ best.size)
    (hheld : best.held = least :: others) (a : α) :
    best.offer a = if le a least then (false, best)
      else (true, { best with held := insertStable le a others }) := by
  have hroom : ¬ best.held.length < best.capacity := Nat.not_lt.mpr hfull
  rw [offer, if_neg hroom, hheld]

theorem capacity_offer (best : BestOf α le) (a : α) :
    (best.offer a).2.capacity = best.capacity := by
  unfold offer
  split
  · rfl
  · split
    · rfl
    · split <;> rfl

section Order

variable (total : ∀ a b, le a b || le b a) (trans : ∀ a b c, le a b → le b c → le a c)
include total trans

/-- One more element; those offered before are listed with the last one first. -/
theorem held_offer (h : best.held = (sortStable le offered).rtake best.capacity) (a : α) :
    (best.offer a).2.held = (sortStable le (a :: offered)).rtake best.capacity := by
  have sorted := pairwise_sortStable total trans offered
  rw [sortStable_cons]
  generalize sortStable le offered = ranked at h sorted
  rcases Nat.lt_or_ge ranked.length best.capacity with hlt | hge
  · -- There is room, so all elements are held.
    rw [rtake_of_length_le (Nat.le_of_lt hlt)] at h
    have hlength : (insertStable le a ranked).length ≤ best.capacity := by
      rw [length_insertStable]
      exact hlt
    have hroom : best.size < best.capacity := by rwa [size, h]
    rw [offer_of_room hroom, h, rtake_of_length_le hlength]
  · -- The least element held is where the part of the ranking that is held begins.
    have hranked := List.take_append_drop (ranked.length - best.capacity) ranked
    rw [show ranked.drop (ranked.length - best.capacity) = best.held from h.symm] at hranked
    have hlength : best.held.length = best.capacity := by
      rw [h, List.rtake, List.length_drop]
      omega
    have hfull : best.capacity ≤ best.size := hlength.symm.le
    cases hheld : best.held with
    | nil =>
      rw [hheld] at hlength
      rw [offer_of_nil hfull hheld, hheld, ← hlength]
      exact (List.rtake_zero _).symm
    | cons least others =>
      rw [hheld] at hranked hlength
      rw [← hranked] at sorted
      have hkept := rtake_insertStable trans sorted a
      rw [hranked, hlength] at hkept
      rw [offer_of_cons hfull hheld, hkept]
      split
      · exact hheld
      · rfl

theorem held_extend (h : best.held = (sortStable le offered).rtake best.capacity)
    (elements : List α) :
    (best.extend elements).held =
      (sortStable le (elements.reverse ++ offered)).rtake best.capacity := by
  induction elements generalizing best offered with
  | nil => exact h
  | cons a elements ih =>
    have hone := held_offer total trans h a
    rw [← capacity_offer best a] at hone ⊢
    rw [List.reverse_cons, List.append_assoc]
    exact ih hone

/-- Of a selection that starts empty. -/
theorem descending_extend (capacity : Nat) (elements : List α) :
    (({ capacity } : BestOf α le).extend elements).descending =
      (sortStable le elements.reverse).reverse.take capacity := by
  have hempty : ({ capacity } : BestOf α le).held = (sortStable le []).rtake capacity := by
    rw [sortStable_nil, List.rtake_nil]
  rw [descending, held_extend total trans hempty, List.append_nil,
    List.rtake_eq_reverse_take_reverse, List.reverse_reverse]

end Order

end BestOf
end BoundaryRules
