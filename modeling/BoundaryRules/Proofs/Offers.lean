import BoundaryRules.Proofs.Greatest

/-! Selections after any calls. They hold the greatest of all elements that were offered, as many as
they have places for; once they are full, a newcomer that is not strictly greater than the least
element is turned away. -/
namespace BoundaryRules

variable {α : Type} {le : α → α → Bool}

/-- The end of a sorted list has as many elements above a bound as it can. -/
theorem countP_rtake {p : α → Bool} {l : List α} (h : l.Pairwise fun a b => p a = true → p b = true)
    (n : Nat) : (l.rtake n).countP p = min n (l.countP p) := by
  have hlength : (l.rtake n).length = min n l.length := by
    rw [List.rtake, List.length_drop]
    omega
  have hsplit : l.take (l.length - n) ++ l.rtake n = l := List.take_append_drop _ l
  generalize l.take (l.length - n) = front at hsplit
  generalize l.rtake n = back at hlength hsplit ⊢
  subst hsplit
  by_cases hback : ∀ b ∈ back, p b = true
  · -- The end is all above the bound: it is as long as it can be, or the whole list.
    have hfront := List.countP_le_length (p := p) (l := front)
    rw [List.length_append] at hlength
    rw [List.countP_append, List.countP_eq_length.mpr hback]
    omega
  · -- Something in the end is below the bound, and so is all in front of it.
    push Not at hback
    obtain ⟨b, hb, hbelow⟩ := hback
    have hfront : front.countP p = 0 := by
      refine List.countP_eq_zero.mpr fun a ha hp => hbelow ?_
      exact (List.pairwise_append.mp h).2.2 a ha b hb hp
    have hle := List.countP_le_length (p := p) (l := back)
    rw [List.countP_append, hfront]
    omega

namespace BestOf

/-- A call that offers one element, or several one after the other. -/
inductive Call (α : Type) where
  | offer (a : α)
  | extend (elements : List α)

def Call.elements : Call α → List α
  | offer a => [a]
  | extend elements => elements

def Call.apply (best : BestOf α le) : Call α → BestOf α le
  | offer a => (best.offer a).2
  | extend elements => best.extend elements

/-- The selection after calls. -/
def run (best : BestOf α le) (calls : List (Call α)) : BestOf α le := calls.foldl Call.apply best

/-- All elements that calls offer, in order. -/
def offeredBy (calls : List (Call α)) : List α := calls.flatMap Call.elements

/-- The elements held are the `n` greatest of those offered, or all of them if they are fewer. -/
structure HoldsGreatest (best : BestOf α le) (n : Nat) (offered : List α) : Prop where
  capacity_eq : best.capacity = n
  size_eq : best.size = min n offered.length
  countP_eq : ∀ bound, best.held.countP (le bound ·) = min n (offered.countP (le bound ·))
  exists_others : ∃ others, offered.Perm (best.held ++ others) ∧
    ∀ a ∈ best.held, ∀ b ∈ others, le b a = true
  least?_eq_none_iff : best.least? = none ↔ best.held = []
  least : ∀ a, best.least? = some a → a ∈ best.held ∧ ∀ b ∈ best.held, le a b = true
  descending_perm : best.descending.Perm best.held
  descending_pairwise : best.descending.Pairwise fun a b => le b a = true

/-- An element is kept while there is room, or in the place of a least element that it is strictly
greater than. Otherwise nothing changes. -/
structure Answers (best : BestOf α le) (a : α) : Prop where
  kept_iff : (best.offer a).1 = true ↔
    best.size < best.capacity ∨ ∃ least, best.least? = some least ∧ le a least = false
  held_of_room : best.size < best.capacity → (best.offer a).2.held.Perm (a :: best.held)
  held_of_full : best.capacity ≤ best.size → ∀ least, best.least? = some least →
    le a least = false → ∃ others, best.held.Perm (least :: others) ∧
      (best.offer a).2.held.Perm (a :: others)
  eq_of_not_kept : (best.offer a).1 = false → (best.offer a).2 = best

variable {best : BestOf α le} {offered ranked : List α} {elementSize : Nat} {capacity : UInt64}

theorem answers_offer (best : BestOf α le) (a : α) : best.Answers a := by
  rcases Nat.lt_or_ge best.size best.capacity with hroom | hfull
  · have hoffer := offer_of_room hroom a
    refine ⟨?_, ?_, ?_, ?_⟩
    · simp [hoffer, hroom]
    · rw [hoffer]
      exact fun _ => insertStable_perm le a best.held
    · intro hfull
      exact absurd hroom (Nat.not_lt.mpr hfull)
    · simp [hoffer]
  · cases hheld : best.held with
    | nil =>
      have hoffer := offer_of_nil hfull hheld a
      refine ⟨?_, ?_, ?_, ?_⟩
      · simp [hoffer, least?, hheld, hfull]
      · intro hroom
        exact absurd hroom (Nat.not_lt.mpr hfull)
      · simp [least?, hheld]
      · simp [hoffer]
    | cons least others =>
      have hoffer := offer_of_cons hfull hheld a
      refine ⟨?_, ?_, ?_, ?_⟩
      · rw [hoffer]
        cases hle : le a least <;> simp [least?, hheld, hle, hfull]
      · intro hroom
        exact absurd hroom (Nat.not_lt.mpr hfull)
      · intro _ first hfirst hless
        obtain rfl : least = first := by simpa [least?, hheld] using hfirst
        rw [hoffer, hless, hheld]
        exact ⟨others, .refl _, insertStable_perm le a others⟩
      · rw [hoffer]
        cases hle : le a least <;> simp

theorem capacity_extend (best : BestOf α le) (elements : List α) :
    (best.extend elements).capacity = best.capacity := by
  induction elements generalizing best with
  | nil => rfl
  | cons a elements ih => exact (ih _).trans (capacity_offer best a)

/-- Calls offer their elements one after the other. -/
theorem run_eq_extend (best : BestOf α le) (calls : List (Call α)) :
    best.run calls = best.extend (offeredBy calls) := by
  induction calls generalizing best with
  | nil => rfl
  | cons call calls ih =>
    have hcall : call.apply best = best.extend call.elements := by cases call <;> rfl
    rw [offeredBy, List.flatMap_cons, extend, List.foldl_append, run, List.foldl_cons, hcall]
    exact ih _

/-- The end of all elements in ascending order holds the greatest of them. -/
theorem holdsGreatest_of_ranked (total : ∀ a b, le a b || le b a)
    (trans : ∀ a b c, le a b → le b c → le a c) (hperm : ranked.Perm offered)
    (sorted : ranked.Pairwise (le · ·)) (hheld : best.held = ranked.rtake best.capacity) :
    best.HoldsGreatest best.capacity offered := by
  have hsplit : ranked.take (ranked.length - best.capacity) ++ best.held = ranked :=
    hheld ▸ List.take_append_drop _ ranked
  have hpairs := List.pairwise_append.mp (hsplit ▸ sorted)
  have hothers : offered.Perm (best.held ++ ranked.take (ranked.length - best.capacity)) := by
    refine hperm.symm.trans ?_
    nth_rewrite 1 [← hsplit]
    exact List.perm_append_comm
  refine
    { capacity_eq := rfl
      size_eq := ?_
      countP_eq := fun bound => ?_
      exists_others := ⟨_, hothers, fun a ha b hb => hpairs.2.2 b hb a ha⟩
      least?_eq_none_iff := List.head?_eq_none_iff
      least := fun a ha => ?_
      descending_perm := List.reverse_perm _
      descending_pairwise := List.pairwise_reverse.mpr hpairs.2.1 }
  · rw [size, hheld, List.rtake, List.length_drop, ← hperm.length_eq]
    omega
  · have habove : ranked.Pairwise fun a b => le bound a = true → le bound b = true :=
      sorted.imp fun {a b} hab ha => trans bound a b ha hab
    rw [hheld, countP_rtake habove, hperm.countP_eq]
  · obtain ⟨more, hmore⟩ := List.head?_eq_some_iff.mp ha
    rw [hmore] at hpairs ⊢
    refine ⟨List.mem_cons_self, fun b hb => ?_⟩
    rcases List.mem_cons.mp hb with rfl | hb
    · simpa using total b b
    · exact (List.pairwise_cons.mp hpairs.2.1).1 b hb

/-- A selection with so many places can be made. After the calls it holds the greatest of the
elements offered, and it keeps a further one just if there is room or the element is strictly
greater than a least one. -/
def Selects (le : α → α → Bool) (elementSize : Nat) (capacity : UInt64) (calls : List (Call α)) :
    Prop :=
  ∃ empty : BestOf α le, ofCapacity elementSize capacity = .ok empty ∧
    (empty.run calls).HoldsGreatest capacity.toNat (offeredBy calls) ∧
    ∀ a, (empty.run calls).Answers a

theorem holdsGreatest_run (total : ∀ a b, le a b || le b a)
    (trans : ∀ a b c, le a b → le b c → le a c) (n : Nat) (calls : List (Call α)) :
    (({ capacity := n } : BestOf α le).run calls).HoldsGreatest n (offeredBy calls) := by
  rw [run_eq_extend]
  have hempty : ({ capacity := n } : BestOf α le).held = (sortStable le []).rtake n := by
    rw [sortStable_nil, List.rtake_nil]
  have hheld := held_extend total trans hempty (offeredBy calls)
  rw [List.append_nil] at hheld
  have hperm : (sortStable le (offeredBy calls).reverse).Perm (offeredBy calls) :=
    (sortStable_perm le _).trans (List.reverse_perm _)
  have hgreatest := holdsGreatest_of_ranked total trans hperm
    (pairwise_sortStable total trans _) (hheld.trans (by rw [capacity_extend]))
  rwa [capacity_extend] at hgreatest

theorem ofCapacity_of_fits (hcapacity : capacity ≠ 0) (h : Fits elementSize capacity) :
    (ofCapacity elementSize capacity : Except Halt (BestOf α le)) =
      .ok { capacity := capacity.toNat } := by
  rw [ofCapacity, if_neg hcapacity, if_pos h]

theorem ofCapacity_of_not_fits (hcapacity : capacity ≠ 0) (h : ¬ Fits elementSize capacity) :
    (ofCapacity elementSize capacity : Except Halt (BestOf α le)) = .error .capacityOverflow := by
  rw [ofCapacity, if_neg hcapacity, if_neg h]

/-- Selections work if all their places may be set aside, whatever is called of them. Otherwise
they panic before the first call. -/
theorem selects_iff_fits (total : ∀ a b, le a b || le b a)
    (trans : ∀ a b c, le a b → le b c → le a c) (elementSize : Nat) (hcapacity : capacity ≠ 0)
    (calls : List (Call α)) :
    (Selects le elementSize capacity calls ↔ Fits elementSize capacity) ∧
      (¬ Fits elementSize capacity →
        (ofCapacity elementSize capacity : Except Halt (BestOf α le)) =
          .error .capacityOverflow) := by
  refine ⟨⟨?_, ?_⟩, ofCapacity_of_not_fits hcapacity⟩
  · rintro ⟨empty, hempty, -⟩
    by_contra hfits
    cases (ofCapacity_of_not_fits hcapacity hfits).symm.trans hempty
  · intro hfits
    exact ⟨_, ofCapacity_of_fits hcapacity hfits, holdsGreatest_run total trans _ calls,
      answers_offer _⟩

end BestOf

/-! Scores by points; players with the same points are different elements of thirty-two bytes. -/
namespace Scores

def below (a b : String × Nat) : Bool := a.2 ≤ b.2

/-- The third player with three points does not displace the first, but one with four does. -/
theorem selects_scores :
    (∀ a b, below a b || below b a) ∧ (∀ a b c, below a b → below b c → below a c) ∧
      (2 : UInt64) ≠ 0 ∧
      BestOf.Selects below 32 2 [.extend [("x", 3), ("y", 5), ("z", 3)], .offer ("w", 4)] ∧
      (({ capacity := 2 } : BestOf (String × Nat) below).run
        [.extend [("x", 3), ("y", 5), ("z", 3)]]).held = [("x", 3), ("y", 5)] ∧
      (({ capacity := 2 } : BestOf (String × Nat) below).run
        [.extend [("x", 3), ("y", 5), ("z", 3)], .offer ("w", 4)]).descending =
          [("y", 5), ("w", 4)] := by
  have total : ∀ a b, below a b || below b a := by
    intro a b
    simpa [below] using Nat.le_total a.2 b.2
  have trans : ∀ a b c, below a b → below b c → below a c := by
    intro a b c
    simpa [below] using Nat.le_trans
  have hselects := BestOf.selects_iff_fits total trans 32 (by decide : (2 : UInt64) ≠ 0)
    [.extend [("x", 3), ("y", 5), ("z", 3)], .offer ("w", 4)]
  exact ⟨total, trans, by decide, hselects.1.mpr (by decide), by decide, by decide⟩

/-- There is no selection with 2^62 places of eight bytes. -/
theorem not_selects_of_vast :
    ¬ BestOf.Selects (fun a b : Int => decide (a ≤ b)) 8 4611686018427387904 [] := by
  rintro ⟨empty, hempty, -⟩
  have hfits : ¬ BestOf.Fits 8 4611686018427387904 := by decide
  cases (BestOf.ofCapacity_of_not_fits (by decide) hfits).symm.trans hempty

end Scores
end BoundaryRules
