import BoundaryRules.Proofs.Choices
import Mathlib.Algebra.BigOperators.Group.List.Basic

/-! Turns of the odometer. From its first choice to its end it stands at all choices of positions,
once at each and in lexicographic order, and gives the elements at them. -/
namespace BoundaryRules

variable {α : Type} {groups : List (List α)} {positions : List Nat} {odometer : Odometer α}
  {visited : List (List Nat)} {given : List (List α)}

namespace Odometer

/-- The wheels stand at elements of their groups. -/
def Standing : List (List α) → List Nat → Prop := List.Forall₂ fun group p => p < group.length

/-- The choices from the given positions on. -/
def remaining : List (List α) → List Nat → List (List α)
  | group :: groups, p :: ps =>
    (group[p]?.toList.flatMap fun a => (remaining groups ps).map (a :: ·)) ++
      (group.drop (p + 1)).flatMap fun a => (choices groups).map (a :: ·)
  | _, _ => [[]]

theorem Standing.ne_nil (h : Standing groups positions) : ∀ group ∈ groups, group ≠ [] := by
  induction h with
  | nil => exact List.forall_mem_nil _
  | cons hp _ ih =>
    exact List.forall_mem_cons.mpr ⟨List.length_pos_iff.mp (Nat.zero_lt_of_lt hp), ih⟩

theorem standing_zeros (h : ∀ group ∈ groups, group ≠ []) :
    Standing groups (groups.map fun _ => 0) := by
  rw [Standing, List.forall₂_map_right_iff, List.forall₂_same]
  exact fun group hgroup => List.length_pos_iff.mpr (h group hgroup)

/-- From the first positions on there are all choices. -/
theorem remaining_zeros (h : ∀ group ∈ groups, group ≠ []) :
    remaining groups (groups.map fun _ => 0) = choices groups := by
  induction groups with
  | nil => rfl
  | cons group groups ih =>
    obtain ⟨hgroup, hgroups⟩ := List.forall_mem_cons.mp h
    cases group with
    | nil => contradiction
    | cons a group =>
      rw [List.map_cons, remaining, ih hgroups, choices, List.flatMap_cons]
      simp

theorem standing_of_advance {next : List Nat} (h : Standing groups positions)
    (hnext : advance groups positions = some next) : Standing groups next := by
  induction h generalizing next with
  | nil => cases hnext
  | @cons group p groups ps hp hps ih =>
    rw [advance] at hnext
    cases hadvance : advance groups ps with
    | some more =>
      rw [hadvance] at hnext
      obtain rfl := Option.some.inj hnext
      exact .cons hp (ih hadvance)
    | none =>
      simp only [hadvance] at hnext
      split at hnext
      next hlt =>
        obtain rfl := Option.some.inj hnext
        exact .cons hlt (standing_zeros (Standing.ne_nil hps))
      next => cases hnext

/-- What remains is the choice at the positions, and then what remains from the next ones on. -/
theorem remaining_eq_cons (h : Standing groups positions) :
    remaining groups positions =
      pick groups positions :: (advance groups positions).elim [] (remaining groups) := by
  induction h with
  | nil => rfl
  | @cons group p groups ps hp hps ih =>
    have hpick : group[p]?.toList = [group[p]] := by rw [List.getElem?_eq_getElem hp]; rfl
    rw [remaining, pick, advance, hpick, List.flatMap_singleton, ih]
    cases hadvance : advance groups ps with
    | some more => simp [remaining, hpick]
    | none =>
      simp only [Option.elim_none, List.map_cons, List.map_nil]
      split
      next hlt =>
        have hnext : group[p + 1]?.toList = [group[p + 1]] := by
          rw [List.getElem?_eq_getElem hlt]; rfl
        rw [List.drop_eq_getElem_cons hlt, List.flatMap_cons, Option.elim_some, remaining, hnext,
          remaining_zeros (Standing.ne_nil hps)]
        simp
      next hge =>
        rw [List.drop_eq_nil_of_le (Nat.le_of_not_lt hge)]
        rfl

/-- The positions at which the wheels can stand. -/
def places (groups : List (List α)) : List (List Nat) :=
  groups.map fun group => List.range group.length

theorem mem_choices_places_iff :
    positions ∈ choices (places groups) ↔ Standing groups positions := by
  rw [mem_choices_iff, places, List.forall₂_map_right_iff, Standing]
  simp only [List.mem_range]
  exact ⟨List.Forall₂.flip, List.Forall₂.flip⟩

theorem standing_places (h : Standing groups positions) : Standing (places groups) positions := by
  rw [Standing, places, List.forall₂_map_left_iff]
  simpa only [Standing, List.length_range] using h

theorem pick_places (h : Standing groups positions) :
    pick (places groups) positions = positions := by
  induction h with
  | nil => rfl
  | cons hp _ ih =>
    rw [places, List.map_cons, pick, List.getElem?_range hp]
    exact congrArg _ ih

/-- How the wheels turn depends on the lengths of the groups only. -/
theorem advance_places (groups : List (List α)) (positions : List Nat) :
    advance (places groups) positions = advance groups positions := by
  induction groups generalizing positions with
  | nil => rfl
  | cons group groups ih =>
    cases positions with
    | nil => rfl
    | cons p ps =>
      rw [places] at ih ⊢
      simp only [List.map_cons, advance, ih, List.length_range, List.map_map, Function.comp_def]

/-- The positions that remain are the given ones, and then those that remain from the next on. -/
theorem remaining_places_eq_cons (h : Standing groups positions) :
    remaining (places groups) positions =
      positions :: (advance groups positions).elim [] (remaining (places groups)) := by
  rw [remaining_eq_cons (standing_places h), pick_places h, advance_places]

/-- The odometer stands at these positions one after the other, gives these choices, and has then
come to its end. -/
inductive Turns : Odometer α → List (List Nat) → List (List α) → Prop
  | ended {odometer : Odometer α} (hnext : odometer.next? = none) : Turns odometer [] []
  | turned {odometer rest : Odometer α} {positions : List Nat} {choice : List α}
      {visited : List (List Nat)} {given : List (List α)}
      (hpositions : odometer.positions = some positions)
      (hnext : odometer.next? = some (choice, rest)) (hrest : Turns rest visited given) :
      Turns odometer (positions :: visited) (choice :: given)

theorem Turns.take_eq (h : Turns odometer visited given) (n : Nat) :
    odometer.take n = given.take n := by
  induction h generalizing n with
  | ended hnext => cases n <;> simp [take, hnext]
  | turned _ hnext _ ih =>
    cases n with
    | zero => rfl
    | succ n => rw [take, hnext, List.take_succ_cons, ← ih n]

theorem Turns.given_eq (h : Turns odometer visited given) :
    given = visited.map (pick odometer.groups) := by
  induction h with
  | ended => rfl
  | turned hpositions hnext _ ih =>
    rw [next?, hpositions, Option.map_some] at hnext
    cases hnext
    rw [List.map_cons, ih]

/-- From where the wheels stand, the odometer turns through all that remains. -/
theorem turns_remaining (h : Standing groups positions) :
    Turns ⟨groups, some positions⟩ (remaining (places groups) positions)
      (remaining groups positions) := by
  -- What remains gets shorter with each turn, so the induction is on it and not on the positions.
  generalize hgiven : remaining groups positions = given
  induction given generalizing positions with
  | nil =>
    rw [remaining_eq_cons h] at hgiven
    cases hgiven
  | cons choice given ih =>
    rw [remaining_eq_cons h] at hgiven
    obtain ⟨rfl, hmore⟩ := List.cons.inj hgiven
    rw [remaining_places_eq_cons h]
    refine .turned rfl rfl ?_
    cases hadvance : advance groups positions with
    | none =>
      rw [hadvance, Option.elim_none] at hmore
      subst hmore
      exact .ended rfl
    | some next =>
      rw [hadvance, Option.elim_some] at hmore
      exact ih (standing_of_advance h hadvance) hmore

theorem turns_start (groups : List (List α)) :
    Turns (start groups) (choices (places groups)) (choices groups) := by
  rw [start]
  by_cases hnil : groups.any List.isEmpty = true
  · have hgroup : [] ∈ groups := by simpa using hnil
    have hplace : [] ∈ places groups := List.mem_map.mpr ⟨[], hgroup, rfl⟩
    rw [if_pos hnil, choices_of_nil_mem hgroup, choices_of_nil_mem hplace]
    exact .ended rfl
  · have hgroups : ∀ group ∈ groups, group ≠ [] := by
      rintro _ hgroup rfl
      exact hnil (List.any_eq_true.mpr ⟨[], hgroup, rfl⟩)
    have hzeros := standing_zeros hgroups
    have hplaces : remaining (places groups) (groups.map fun _ => 0) = choices (places groups) := by
      rw [← remaining_zeros (Standing.ne_nil (standing_places hzeros)), places, List.map_map]
      rfl
    rw [if_neg hnil, ← hplaces, ← remaining_zeros hgroups]
    exact turns_remaining hzeros

end Odometer

/-- The odometer goes through all choices. -/
theorem combinations_eq (groups : List (List α)) : combinations groups = choices groups := by
  -- The turns are bounded by the number of choices, so the bound leaves none out.
  rw [combinations, (Odometer.turns_start groups).take_eq, ← length_choices, List.take_length]

namespace Odometer

/-- The choice has from each group the element at its position. -/
def Picks (groups : List (List α)) (positions : List Nat) (choice : List α) : Prop :=
  choice.map some = List.zipWith (fun group p => group[p]?) groups positions

theorem picks_pick (h : Standing groups positions) :
    Picks groups positions (pick groups positions) := by
  unfold Picks
  induction h with
  | nil => rfl
  | cons hp _ ih =>
    rw [pick, List.getElem?_eq_getElem hp, List.map_append, ih, List.zipWith_cons_cons,
      List.getElem?_eq_getElem hp]
    rfl

/-- The odometer stands at `visited`, gives the choices `given` and ends. These are all choices of
positions, once each and in lexicographic order, and the elements at them. -/
structure Exhausts (groups : List (List α)) (visited : List (List Nat)) (given : List (List α)) :
    Prop where
  turns : Turns (start groups) visited given
  mem_visited_iff : ∀ positions, positions ∈ visited ↔ Standing groups positions
  pairwise_visited : visited.Pairwise (List.Lex (· < ·))
  picks : List.Forall₂ (Picks groups) visited given
  mem_given_iff : ∀ choice, choice ∈ given ↔ List.Forall₂ (· ∈ ·) choice groups
  length_given : given.length = (groups.map List.length).prod
  given_of_no_groups : groups = [] → given = [[]]
  given_of_empty_group : [] ∈ groups → given = []

/-- The odometer ends, after one turn for each choice of positions. -/
theorem exhausts_combinations (groups : List (List α)) :
    ∃ visited, Exhausts groups visited (combinations groups) := by
  have hturns := turns_start groups
  rw [combinations_eq]
  refine ⟨choices (places groups), ?_⟩
  constructor
  case turns => exact hturns
  case mem_visited_iff => exact fun positions => mem_choices_places_iff
  case pairwise_visited =>
    refine pairwise_choices fun place hplace => ?_
    obtain ⟨group, -, rfl⟩ := List.mem_map.mp hplace
    exact List.pairwise_lt_range
  case picks =>
    rw [hturns.given_eq, List.forall₂_map_right_iff, List.forall₂_same]
    exact fun positions hpositions => picks_pick (mem_choices_places_iff.mp hpositions)
  case mem_given_iff => exact fun choice => mem_choices_iff
  case length_given => exact length_choices groups
  case given_of_no_groups =>
    rintro rfl
    rfl
  case given_of_empty_group => exact choices_of_nil_mem

example : combinations [['a', 'b'], ['x', 'y', 'z'], ['!']] =
    [['a', 'x', '!'], ['a', 'y', '!'], ['a', 'z', '!'], ['b', 'x', '!'], ['b', 'y', '!'],
      ['b', 'z', '!']] := by
  decide

end Odometer

end BoundaryRules
