import BoundaryRules.Odometer
import Mathlib.Data.List.Forall2

/-! Choices of one element from each of several groups. -/
namespace BoundaryRules

variable {α : Type} {group : List α} {groups : List (List α)}

/-- All choices of one element from each group, in lexicographic order of the positions. -/
def choices : List (List α) → List (List α)
  | [] => [[]]
  | group :: groups => group.flatMap fun a => (choices groups).map (a :: ·)

theorem length_choices (groups : List (List α)) :
    (choices groups).length = Odometer.total groups := by
  induction groups with
  | nil => rfl
  | cons group groups ih =>
    simp only [choices, List.length_flatMap, List.length_map, ih, List.map_const',
      List.sum_replicate_nat, Odometer.total, List.map_cons, List.foldr_cons]

theorem mem_choices_iff {choice : List α} :
    choice ∈ choices groups ↔ List.Forall₂ (· ∈ ·) choice groups := by
  induction groups generalizing choice with
  | nil => simp [choices]
  | cons group groups ih =>
    simp only [choices, List.mem_flatMap, List.mem_map, ih, List.forall₂_cons_right_iff]
    constructor
    · rintro ⟨a, ha, rest, hrest, rfl⟩
      exact ⟨a, rest, ha, hrest, rfl⟩
    · rintro ⟨a, rest, ha, hrest, rfl⟩
      exact ⟨a, ha, rest, hrest, rfl⟩

theorem exists_mem_choices (h : ∀ group ∈ groups, group ≠ []) :
    ∃ choice, choice ∈ choices groups := by
  simp only [mem_choices_iff]
  induction groups with
  | nil => exact ⟨[], .nil⟩
  | cons group groups ih =>
    obtain ⟨hgroup, hgroups⟩ := List.forall_mem_cons.mp h
    obtain ⟨b, hb⟩ := List.exists_mem_of_ne_nil group hgroup
    obtain ⟨choice, hchoice⟩ := ih hgroups
    exact ⟨b :: choice, .cons hb hchoice⟩

/-- Every element of a group is in some choice, as no group is empty. -/
theorem exists_mem_choices_of_mem {a : α} (h : ∀ group ∈ groups, group ≠ [])
    (hgroup : group ∈ groups) (ha : a ∈ group) : ∃ choice ∈ choices groups, a ∈ choice := by
  induction groups with
  | nil => cases hgroup
  | cons other groups ih =>
    obtain ⟨hother, hgroups⟩ := List.forall_mem_cons.mp h
    rcases List.mem_cons.mp hgroup with rfl | hgroup
    · obtain ⟨choice, hchoice⟩ := exists_mem_choices hgroups
      refine ⟨a :: choice, mem_choices_iff.mpr (.cons ha (mem_choices_iff.mp hchoice)), ?_⟩
      exact List.mem_cons_self
    · obtain ⟨b, hb⟩ := List.exists_mem_of_ne_nil other hother
      obtain ⟨choice, hchoice, hmem⟩ := ih hgroups hgroup
      refine ⟨b :: choice, mem_choices_iff.mpr (.cons hb (mem_choices_iff.mp hchoice)), ?_⟩
      exact List.mem_cons_of_mem b hmem

theorem exists_group_of_mem_choice {choice : List α} {a : α} (h : choice ∈ choices groups)
    (ha : a ∈ choice) : ∃ group ∈ groups, a ∈ group := by
  have hmem := mem_choices_iff.mp h
  clear h
  induction hmem with
  | nil => cases ha
  | @cons b group choice groups hb _ ih =>
    rcases List.mem_cons.mp ha with rfl | ha
    · exact ⟨group, List.mem_cons_self, hb⟩
    · obtain ⟨other, hother, hmem⟩ := ih ha
      exact ⟨other, List.mem_cons_of_mem group hother, hmem⟩

theorem length_of_mem_choices {choice : List α} (h : choice ∈ choices groups) :
    choice.length = groups.length :=
  (mem_choices_iff.mp h).length_eq

theorem choices_of_nil_mem (h : [] ∈ groups) : choices groups = [] := by
  induction groups with
  | nil => cases h
  | cons group groups ih =>
    rcases List.mem_cons.mp h with rfl | h
    · rfl
    · rw [choices, ih h]
      simp

/-- If the groups are in order, so are the choices, the last group fastest. -/
theorem pairwise_choices {r : α → α → Prop} (h : ∀ group ∈ groups, group.Pairwise r) :
    (choices groups).Pairwise (List.Lex r) := by
  induction groups with
  | nil => exact List.pairwise_singleton _ _
  | cons group groups ih =>
    obtain ⟨hgroup, hgroups⟩ := List.forall_mem_cons.mp h
    rw [choices, List.pairwise_flatMap]
    constructor
    · intro a _
      exact List.pairwise_map.mpr ((ih hgroups).imp List.Lex.cons)
    · refine hgroup.imp fun hab left hleft right hright => ?_
      obtain ⟨_, -, rfl⟩ := List.mem_map.mp hleft
      obtain ⟨_, -, rfl⟩ := List.mem_map.mp hright
      exact .rel hab

end BoundaryRules
