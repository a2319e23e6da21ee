import BoundaryRules.Selection
import Mathlib.Data.List.Forall2

/-! Contexts read as patterns over the places on one side of a boundary. The places are the
characters of that side, the nearest first, and after the last of them the edge of the text. -/
namespace BoundaryRules

namespace ClassIndex

/-- What stands on one side of a boundary; `none` is the edge of the text. -/
def placesOf (side : List Char) : List (Option Char) := side.map some ++ [none]

/-- Whether what stands in a place is of the class asked for. The wildcard asks for a character,
so it is not met by the edge. -/
def Meets (index : ClassIndex) (edge expected : ClassId) : Option Char → Prop
  | some c => expected = .any ∨ index.classOf c = expected
  | none => expected = edge

/-- A context is met by the places next to the boundary, one class by each. -/
def MeetsSide (index : ClassIndex) (edge : ClassId) (context : List ClassId)
    (side : List Char) : Prop :=
  ∃ places, places <+: placesOf side ∧ List.Forall₂ (index.Meets edge) context places

variable {index : ClassIndex} {edge expected : ClassId} {context : List ClassId}

theorem meetsSide_nil (side : List Char) : index.MeetsSide edge [] side :=
  ⟨[], List.nil_prefix, .nil⟩

theorem meetsSide_cons_cons {c : Char} {side : List Char} :
    index.MeetsSide edge (expected :: context) (c :: side) ↔
      index.Meets edge expected (some c) ∧ index.MeetsSide edge context side := by
  constructor
  · rintro ⟨_, hfront, hmeets⟩
    obtain ⟨place, places, hhead, htail, rfl⟩ := List.forall₂_cons_left_iff.mp hmeets
    obtain ⟨rfl, hplaces⟩ := List.cons_prefix_cons.mp hfront
    exact ⟨hhead, places, hplaces, htail⟩
  · rintro ⟨hhead, places, hfront, htail⟩
    exact ⟨some c :: places, List.cons_prefix_cons.mpr ⟨rfl, hfront⟩, .cons hhead htail⟩

/-- Past the last character only the edge is left, and nothing beyond it. -/
theorem meetsSide_cons_nil :
    index.MeetsSide edge (expected :: context) [] ↔ expected = edge ∧ context = [] := by
  constructor
  · rintro ⟨_, hfront, hmeets⟩
    obtain ⟨place, places, hhead, htail, rfl⟩ := List.forall₂_cons_left_iff.mp hmeets
    obtain ⟨rfl, hplaces⟩ := List.cons_prefix_cons.mp hfront
    obtain rfl := List.prefix_nil.mp hplaces
    exact ⟨hhead, List.forall₂_nil_right_iff.mp htail⟩
  · rintro ⟨rfl, rfl⟩
    exact ⟨[none], List.prefix_refl _, .cons rfl .nil⟩

theorem admits_iff (edge : ClassId) {c : Char} :
    index.admits expected c = true ↔ index.Meets edge expected (some c) := by
  simp [admits, Meets]

/-- The walk along a side finds out whether its places meet the context. -/
theorem matchesSide_iff {side : List Char} :
    index.matchesSide edge context side = true ↔ index.MeetsSide edge context side := by
  induction context generalizing side with
  | nil => simpa [matchesSide] using meetsSide_nil side
  | cons expected context ih =>
    cases side with
    | nil => simp [matchesSide, meetsSide_cons_nil, List.isEmpty_iff]
    | cons c side =>
      rw [matchesSide, Bool.and_eq_true, admits_iff edge, ih, meetsSide_cons_cons]

end ClassIndex

namespace Ruleset

/-- Both contexts of a rule are met at the boundary between `behind` and `ahead`. -/
def MeetsContexts (ruleset : Ruleset) (behind ahead : List Char) (rule : CompiledRule) : Prop :=
  ruleset.classes.MeetsSide .start rule.left.reverse behind ∧
    ruleset.classes.MeetsSide .stop rule.right ahead

theorem verify_iff {ruleset : Ruleset} {behind ahead : List Char} {rule : CompiledRule} :
    ruleset.verify behind ahead rule = true ↔ ruleset.MeetsContexts behind ahead rule := by
  simp only [verify, matchesBehind, matchesAhead, Bool.and_eq_true, ClassIndex.matchesSide_iff,
    MeetsContexts]

end Ruleset
end BoundaryRules
