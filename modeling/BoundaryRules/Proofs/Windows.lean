import BoundaryRules.Proofs.Compilation
import Mathlib.Data.List.Find
import Mathlib.Data.List.MinMax

/-! What a selection sees of a text: on each side of the boundary as many classes as the longest
context of the rules has. -/
namespace BoundaryRules

/-- The length of the longest context that rules have on one side. -/
def Rule.longest (side : Rule → List String) (rules : List Rule) : Nat :=
  (rules.map fun rule => (side rule).length).foldr max 0

namespace Rule

variable {side : Rule → List String} {rules : List Rule} {rule : Rule}

theorem length_le_longest (h : rule ∈ rules) : (side rule).length ≤ longest side rules :=
  List.le_max_of_le' 0 (List.mem_map_of_mem h) (Nat.le_refl _)

theorem longest_pos (hrules : rules ≠ []) (hside : ∀ rule ∈ rules, side rule ≠ []) :
    0 < longest side rules := by
  obtain ⟨rule, hmem⟩ := List.exists_mem_of_ne_nil rules hrules
  have hlength := List.length_pos_iff.mpr (hside rule hmem)
  exact Nat.lt_of_lt_of_le hlength (length_le_longest hmem)

end Rule

namespace ClassIndex

variable {index : ClassIndex} {edge : ClassId} {context : List ClassId} {side other : List Char}
  {k : Nat} {c : Char}

/-- The first `k` classes on one side of a boundary. Behind the last character stands the edge of
the text, and behind that nothing. -/
def window (index : ClassIndex) (edge : ClassId) (k : Nat) (side : List Char) : List ClassId :=
  (side.map index.classOf ++ [edge]).take k

theorem window_nil : index.window edge (k + 1) [] = [edge] := by
  simp [window]

theorem window_cons :
    index.window edge (k + 1) (c :: side) = index.classOf c :: index.window edge k side := by
  simp [window]

/-- The edge is not in sight where there are enough characters. -/
theorem window_of_le_length (h : k ≤ side.length) :
    index.window edge k side = (side.take k).map index.classOf := by
  rw [window, List.take_append_of_le_length (by simpa using h), List.map_take]

/-- A context that is no longer than the window cannot tell sides with the same window apart. -/
theorem matchesSide_eq_of_window (hedge : ∀ c, index.classOf c ≠ edge)
    (h : index.window edge k side = index.window edge k other) (hlength : context.length ≤ k) :
    index.matchesSide edge context side = index.matchesSide edge context other := by
  induction context generalizing side other k with
  | nil => rw [matchesSide, matchesSide]
  | cons expected context ih =>
    obtain ⟨k, rfl⟩ := Nat.exists_eq_add_of_lt (Nat.lt_of_lt_of_le (Nat.succ_pos _) hlength)
    rw [Nat.zero_add] at h hlength
    cases side with
    | nil => cases other with
      | nil => rfl
      | cons d other =>
        rw [window_nil, window_cons] at h
        exact absurd (List.cons.inj h).1.symm (hedge d)
    | cons c side => cases other with
      | nil =>
        rw [window_nil, window_cons] at h
        exact absurd (List.cons.inj h).1 (hedge c)
      | cons d other =>
        rw [window_cons, window_cons] at h
        obtain ⟨hclass, hmore⟩ := List.cons.inj h
        rw [matchesSide, matchesSide, admits, admits, hclass,
          ih hmore (Nat.le_of_succ_le_succ hlength)]

end ClassIndex

namespace Ruleset

variable {classes : List CharClass} {index : ClassIndex} {rules : List Rule} {ruleset : Ruleset}
  {behind behind' ahead ahead' : List Char} {rule : CompiledRule} {k : Nat}

theorem nextClass_eq_of_window (hk : 0 < k)
    (h : ruleset.classes.window .stop k ahead = ruleset.classes.window .stop k ahead') :
    ruleset.nextClass ahead = ruleset.nextClass ahead' := by
  have hhead : ∀ side, (ruleset.classes.window .stop k side).head? =
      some (ruleset.nextClass side) := by
    intro side
    obtain ⟨k, rfl⟩ := Nat.exists_eq_add_of_lt hk
    cases side with
    | nil => rw [ClassIndex.window_nil]; rfl
    | cons c side => rw [ClassIndex.window_cons]; rfl
  have hsame := hhead ahead
  rw [h, hhead ahead'] at hsame
  exact (Option.some.inj hsame).symm

theorem length_le_of_mem_bucket {key : BoundaryKey} (hruleset : compile index rules = .ok ruleset)
    (h : rule ∈ ruleset.bucket key) :
    rule.left.length ≤ Rule.longest Rule.left rules ∧
      rule.right.length ≤ Rule.longest Rule.right rules := by
  obtain ⟨source, hsource, hcompile⟩ := exists_source_of_mem_bucket hruleset h
  obtain ⟨hleft, hright⟩ := CompiledRule.length_of_compile hcompile
  rw [hleft, hright]
  exact ⟨Rule.length_le_longest hsource, Rule.length_le_longest hsource⟩

/-- Between sides with the same windows the same rule is selected. -/
theorem select_eq_of_window (hindex : ClassIndex.build classes = .ok index)
    (hruleset : compile index rules = .ok ruleset) (hrules : rules ≠ [])
    (hbehind : ruleset.classes.window .start (Rule.longest Rule.left rules) behind =
      ruleset.classes.window .start (Rule.longest Rule.left rules) behind')
    (hahead : ruleset.classes.window .stop (Rule.longest Rule.right rules) ahead =
      ruleset.classes.window .stop (Rule.longest Rule.right rules) ahead')
    (state : ClassId) :
    ruleset.select behind ahead state = ruleset.select behind' ahead' state := by
  have hclass := classOf_ne_of_compile hindex hruleset
  have hverify : ∀ key, ∀ rule ∈ ruleset.bucket key,
      ruleset.verify behind ahead rule = ruleset.verify behind' ahead' rule := by
    intro key rule hmem
    obtain ⟨hleft, hright⟩ := length_le_of_mem_bucket hruleset hmem
    rw [← List.length_reverse] at hleft
    rw [verify, verify, matchesBehind, matchesBehind, matchesAhead, matchesAhead,
      ClassIndex.matchesSide_eq_of_window (fun c => (hclass c).1) hbehind hleft,
      ClassIndex.matchesSide_eq_of_window (fun c => (hclass c).2.1) hahead hright]
  have hfrom : ruleset.selectFrom behind ahead = ruleset.selectFrom behind' ahead' := by
    funext key
    by_cases hone : (ruleset.bucket key).length = 1
    · obtain ⟨rule, hbucket⟩ := List.length_eq_one_iff.mp hone
      rw [selectFrom_of_singleton hbucket, selectFrom_of_singleton hbucket]
    · rw [selectFrom_of_length_ne_one hone, selectFrom_of_length_ne_one hone]
      exact List.find?_congr (hverify key)
  have hpos := Rule.longest_pos hrules fun rule _ => rule.right_ne_nil
  rw [select, select, nextClass_eq_of_window hpos hahead, hfrom]

end Ruleset
end BoundaryRules
