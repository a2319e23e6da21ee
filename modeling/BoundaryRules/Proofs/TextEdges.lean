import BoundaryRules.Proofs.Compilation

/-! Contexts compared with the classes of a text. A context matches the classes next to the
boundary, or all of them on its side if it asks for the edge of the text behind them. -/
namespace BoundaryRules

/-- A context's class stands for itself, and the wildcard for every class. -/
def ClassId.Admits (expected cls : ClassId) : Prop := expected = .any ∨ expected = cls

namespace ClassIndex

/-- Past `count` characters a context, nearest class first, has the edge and no more, and it has the
edge only there. The other edge it does not have at all. -/
def EdgeOnlyPast (edge other : ClassId) (count : Nat) (context : List ClassId) : Prop :=
  ∀ j cls, context[j]? = some cls → j ≤ count ∧ (cls = edge ↔ j = count) ∧ cls ≠ other

variable {index : ClassIndex} {edge other expected : ClassId} {context : List ClassId}
  {side : List Char} {c : Char}

theorem admits_iff_classOf :
    index.admits expected c = true ↔ expected.Admits (index.classOf c) := by
  rw [admits, Bool.or_eq_true, decide_eq_true_eq, decide_eq_true_eq, ClassId.Admits,
    eq_comm (a := expected) (b := index.classOf c)]

/-- A context matches a beginning of its side, or the side as a whole with the edge behind it. -/
theorem matchesSide_iff_classOf :
    index.matchesSide edge context side = true ↔
      (∃ near, near <+: side.map index.classOf ∧ List.Forall₂ ClassId.Admits context near) ∨
        ∃ front, context = front ++ [edge] ∧
          List.Forall₂ ClassId.Admits front (side.map index.classOf) := by
  induction context generalizing side with
  | nil => simp [matchesSide]
  | cons expected context ih =>
    cases side with
    | nil =>
      simp only [matchesSide, List.map_nil, List.prefix_nil, List.forall₂_nil_right_iff]
      simp
    | cons c side =>
      rw [matchesSide, Bool.and_eq_true, admits_iff_classOf, ih, List.map_cons]
      constructor
      · rintro ⟨hadmits, ⟨near, hnear, hmeets⟩ | ⟨front, rfl, hmeets⟩⟩
        · exact .inl ⟨_ :: near, List.cons_prefix_cons.mpr ⟨rfl, hnear⟩, .cons hadmits hmeets⟩
        · exact .inr ⟨expected :: front, rfl, .cons hadmits hmeets⟩
      · rintro (⟨_, hnear, hmeets⟩ | ⟨_, heq, hmeets⟩)
        · obtain ⟨cls, near, hadmits, hmore, rfl⟩ := List.forall₂_cons_left_iff.mp hmeets
          obtain ⟨rfl, hprefix⟩ := List.cons_prefix_cons.mp hnear
          exact ⟨hadmits, .inl ⟨near, hprefix, hmore⟩⟩
        · obtain ⟨first, front, hadmits, hmore, rfl⟩ := List.forall₂_cons_right_iff.mp hmeets
          obtain ⟨rfl, rfl⟩ := List.cons.inj heq
          exact ⟨hadmits, .inr ⟨front, rfl, hmore⟩⟩

/-- The same read in the direction of the text, with the side in front of the boundary. -/
theorem matchesSide_reverse_iff_classOf :
    index.matchesSide edge context.reverse side.reverse = true ↔
      (∃ near, near <:+ side.map index.classOf ∧ List.Forall₂ ClassId.Admits context near) ∨
        ∃ rest, context = edge :: rest ∧
          List.Forall₂ ClassId.Admits rest (side.map index.classOf) := by
  rw [matchesSide_iff_classOf, List.map_reverse]
  refine or_congr (List.reverse_surjective.exists.trans ?_)
    (List.reverse_surjective.exists.trans ?_)
  · simp only [List.reverse_prefix, List.forall₂_reverse_iff]
  · simp only [← List.reverse_cons, List.reverse_inj, List.forall₂_reverse_iff]

/-- Characters are of no edge, and the wildcard is not met by one. -/
theorem edgeOnlyPast_of_matchesSide (hedge : ∀ c, index.classOf c ≠ edge)
    (hother : ∀ c, index.classOf c ≠ other) (hany : edge ≠ .any ∧ other ≠ .any ∧ edge ≠ other)
    (h : index.matchesSide edge context side = true) :
    EdgeOnlyPast edge other side.length context := by
  induction context generalizing side with
  | nil => simp [EdgeOnlyPast]
  | cons expected context ih =>
    intro j cls hj
    cases side with
    | nil =>
      simp only [matchesSide, Bool.and_eq_true, decide_eq_true_eq, List.isEmpty_iff] at h
      obtain ⟨rfl, rfl⟩ := h
      obtain ⟨rfl, rfl⟩ : j = 0 ∧ expected = cls := by
        cases j <;> simp_all
      exact ⟨Nat.le_refl _, by simp, hany.2.2⟩
    | cons c side =>
      rw [matchesSide, Bool.and_eq_true, admits_iff_classOf] at h
      obtain ⟨hadmits, hmore⟩ := h
      cases j with
      | zero =>
        obtain rfl := Option.some.inj hj
        refine ⟨Nat.zero_le _, ?_, ?_⟩
        · rcases hadmits with rfl | rfl
          · simp [Ne.symm hany.1]
          · simp [hedge c]
        · rcases hadmits with rfl | rfl
          · exact Ne.symm hany.2.1
          · exact hother c
      | succ j =>
        have := ih hmore j cls hj
        simpa using this

end ClassIndex

namespace Ruleset

open ClassIndex (EdgeOnlyPast)

variable {classes : List CharClass} {index : ClassIndex} {rules : List Rule} {ruleset : Ruleset}

/-- A left context matches the last classes of what stands before the boundary, or all of them
behind the start of the text; a right context the first classes of what stands after it, or all of
them in front of its end. The wildcard matches no edge, and an edge no character and nothing
beyond itself. -/
theorem matches_iff_classOf (hindex : ClassIndex.build classes = .ok index)
    (hruleset : compile index rules = .ok ruleset) (context : List ClassId)
    (before ahead : List Char) :
    (ruleset.matchesBehind context before.reverse = true ↔
      (∃ near, near <:+ before.map index.classOf ∧ List.Forall₂ ClassId.Admits context near) ∨
        ∃ rest, context = .start :: rest ∧
          List.Forall₂ ClassId.Admits rest (before.map index.classOf)) ∧
    (ruleset.matchesAhead context ahead = true ↔
      (∃ near, near <+: ahead.map index.classOf ∧ List.Forall₂ ClassId.Admits context near) ∨
        ∃ front, context = front ++ [.stop] ∧
          List.Forall₂ ClassId.Admits front (ahead.map index.classOf)) ∧
    (ruleset.matchesBehind context before.reverse = true →
      EdgeOnlyPast .start .stop before.length context.reverse) ∧
    (ruleset.matchesAhead context ahead = true →
      EdgeOnlyPast .stop .start ahead.length context) := by
  have hclass := ClassIndex.classOf_ne_of_build hindex
  obtain rfl := classes_of_compile hruleset
  refine ⟨ClassIndex.matchesSide_reverse_iff_classOf, ClassIndex.matchesSide_iff_classOf,
    fun h => ?_, ?_⟩
  · rw [← List.length_reverse]
    exact ClassIndex.edgeOnlyPast_of_matchesSide (fun c => (hclass c).1) (fun c => (hclass c).2.1)
      (by decide) h
  · exact ClassIndex.edgeOnlyPast_of_matchesSide (fun c => (hclass c).2.1) (fun c => (hclass c).1)
      (by decide)

end Ruleset

/-! A grammar of capitals that are joined at the edges of a text only. -/
namespace Borders

def classes : List CharClass := [⟨"CAPITAL", [⟨65, 90, by decide⟩]⟩]

def rules : List Rule :=
  [⟨"R1", ["SOT", "CAPITAL"], ["CAPITAL"], "CAPITAL", .join, by decide, by decide, by decide,
      by decide⟩,
    ⟨"R2", ["CAPITAL"], ["CAPITAL", "EOT"], "CAPITAL", .join, by decide, by decide, by decide,
      by decide⟩]

/-- Behind the first capital of a text its start is seen, and in front of the last its end. -/
theorem matches_of_borders :
    ∃ index ruleset, ClassIndex.build classes = .ok index ∧
      Ruleset.compile index rules = .ok ruleset ∧
      ruleset.matchesBehind [.start, ⟨4⟩] ['A'].reverse = true ∧
      ruleset.matchesAhead [⟨4⟩, .stop] ['B'] = true ∧
      ruleset.matchesAhead [⟨4⟩, .any] ['B'] = false ∧
      ClassIndex.EdgeOnlyPast .start .stop 1 [⟨4⟩, .start] := by
  have hindex : ClassIndex.build classes = .ok (.ofCollected (ClassIndex.builtIns ++ classes)) := by
    decide +kernel
  have hmatches : (Ruleset.compile (.ofCollected (ClassIndex.builtIns ++ classes)) rules).map
      (fun ruleset => (ruleset.matchesBehind [.start, ⟨4⟩] ['A'].reverse,
        ruleset.matchesAhead [⟨4⟩, .stop] ['B'])) = .ok (true, true) := by
    decide +kernel
  obtain ⟨ruleset, hruleset, hboth⟩ := map_eq_ok_iff.mp hmatches
  obtain ⟨hbehind, hahead⟩ := Prod.mk.inj hboth
  obtain ⟨-, -, hedge, -⟩ :=
    Ruleset.matches_iff_classOf hindex hruleset [.start, ⟨4⟩] ['A'] ['B']
  obtain ⟨-, -, -, hwildcard⟩ :=
    Ruleset.matches_iff_classOf hindex hruleset [⟨4⟩, .any] ['A'] ['B']
  refine ⟨_, ruleset, hindex, hruleset, hbehind, hahead, ?_, hedge hbehind⟩
  rw [← Bool.not_eq_true]
  intro hmatch
  exact absurd ((hwildcard hmatch 1 .any rfl).2.1.mpr rfl) (by decide)

end Borders
end BoundaryRules
