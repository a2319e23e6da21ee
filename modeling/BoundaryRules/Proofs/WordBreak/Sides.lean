import BoundaryRules.Proofs.WordBreak.Agreement

/-! Boundaries of the bundled grammar by the classes on both sides. Whether a word goes on from one
part of a text to the next depends on the nearest class that is left of the first part and on the
classes that the contexts of the rules reach. -/
namespace BoundaryRules.WordBreak

/-- A word goes on from `front` to `back`: a rule joins them, or an ignored character is
absorbed. -/
def GoesOn (front back : List WordBreak) : Prop :=
  ∃ v w, (remaining none front).getLast? = some v ∧ back.head? = some w ∧
    (JoinsAsFiled v w front.reverse back ∨ (w.isIgnored && !v.isLineBreak) = true)

/-- The contexts of a rule are found next to a boundary. -/
def Found (front back : List WordBreak) (rule : List WordBreak × List WordBreak) : Prop :=
  rule.1.reverse <+: front.reverse ∧ rule.2 <+: back

instance (front back : List WordBreak) : DecidablePred (Found front back) :=
  fun rule => inferInstanceAs (Decidable (rule.1.reverse <+: front.reverse ∧ rule.2 <+: back))

section Classes

variable {s t front front' back back' context : List WordBreak} {v w : WordBreak}
  {previous previous' : Option WordBreak}

theorem goesOn_iff (hv : (remaining none front).getLast? = some v) (hw : back.head? = some w) :
    GoesOn front back ↔
      JoinsAsFiled v w front.reverse back ∨ (w.isIgnored && !v.isLineBreak) = true := by
  rw [GoesOn, hv, hw]
  simp

/-- The nearest class that is left of a part is its last one, unless this is ignored, and a line
break only with it. -/
theorem exists_nearest (h : s ≠ []) :
    ∃ u v, s.getLast? = some u ∧ (remaining none s).getLast? = some v ∧
      (u.isIgnored = false → v = u) ∧ v.isLineBreak = u.isLineBreak := by
  have hnearest := exists_head?_before (List.length_pos_iff.mpr h) (Nat.le_refl s.length)
  rwa [before, List.take_length, List.head?_reverse] at hnearest

/-- Of what stands before a part, only whether it can take an ignored character counts. -/
theorem remaining_congr (h : previous.any (!·.isLineBreak) = previous'.any (!·.isLineBreak)) :
    remaining previous s = remaining previous' s := by
  cases s with
  | nil => rfl
  | cons w s => rw [remaining, remaining, h]

theorem remaining_none_ne_nil (h : s ≠ []) : remaining none s ≠ [] := by
  cases s with
  | nil => contradiction
  | cons w s => simp [remaining]

/-- A context is found in what stands in front unless it reaches over the end of it. -/
theorem prefix_append_iff (h : ∀ w ∈ back.head?, ¬ front ++ [w] <+: context) :
    context <+: front ++ back ↔ context <+: front := by
  refine ⟨?_, fun hcontext => hcontext.trans (List.prefix_append front back)⟩
  intro hcontext
  rcases List.prefix_or_prefix_of_prefix hcontext (List.prefix_append front back) with
    hshort | ⟨rest, rfl⟩
  · exact hshort
  · cases rest with
    | nil => simp
    | cons w rest =>
      obtain ⟨more, hback⟩ := (List.prefix_append_right_inj front).mp hcontext
      have hover : front ++ [w] <+: front ++ w :: rest := ⟨rest, by simp⟩
      exact absurd hover (h w (by rw [← hback]; rfl))

/-- Whether a word goes on depends on the classes next to the boundary and on which contexts are
found there. -/
theorem goesOn_congr (hnearest : (remaining none front').getLast? = (remaining none front).getLast?)
    (hnext : back'.head? = back.head?)
    (hfound : ∀ rule ∈ definiteRules, Found front' back' rule ↔ Found front back rule) :
    GoesOn front' back' ↔ GoesOn front back := by
  rw [GoesOn, GoesOn, hnearest, hnext]
  refine exists_congr fun v => exists_congr fun w => and_congr_right fun _ =>
    and_congr_right fun _ => or_congr_left (or_congr_right (exists_congr fun rule => ?_))
  apply and_congr_right
  intro hrule
  exact hfound rule (mem_rulesBetween.mp hrule).1

end Classes

section Filed

variable {ruleset : Ruleset} {text other : List Char} {i j : Nat} (hfiled : Filed ruleset)
  (hclass : ∀ c, ruleset.classes.classOf c = (ofChar c).classId)
include hfiled hclass

theorem breaksAt_eq_false_iff_goesOn (hpos : 0 < i) (hlt : i < text.length) :
    ruleset.breaksAt text i = false ↔
      GoesOn ((text.take i).map ofChar) ((text.drop i).map ofChar) := by
  obtain ⟨u, v, w, h⟩ : ∃ u v w, Interior (text.map ofChar) i u v w :=
    exists_interior hpos (by simpa using hlt)
  have hv : (remaining none ((text.map ofChar).take i)).getLast? = some v := by
    rw [← List.head?_reverse]
    exact h.nearest
  rw [breaksAt_eq_false_iff_of_filed hfiled hclass h hpos hlt, List.map_take, List.map_drop,
    goesOn_iff hv h.head?_drop]

/-- Two boundaries are alike if a word goes on at both or at neither. -/
theorem breaksAt_eq_iff_goesOn (hpos : 0 < i) (hlt : i < text.length) (hpos' : 0 < j)
    (hlt' : j < other.length) :
    ruleset.breaksAt text i = ruleset.breaksAt other j ↔
      (GoesOn ((text.take i).map ofChar) ((text.drop i).map ofChar) ↔
        GoesOn ((other.take j).map ofChar) ((other.drop j).map ofChar)) := by
  rw [← breaksAt_eq_false_iff_goesOn hfiled hclass hpos hlt,
    ← breaksAt_eq_false_iff_goesOn hfiled hclass hpos' hlt']
  cases ruleset.breaksAt text i <;> cases ruleset.breaksAt other j <;> simp

end Filed

end BoundaryRules.WordBreak
