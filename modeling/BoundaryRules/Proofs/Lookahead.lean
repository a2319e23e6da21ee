import BoundaryRules.Proofs.Locality
import BoundaryRules.Proofs.Requests

/-! How far a scan looks ahead. A boundary is decided on by no more characters behind it than the
longest right context has, so texts with a common beginning have the same segments up to there. -/
namespace BoundaryRules

/-- The offset in bytes at which a segment ends. -/
def Segment.endOffset (segment : Segment) : Nat := segment.offset + segment.text.utf8ByteSize

theorem Place.Within.endOffset_eq {text ahead : List Char} {place : Place} {segment : Segment}
    (h : place.Within text ahead) (hsome : place.segment? = some segment) :
    segment.endOffset = place.cursor := by
  have hstart := h.start_add
  unfold segment? at hsome
  split at hsome
  · contradiction
  · rw [← Option.some.inj hsome, Segment.endOffset, utf8ByteSize_ofList, Utf8.length_reverse]
    exact hstart

/-- What texts have in common begins alike. -/
theorem take_eq_of_le {s t : List Char} {i n : Nat} (hsame : s.take n = t.take n) (hi : i ≤ n) :
    s.take i = t.take i := by
  have htake := congrArg (List.take i) hsame
  rwa [List.take_take, List.take_take, Nat.min_eq_left hi] at htake

namespace Place

variable {ruleset : Ruleset} {place : Place} {c : Char} {ahead ahead' : List Char}

theorem cursor_step (ruleset : Ruleset) (place : Place) (c : Char) (ahead : List Char) :
    (place.step ruleset c ahead).2.cursor = place.cursor + c.utf8Size := by
  rcases step_cases ruleset place c ahead with hcut | ⟨cls, hgoes⟩
  · rw [hcut]
    rfl
  · rw [hgoes]
    rfl

/-- A step looks at the text ahead only to select a rule. -/
theorem step_congr (h : ruleset.select place.behind (c :: ahead) place.state =
      ruleset.select place.behind (c :: ahead') place.state) :
    place.step ruleset c ahead = place.step ruleset c ahead' := by
  unfold step
  rw [h]

end Place

/-- Either the edge of the text is not in sight, or the sides are one. -/
theorem ClassIndex.window_eq_of_take_eq {side other : List Char} {k : Nat} (index : ClassIndex)
    (edge : ClassId) (h : side.take k = other.take k) :
    index.window edge k side = index.window edge k other := by
  have hlength := congrArg List.length h
  rw [List.length_take, List.length_take] at hlength
  rcases Nat.lt_or_ge side.length k with hshort | hlong
  · rw [List.take_of_length_le (by omega), List.take_of_length_le (by omega)] at h
    rw [h]
  · rw [window_of_le_length hlong, window_of_le_length (by omega), h]

namespace Ruleset

variable {classes : List CharClass} {index : ClassIndex} {rules : List Rule} {ruleset : Ruleset}
  {s t : List Char} {i k n : Nat}

/-- No rule is selected by more than `k` characters ahead. -/
def LooksAhead (ruleset : Ruleset) (k : Nat) : Prop :=
  ∀ behind ahead ahead' state, ahead.take k = ahead'.take k →
    ruleset.select behind ahead state = ruleset.select behind ahead' state

theorem looksAhead_longest (hindex : ClassIndex.build classes = .ok index)
    (hruleset : compile index rules = .ok ruleset) (hne : rules ≠ []) :
    ruleset.LooksAhead (Rule.longest Rule.right rules) := by
  intro behind ahead ahead' state h
  exact select_eq_of_window hindex hruleset hne rfl
    (ruleset.classes.window_eq_of_take_eq .stop h) state

theorem take_drop_eq (hsame : s.take n = t.take n) (hi : i + k ≤ n) :
    (s.drop i).take k = (t.drop i).take k := by
  rw [List.take_drop, List.take_drop, take_eq_of_le hsame hi]

theorem LooksAhead.ruleAt_eq (h : ruleset.LooksAhead k) (hsame : s.take n = t.take n)
    (hi : i + k ≤ n) (hstate : ruleset.stateAt s i = ruleset.stateAt t i) :
    ruleset.ruleAt s i = ruleset.ruleAt t i := by
  rw [ruleAt, ruleAt, take_eq_of_le hsame (Nat.le_of_add_right_le hi), hstate]
  exact h _ _ _ _ (take_drop_eq hsame hi)

/-- Scans of texts with a common beginning stay in step. -/
theorem LooksAhead.stateAt_eq (h : ruleset.LooksAhead k) (hk : 0 < k) (hsame : s.take n = t.take n)
    (hi : i + k ≤ n) : ruleset.stateAt s i = ruleset.stateAt t i := by
  induction i with
  | zero => rfl
  | succ i ih =>
    have hstate := ih (by omega)
    have hahead := take_drop_eq hsame (show i + k ≤ n by omega)
    have hnext : ruleset.nextClass (s.drop i) = ruleset.nextClass (t.drop i) :=
      nextClass_eq_of_window hk (ruleset.classes.window_eq_of_take_eq .stop hahead)
    rw [stateAt_succ, stateAt_succ, hstate, hnext, h.ruleAt_eq hsame (by omega) hstate]

end Ruleset

namespace Scan

variable {ruleset : Ruleset} {text text' ahead ahead' : List Char} {place : Place}
  {segment : Segment} {bound k m r : Nat}

section Filter

variable (hclass : ∀ c, ruleset.classes.classOf c ≠ .any)
include hclass

/-- What is to come does not end before the place that a scan has reached. -/
theorem cursor_le_endOffset (h : place.Within text ahead)
    (hmem : segment ∈ (collect ruleset [] place ahead).1) : place.cursor ≤ segment.endOffset := by
  induction ahead generalizing place with
  | nil =>
    by_cases hstop : place.state = .stop
    · simp [collect_of_stop hstop] at hmem
    · rw [collect_nil hstop, List.append_nil, List.mem_reverse, Option.mem_toList] at hmem
      exact Nat.le_of_eq (h.endOffset_eq hmem).symm
  | cons c ahead ih =>
    by_cases hstop : place.state = .stop
    · simp [collect_of_stop hstop] at hmem
    · rw [collect_cons_eq hstop, List.mem_append, Option.mem_toList] at hmem
      rcases hmem with hended | hlater
      · exact Nat.le_of_eq (h.endOffset_eq (Place.segment?_of_step hended)).symm
      · have hcursor := place.cursor_step ruleset c ahead
        have hle := ih (h.step hclass) hlater
        omega

theorem filter_collect_eq_nil (h : place.Within text ahead) (hbound : bound < place.cursor) :
    (collect ruleset [] place ahead).1.filter (·.endOffset ≤ bound) = [] := by
  rw [List.filter_eq_nil_iff]
  intro segment hmem
  have hle := cursor_le_endOffset hclass h hmem
  simp
  omega

/-- Scans that have passed the same text find the same segments in what they have in common,
except for its end, which may be seen by the rules. -/
theorem filter_collect_eq (hlooks : ruleset.LooksAhead k) (hrm : r + k ≤ m) (hk : 0 < k)
    (hsame : ahead.take m = ahead'.take m) (h : place.Within text ahead)
    (h' : place.Within text' ahead') :
    (collect ruleset [] place ahead).1.filter
        (·.endOffset ≤ place.cursor + Utf8.length (ahead.take r)) =
      (collect ruleset [] place ahead').1.filter
        (·.endOffset ≤ place.cursor + Utf8.length (ahead.take r)) := by
  induction ahead generalizing place ahead' m r with
  | nil =>
    have hm : m ≠ 0 := by omega
    have hnil : ahead' = [] := by simpa [hm] using hsame.symm
    rw [hnil]
  | cons c ahead ih =>
    obtain ⟨m, rfl⟩ : ∃ m', m = m' + 1 := ⟨m - 1, by omega⟩
    cases ahead' with
    | nil => simp at hsame
    | cons d ahead' =>
      rw [List.take_succ_cons, List.take_succ_cons] at hsame
      obtain ⟨rfl, hmore⟩ := List.cons.inj hsame
      by_cases hstop : place.state = .stop
      · rw [collect_of_stop hstop, collect_of_stop hstop]
      have hview : (c :: ahead).take k = (c :: ahead').take k :=
        take_eq_of_le (n := m + 1) (congrArg (c :: ·) hmore) (by omega)
      have hstep : place.step ruleset c ahead = place.step ruleset c ahead' :=
        Place.step_congr (hlooks _ _ _ _ hview)
      have hnext := h.step hclass
      have hnext' := h'.step hclass
      rw [← hstep] at hnext'
      have hcursor := place.cursor_step ruleset c ahead
      have hwidth := c.utf8Size_pos
      rw [collect_cons_eq hstop, collect_cons_eq hstop, ← hstep, List.filter_append,
        List.filter_append]
      congr 1
      cases r with
      | zero =>
        -- All that is to come ends behind the place in question.
        have hbehind : place.cursor + Utf8.length ((c :: ahead).take 0) <
            (place.step ruleset c ahead).2.cursor := by
          rw [List.take_zero, Utf8.length_nil]
          omega
        rw [filter_collect_eq_nil hclass hnext hbehind,
          filter_collect_eq_nil hclass hnext' hbehind]
      | succ r =>
        rw [List.take_succ_cons, Utf8.length_cons, ← Nat.add_assoc, ← hcursor]
        exact ih (by omega) hmore hnext hnext'

end Filter

end Scan

namespace Ruleset

variable {classes : List CharClass} {index : ClassIndex} {rules : List Rule} {ruleset : Ruleset}
  {s t : List Char} {e n : Nat}

/-- The segments of a text that end within its first `e` characters. -/
def segmentsWithin (ruleset : Ruleset) (text : List Char) (e : Nat) : List Segment :=
  (ruleset.segments text).filter (·.endOffset ≤ Utf8.length (text.take e))

/-- Texts with the same first `n` characters have the same states and rules at all boundaries, and
the same segments, but for the last of these characters, as many as the longest right context
has. -/
theorem segmentsWithin_eq_of_take_eq (hindex : ClassIndex.build classes = .ok index)
    (hruleset : compile index rules = .ok ruleset) (hne : rules ≠ [])
    (hsame : s.take n = t.take n) (he : e + Rule.longest Rule.right rules ≤ n) :
    ruleset.segmentsWithin s e = ruleset.segmentsWithin t e ∧
      ruleset.stateAt s e = ruleset.stateAt t e ∧ ruleset.ruleAt s e = ruleset.ruleAt t e := by
  have hclass : ∀ c, ruleset.classes.classOf c ≠ .any :=
    fun c => (classOf_ne_of_compile hindex hruleset c).2.2
  have hlooks := looksAhead_longest hindex hruleset hne
  have hpos := Rule.longest_pos hne fun rule _ => rule.right_ne_nil
  have hstate := hlooks.stateAt_eq hpos hsame he
  refine ⟨?_, hstate, hlooks.ruleAt_eq hsame he hstate⟩
  have htake : s.take e = t.take e := take_eq_of_le hsame (Nat.le_of_add_right_le he)
  have hsegments := Scan.filter_collect_eq hclass hlooks he hpos hsame (Place.within_start s)
    (Place.within_start t)
  rw [segmentsWithin, segmentsWithin, ← htake]
  rwa [Nat.zero_add] at hsegments

end Ruleset

namespace Quotes

/-- A quote is joined to the letter before it or not by what follows, but the word before both of
them is the same. -/
theorem segmentsWithin_of_quoted :
    ∃ index ruleset, ClassIndex.build classes = .ok index ∧
      Ruleset.compile index rules = .ok ruleset ∧ Rule.longest Rule.right rules = 2 ∧
      ['a', 'b', ' ', 'c', '\'', 'd'].take 5 = ['a', 'b', ' ', 'c', '\'', ' '].take 5 ∧
      ruleset.segmentsWithin ['a', 'b', ' ', 'c', '\'', 'd'] 3 = [⟨0, "ab"⟩, ⟨2, " "⟩] ∧
      ruleset.segmentsWithin ['a', 'b', ' ', 'c', '\'', ' '] 3 = [⟨0, "ab"⟩, ⟨2, " "⟩] := by
  have hindex : ClassIndex.build classes = .ok (.ofCollected (ClassIndex.builtIns ++ classes)) := by
    decide +kernel
  have hwithin : (Ruleset.compile (.ofCollected (ClassIndex.builtIns ++ classes)) rules).map
      (·.segmentsWithin ['a', 'b', ' ', 'c', '\'', 'd'] 3) = .ok [⟨0, "ab"⟩, ⟨2, " "⟩] := by
    decide +kernel
  obtain ⟨ruleset, hruleset, hfirst⟩ := map_eq_ok_iff.mp hwithin
  obtain ⟨hsegments, -⟩ :=
    Ruleset.segmentsWithin_eq_of_take_eq hindex hruleset (List.cons_ne_nil _ _)
      (show ['a', 'b', ' ', 'c', '\'', 'd'].take 5 = ['a', 'b', ' ', 'c', '\'', ' '].take 5
        from rfl) (show 3 + Rule.longest Rule.right rules ≤ 5 by decide)
  exact ⟨_, ruleset, hindex, hruleset, rfl, rfl, hfirst, hsegments ▸ hfirst⟩

end Quotes
end BoundaryRules
