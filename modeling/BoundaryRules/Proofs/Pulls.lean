import BoundaryRules.Scan

/-! Segments asked for one at a time. A scan that is suspended after each segment gives the same
segments as one pass, and none from then on. -/
namespace BoundaryRules.Scan

variable {ruleset : Ruleset} {found : List Segment} {segment : Segment} {place : Place}
  {c : Char} {ahead : List Char} {scan later : Scan}

theorem collect_of_stop (h : place.state = .stop) :
    collect ruleset found place ahead = (found.reverse, ⟨place, ahead⟩) := by
  cases ahead with
  | nil => exact if_pos h
  | cons c ahead => exact if_pos h

theorem collect_nil (h : place.state ≠ .stop) :
    collect ruleset found place [] =
      ((place.finish.1.toList ++ found).reverse, ⟨place.finish.2, []⟩) :=
  if_neg h

theorem collect_cons (h : place.state ≠ .stop) :
    collect ruleset found place (c :: ahead) =
      collect ruleset ((place.step ruleset c ahead).1.toList ++ found)
        (place.step ruleset c ahead).2 ahead :=
  if_neg h

theorem advance_of_stop (h : place.state = .stop) :
    advance ruleset place ahead = (none, ⟨place, ahead⟩) := by
  cases ahead with
  | nil => exact if_pos h
  | cons c ahead => exact if_pos h

theorem advance_nil (h : place.state ≠ .stop) :
    advance ruleset place [] = (place.finish.1, ⟨place.finish.2, []⟩) :=
  if_neg h

theorem advance_cons_of_some (h : place.state ≠ .stop)
    (hstep : (place.step ruleset c ahead).1 = some segment) :
    advance ruleset place (c :: ahead) =
      (some segment, ⟨(place.step ruleset c ahead).2, ahead⟩) := by
  rw [advance, if_neg h, show place.step ruleset c ahead = (some segment, _) from
    Prod.ext hstep rfl]

theorem advance_cons_of_none (h : place.state ≠ .stop)
    (hstep : (place.step ruleset c ahead).1 = none) :
    advance ruleset place (c :: ahead) = advance ruleset (place.step ruleset c ahead).2 ahead := by
  rw [advance, if_neg h, show place.step ruleset c ahead = (none, _) from Prod.ext hstep rfl]

/-- One pass goes on as from the next segment. -/
theorem collect_of_advance_some (h : advance ruleset place ahead = (some segment, later)) :
    collect ruleset found place ahead =
      collect ruleset (segment :: found) later.place later.ahead := by
  by_cases hstop : place.state = .stop
  · simp [advance_of_stop hstop] at h
  induction ahead generalizing place with
  | nil =>
    rw [advance_nil hstop] at h
    obtain ⟨hsegment, rfl⟩ := Prod.mk.inj h
    rw [collect_nil hstop, hsegment, collect_of_stop rfl]
    rfl
  | cons c ahead ih =>
    rw [collect_cons hstop]
    cases hstep : (place.step ruleset c ahead).1 with
    | some ended =>
      rw [advance_cons_of_some hstop hstep] at h
      obtain ⟨hsegment, rfl⟩ := Prod.mk.inj h
      obtain rfl := Option.some.inj hsegment
      rfl
    | none =>
      rw [advance_cons_of_none hstop hstep] at h
      by_cases hnext : (place.step ruleset c ahead).2.state = .stop
      · simp [advance_of_stop hnext] at h
      · exact ih h hnext

/-- Where no segment is left a pass ends, and the scan stays there. -/
theorem collect_of_advance_none (found : List Segment)
    (h : advance ruleset place ahead = (none, later)) :
    collect ruleset found place ahead = (found.reverse, later) ∧ later.place.state = .stop := by
  by_cases hstop : place.state = .stop
  · rw [advance_of_stop hstop] at h
    obtain ⟨-, rfl⟩ := Prod.mk.inj h
    exact ⟨collect_of_stop hstop, hstop⟩
  induction ahead generalizing place with
  | nil =>
    rw [advance_nil hstop] at h
    obtain ⟨hsegment, rfl⟩ := Prod.mk.inj h
    rw [collect_nil hstop, hsegment]
    exact ⟨rfl, rfl⟩
  | cons c ahead ih =>
    cases hstep : (place.step ruleset c ahead).1 with
    | some ended => simp [advance_cons_of_some hstop hstep] at h
    | none =>
      rw [advance_cons_of_none hstop hstep] at h
      rw [collect_cons hstop, hstep]
      by_cases hnext : (place.step ruleset c ahead).2.state = .stop
      · rw [advance_of_stop hnext] at h
        obtain ⟨-, rfl⟩ := Prod.mk.inj h
        exact ⟨collect_of_stop hnext, hnext⟩
      · exact ih h hnext

theorem collect_append (found earlier : List Segment) :
    (collect ruleset (found ++ earlier) place ahead).1 =
      earlier.reverse ++ (collect ruleset found place ahead).1 := by
  induction ahead generalizing found place with
  | nil =>
    unfold collect
    split <;> simp
  | cons c ahead ih =>
    unfold collect
    split
    · simp
    · rw [← List.append_assoc, ih]

/-- A request that gives a segment takes the first of those to come. -/
theorem rest_of_next_some (h : (scan.next ruleset).1 = some segment) :
    (scan.rest ruleset).1 = segment :: ((scan.next ruleset).2.rest ruleset).1 := by
  rw [rest, collect_of_advance_some (Prod.ext h rfl)]
  exact collect_append [] [segment]

/-- A request gives none only if there are none to come, now and later. -/
theorem rest_of_next_none (h : (scan.next ruleset).1 = none) :
    (scan.rest ruleset).1 = [] ∧ ((scan.next ruleset).2.rest ruleset).1 = [] := by
  obtain ⟨hrest, hstop⟩ := collect_of_advance_none [] (Prod.ext h rfl)
  refine ⟨congrArg Prod.fst hrest, ?_⟩
  rw [rest]
  exact congrArg Prod.fst (collect_of_stop hstop)

/-- The scan after `k` requests for a segment. -/
def after (ruleset : Ruleset) (scan : Scan) : Nat → Scan
  | 0 => scan
  | k + 1 => after ruleset (scan.next ruleset).2 k

/-- What the request number `k`, counted from zero, gives. -/
def pull (ruleset : Ruleset) (scan : Scan) (k : Nat) : Option Segment :=
  ((scan.after ruleset k).next ruleset).1

/-- The requests give the segments of one pass in order, and none after the last. -/
theorem pull_eq (ruleset : Ruleset) (scan : Scan) (k : Nat) :
    scan.pull ruleset k = (scan.rest ruleset).1[k]? := by
  induction k generalizing scan with
  | zero =>
    change (scan.next ruleset).1 = _
    cases hnext : (scan.next ruleset).1 with
    | none => rw [(rest_of_next_none hnext).1, List.getElem?_nil]
    | some segment => rw [rest_of_next_some hnext, List.getElem?_cons_zero]
  | succ k ih =>
    change (scan.next ruleset).2.pull ruleset k = _
    rw [ih]
    cases hnext : (scan.next ruleset).1 with
    | none =>
      rw [(rest_of_next_none hnext).1, (rest_of_next_none hnext).2, List.getElem?_nil,
        List.getElem?_nil]
    | some segment => rw [rest_of_next_some hnext, List.getElem?_cons_succ]

end BoundaryRules.Scan
