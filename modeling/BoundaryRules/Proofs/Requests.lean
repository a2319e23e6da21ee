import BoundaryRules.Proofs.Reconstruction

/-! Requests for one segment at a time. Between two of them a scan stands on boundaries of the text,
a rule is looked for at each boundary once, and after the last segment there is never another. -/
namespace BoundaryRules

namespace Utf8

/-- Behind its first part a text is cut by the length of that part. -/
theorem cutAt?_length (behind front ahead : List Char) :
    cutAt? behind (length front) (front ++ ahead) = some (front.reverse ++ behind, ahead) := by
  induction front generalizing behind with
  | nil => simp [cutAt?]
  | cons c front ih =>
    obtain ⟨n, hn⟩ := Nat.exists_eq_add_of_lt c.utf8Size_pos
    have hlength : length (c :: front) = n + length front + 1 := by
      rw [length_cons]
      omega
    have hrest : n + length front + 1 - c.utf8Size = length front := by omega
    rw [hlength, List.cons_append, cutAt?, if_pos (by omega), hrest, ih, List.reverse_cons,
      List.append_assoc, List.singleton_append]

end Utf8

variable {ruleset : Ruleset} {text ahead : List Char} {place : Place} {c : Char}
  {segment : Segment} {scan : Scan}

namespace Place

/-- All that a step may do: it ends the word before the character and begins a new one, or it goes
on with the word in another state. -/
theorem step_cases (ruleset : Ruleset) (place : Place) (c : Char) (ahead : List Char) :
    place.step ruleset c ahead =
        (place.segment?, place.restart.pass c (ruleset.classes.classOf c)) ∨
      ∃ cls, place.step ruleset c ahead = (none, place.pass c (place.enter cls)) := by
  unfold step
  dsimp only
  split
  · exact .inl rfl
  · exact .inr ⟨_, rfl⟩
  · exact .inr ⟨_, rfl⟩

theorem segment?_eq_none_iff : place.segment? = none ↔ place.pending = [] := by
  simp [segment?]

theorem length_segment?_le (place : Place) :
    place.segment?.toList.length ≤ Utf8.length place.pending := by
  cases hpending : place.pending with
  | nil => simp [segment?, hpending]
  | cons c pending =>
    have hpos := c.utf8Size_pos
    rw [segment?, hpending, Utf8.length_cons]
    exact Nat.le_add_right_of_le hpos

/-- Where a scan of `text` stands: it has passed all of the text that is not ahead of it, and the
word in progress is the end of what it has passed. -/
structure Within (text ahead : List Char) (place : Place) : Prop where
  split : place.behind.reverse ++ ahead = text
  cursor_eq : place.cursor = Utf8.length place.behind
  pending_prefix : place.pending <+: place.behind
  start_add : place.wordStart + Utf8.length place.pending = place.cursor
  state_ne : place.state ≠ .any

theorem within_start (text : List Char) : Within text text {} where
  split := rfl
  cursor_eq := rfl
  pending_prefix := List.prefix_refl _
  start_add := rfl
  state_ne := by decide

namespace Within

theorem pass {state : ClassId} (h : Within text (c :: ahead) place) (hstate : state ≠ .any) :
    Within text ahead (place.pass c state) where
  split := by
    rw [← h.split, Place.pass, List.reverse_cons, List.append_assoc, List.singleton_append]
  cursor_eq := by
    rw [Place.pass, h.cursor_eq, Utf8.length_cons, Nat.add_comm]
  pending_prefix := List.cons_prefix_cons.mpr ⟨rfl, h.pending_prefix⟩
  start_add := by
    have hstart := h.start_add
    simp only [Place.pass, Utf8.length_cons]
    omega
  state_ne := hstate

theorem restart (h : Within text ahead place) : Within text ahead place.restart where
  split := h.split
  cursor_eq := h.cursor_eq
  pending_prefix := List.nil_prefix
  start_add := rfl
  state_ne := h.state_ne

theorem enter_ne_any (h : Within text ahead place) (cls : ClassId) : place.enter cls ≠ .any := by
  unfold enter
  split
  · exact h.state_ne
  · assumption

theorem finish (h : Within text ahead place) : Within text ahead place.finish.2 :=
  { h.restart with state_ne := by simp [Place.finish]; decide }

theorem step (hclass : ∀ c, ruleset.classes.classOf c ≠ .any) (h : Within text (c :: ahead) place) :
    Within text ahead (place.step ruleset c ahead).2 := by
  rcases step_cases ruleset place c ahead with hcut | ⟨cls, hgoes⟩
  · rw [hcut]
    exact h.restart.pass (hclass c)
  · rw [hgoes]
    exact h.pass (h.enter_ne_any cls)

theorem of_step_eq {ended : Option Segment} {next : Place}
    (hclass : ∀ c, ruleset.classes.classOf c ≠ .any) (h : Within text (c :: ahead) place)
    (hstep : place.step ruleset c ahead = (ended, next)) : Within text ahead next := by
  have hnext := h.step hclass
  rwa [hstep] at hnext

/-- A word in progress starts where it did, unless a step ends it. -/
theorem wordStart_step (h : Within text (c :: ahead) place)
    (hnone : (place.step ruleset c ahead).1 = none) :
    (place.step ruleset c ahead).2.wordStart = place.wordStart := by
  rcases step_cases ruleset place c ahead with hcut | ⟨cls, hgoes⟩
  · rw [hcut] at hnone ⊢
    have hstart := h.start_add
    rw [segment?_eq_none_iff.mp hnone] at hstart
    exact hstart.symm
  · rw [hgoes]
    rfl

end Within

/-- A segment that a step ends is the word in progress. -/
theorem segment?_of_step (h : (place.step ruleset c ahead).1 = some segment) :
    place.segment? = some segment := by
  rcases step_cases ruleset place c ahead with hcut | ⟨cls, hgoes⟩
  · rwa [hcut] at h
  · rw [hgoes] at h
    contradiction

theorem offset_of_segment? (h : place.segment? = some segment) :
    segment.offset = place.wordStart := by
  unfold segment? at h
  split at h
  · contradiction
  · rw [← Option.some.inj h]

end Place

namespace Scan

/-- A request together with the scans that look for a rule in it, one for each boundary. -/
def advanceLogged (ruleset : Ruleset) (place : Place) :
    List Char → List Scan × Option Segment × Scan
  | [] =>
    if place.state = .stop then ([], none, ⟨place, []⟩)
    else ([⟨place, []⟩], place.finish.1, ⟨place.finish.2, []⟩)
  | c :: ahead =>
    if place.state = .stop then ([], none, ⟨place, c :: ahead⟩)
    else match place.step ruleset c ahead with
      | (some segment, next) => ([⟨place, c :: ahead⟩], some segment, ⟨next, ahead⟩)
      | (none, next) =>
        let later := advanceLogged ruleset next ahead
        (⟨place, c :: ahead⟩ :: later.1, later.2)

theorem advanceLogged_snd (ruleset : Ruleset) (place : Place) (ahead : List Char) :
    (advanceLogged ruleset place ahead).2 = advance ruleset place ahead := by
  fun_induction advanceLogged ruleset place ahead with
  | case1 place hstop => rw [advance_of_stop hstop]
  | case2 place hstop => rw [advance_nil hstop]
  | case3 place c ahead hstop => rw [advance_of_stop hstop]
  | case4 place c ahead hstop segment next hstep =>
    rw [advance_cons_of_some hstop (by rw [hstep]), hstep]
  | case5 place c ahead hstop next hstep later ih =>
    rw [advance_cons_of_none hstop (by rw [hstep]), hstep]
    exact ih

/-- The scans that look for a rule in one request. -/
def visits (ruleset : Ruleset) (scan : Scan) : List Scan :=
  (advanceLogged ruleset scan.place scan.ahead).1

/-- The scans that look for a rule in the first `k` requests. -/
def visitsOf (ruleset : Ruleset) (scan : Scan) : Nat → List Scan
  | 0 => []
  | k + 1 => scan.visits ruleset ++ visitsOf ruleset (scan.next ruleset).2 k

/-- The number of boundaries at which a rule has still to be looked for. -/
def boundariesLeft (scan : Scan) : Nat :=
  if scan.place.state = .stop then 0 else scan.ahead.length + 1

theorem boundariesLeft_of_stop (h : scan.place.state = .stop) : scan.boundariesLeft = 0 := if_pos h

theorem boundariesLeft_of_ne_stop (h : scan.place.state ≠ .stop) :
    scan.boundariesLeft = scan.ahead.length + 1 := if_neg h

theorem boundariesLeft_le (scan : Scan) : scan.boundariesLeft ≤ scan.ahead.length + 1 := by
  unfold boundariesLeft
  split <;> omega

/-- Each boundary is looked at once: it is not among those left after the request. -/
theorem length_advanceLogged (ruleset : Ruleset) (place : Place) (ahead : List Char) :
    (advanceLogged ruleset place ahead).1.length +
        (advanceLogged ruleset place ahead).2.2.boundariesLeft ≤
      boundariesLeft ⟨place, ahead⟩ := by
  fun_induction advanceLogged ruleset place ahead with
  | case1 place hstop => simp
  | case2 place hstop =>
    have hbefore : boundariesLeft ⟨place, []⟩ = 1 := boundariesLeft_of_ne_stop hstop
    have hafter : boundariesLeft ⟨place.finish.2, []⟩ = 0 := boundariesLeft_of_stop rfl
    rw [hbefore, List.length_singleton]
    exact Nat.add_le_add_left (Nat.le_of_eq hafter) 1
  | case3 place c ahead hstop => simp
  | case4 place c ahead hstop segment next hstep =>
    have hbefore : boundariesLeft ⟨place, c :: ahead⟩ = ahead.length + 1 + 1 :=
      boundariesLeft_of_ne_stop hstop
    have hafter : boundariesLeft ⟨next, ahead⟩ ≤ ahead.length + 1 := boundariesLeft_le _
    rw [hbefore]
    dsimp only [List.length_singleton]
    omega
  | case5 place c ahead hstop next hstep later ih =>
    have hbefore : boundariesLeft ⟨place, c :: ahead⟩ = ahead.length + 1 + 1 :=
      boundariesLeft_of_ne_stop hstop
    have hafter : boundariesLeft ⟨next, ahead⟩ ≤ ahead.length + 1 := boundariesLeft_le _
    change later.1.length + 1 + later.2.2.boundariesLeft ≤ _
    change later.1.length + later.2.2.boundariesLeft ≤ _ at ih
    omega

/-- The rules found by the scans of the log are those of the trace. -/
theorem trace_eq_advanceLogged (ruleset : Ruleset) (place : Place) (ahead : List Char) :
    trace ruleset place ahead =
      (advanceLogged ruleset place ahead).1.flatMap
          (fun visit => trace.entry ruleset visit.place visit.ahead) ++
        trace ruleset (advanceLogged ruleset place ahead).2.2.place
          (advanceLogged ruleset place ahead).2.2.ahead := by
  fun_induction advanceLogged ruleset place ahead with
  | case1 place hstop => rfl
  | case2 place hstop => simp [trace, hstop, Place.finish]
  | case3 place c ahead hstop => rfl
  | case4 place c ahead hstop segment next hstep =>
    rw [trace, if_neg hstop, hstep, List.flatMap_singleton]
  | case5 place c ahead hstop next hstep later ih =>
    rw [trace, if_neg hstop, hstep, List.flatMap_cons, List.append_assoc, ← ih]

section Within

variable (hclass : ∀ c, ruleset.classes.classOf c ≠ .any)
include hclass

theorem within_advanceLogged (h : place.Within text ahead) :
    (∀ visit ∈ (advanceLogged ruleset place ahead).1, visit.place.Within text visit.ahead) ∧
      (advanceLogged ruleset place ahead).2.2.place.Within text
        (advanceLogged ruleset place ahead).2.2.ahead := by
  fun_induction advanceLogged ruleset place ahead with
  | case1 place hstop => exact ⟨by simp, h⟩
  | case2 place hstop => exact ⟨by simpa using h, h.finish⟩
  | case3 place c ahead hstop => exact ⟨by simp, h⟩
  | case4 place c ahead hstop segment next hstep =>
    exact ⟨by simpa using h, h.of_step_eq hclass hstep⟩
  | case5 place c ahead hstop next hstep later ih =>
    obtain ⟨hvisits, hlater⟩ := ih (h.of_step_eq hclass hstep)
    exact ⟨List.forall_mem_cons.mpr ⟨h, hvisits⟩, hlater⟩

/-- A segment starts where the word in progress did before the request. -/
theorem offset_of_advanceLogged (h : place.Within text ahead)
    (hsome : (advanceLogged ruleset place ahead).2.1 = some segment) :
    segment.offset = place.wordStart := by
  fun_induction advanceLogged ruleset place ahead with
  | case1 place hstop => contradiction
  | case2 place hstop => exact Place.offset_of_segment? hsome
  | case3 place c ahead hstop => contradiction
  | case4 place c ahead hstop ended next hstep =>
    obtain rfl := Option.some.inj hsome
    exact Place.offset_of_segment? (Place.segment?_of_step (by rw [hstep]))
  | case5 place c ahead hstop next hstep later ih =>
    have hstart : (place.step ruleset c ahead).2.wordStart = place.wordStart :=
      h.wordStart_step (by rw [hstep])
    rw [hstep] at hstart
    rw [ih (h.of_step_eq hclass hstep) hsome, ← hstart]

/-- Between two requests. -/
theorem within_after (h : scan.place.Within text scan.ahead) (k : Nat) :
    (∀ visit ∈ scan.visitsOf ruleset k, visit.place.Within text visit.ahead) ∧
      (scan.after ruleset k).place.Within text (scan.after ruleset k).ahead := by
  induction k generalizing scan with
  | zero => exact ⟨by simp [visitsOf], h⟩
  | succ k ih =>
    have hadvance := within_advanceLogged hclass h
    rw [advanceLogged_snd] at hadvance
    obtain ⟨hvisits, hafter⟩ := ih hadvance.2
    exact ⟨List.forall_mem_append.mpr ⟨hadvance.1, hvisits⟩, hafter⟩

end Within

theorem length_visitsOf (ruleset : Ruleset) (scan : Scan) (k : Nat) :
    (scan.visitsOf ruleset k).length + (scan.after ruleset k).boundariesLeft ≤
      scan.boundariesLeft := by
  induction k generalizing scan with
  | zero => simp [visitsOf, after]
  | succ k ih =>
    have hadvance := length_advanceLogged ruleset scan.place scan.ahead
    rw [advanceLogged_snd] at hadvance
    have hlater := ih (scan.next ruleset).2
    rw [visitsOf, after, visits, List.length_append]
    change _ + (scan.next ruleset).2.boundariesLeft ≤ scan.boundariesLeft at hadvance
    omega

/-- The rules found in the first requests are the beginning of the trace. -/
theorem trace_eq_visitsOf (ruleset : Ruleset) (scan : Scan) (k : Nat) :
    trace ruleset scan.place scan.ahead =
      (scan.visitsOf ruleset k).flatMap
          (fun visit => trace.entry ruleset visit.place visit.ahead) ++
        trace ruleset (scan.after ruleset k).place (scan.after ruleset k).ahead := by
  induction k generalizing scan with
  | zero => rfl
  | succ k ih =>
    rw [trace_eq_advanceLogged, advanceLogged_snd, visitsOf, List.flatMap_append, List.append_assoc]
    exact congrArg _ (ih (scan.next ruleset).2)

theorem collect_cons_eq (h : place.state ≠ .stop) :
    (collect ruleset [] place (c :: ahead)).1 =
      (place.step ruleset c ahead).1.toList ++
        (collect ruleset [] (place.step ruleset c ahead).2 ahead).1 := by
  rw [collect_cons h, List.append_nil]
  cases (place.step ruleset c ahead).1 with
  | none => rfl
  | some segment => exact collect_append [] [segment]

/-- Each segment to come has at least one byte of its own. -/
theorem length_collect_le (ruleset : Ruleset) (place : Place) (ahead : List Char) :
    (collect ruleset [] place ahead).1.length ≤
      Utf8.length place.pending + Utf8.length ahead := by
  induction ahead generalizing place with
  | nil =>
    by_cases hstop : place.state = .stop
    · simp [collect_of_stop hstop]
    · simpa [collect_nil hstop, Place.finish] using place.length_segment?_le
  | cons c ahead ih =>
    by_cases hstop : place.state = .stop
    · simp [collect_of_stop hstop]
    · have hrest := ih (place.step ruleset c ahead).2
      have hsegment := place.length_segment?_le
      rw [collect_cons_eq hstop, List.length_append]
      rcases Place.step_cases ruleset place c ahead with hcut | ⟨cls, hgoes⟩
      · rw [hcut] at hrest ⊢
        simp only [Place.pass, Place.restart, Utf8.length_cons, Utf8.length_nil] at *
        omega
      · rw [hgoes] at hrest ⊢
        simp only [Place.pass, Utf8.length_cons, Option.toList_none, List.length_nil] at *
        omega

theorem length_rest_le (ruleset : Ruleset) (scan : Scan) :
    (scan.rest ruleset).1.length ≤ scan.sizeBound := by
  unfold rest sizeBound
  split
  next hstop => simp [collect_of_stop hstop]
  next => exact length_collect_le ruleset scan.place scan.ahead

theorem state_of_next_none (h : (scan.next ruleset).1 = none) :
    (scan.next ruleset).2.place.state = .stop :=
  (collect_of_advance_none [] (Prod.ext h rfl)).2

theorem next_of_stop (h : scan.place.state = .stop) : scan.next ruleset = (none, scan) :=
  advance_of_stop h

theorem after_of_stop (h : scan.place.state = .stop) (k : Nat) : scan.after ruleset k = scan := by
  induction k with
  | zero => rfl
  | succ k ih => rw [after, next_of_stop h, ih]

/-- What a caller sees of a scan of `text` between two requests. Both its offsets are places between
characters, at which the text may be cut. -/
structure Sound (text : List Char) (scan : Scan) : Prop where
  start_le : scan.place.wordStart ≤ scan.place.cursor
  cursor_le : scan.place.cursor ≤ Utf8.length text
  cut_start : ∃ behind, Utf8.cutAt? [] scan.place.wordStart text =
    some (behind, scan.place.pending.reverse ++ scan.ahead)
  cut_cursor : Utf8.cutAt? [] scan.place.cursor text = some (scan.place.behind, scan.ahead)
  state_ne : scan.place.state ≠ .any
  sizeBound_eq : scan.sizeBound =
    if scan.place.state = .stop then 0 else Utf8.length text - scan.place.wordStart

theorem sound_of_within (h : scan.place.Within text scan.ahead) : scan.Sound text := by
  have hlength := congrArg Utf8.length h.split
  have hcursor := h.cursor_eq
  have hstart := h.start_add
  rw [Utf8.length_append, Utf8.length_reverse] at hlength
  refine ⟨by omega, by omega, ?_, ?_, h.state_ne, ?_⟩
  · obtain ⟨front, hfront⟩ := h.pending_prefix
    have htext : front.reverse ++ (scan.place.pending.reverse ++ scan.ahead) = text := by
      rw [← h.split, ← hfront, List.reverse_append, List.append_assoc]
    have hfrontLength := congrArg Utf8.length hfront
    rw [Utf8.length_append] at hfrontLength
    have hoffset : scan.place.wordStart = Utf8.length front.reverse := by
      rw [Utf8.length_reverse]
      omega
    rw [← htext, hoffset]
    exact ⟨_, Utf8.cutAt?_length [] front.reverse _⟩
  · have hcut := Utf8.cutAt?_length [] scan.place.behind.reverse scan.ahead
    rwa [h.split, Utf8.length_reverse, List.reverse_reverse, List.append_nil, ← hcursor] at hcut
  · unfold sizeBound
    split
    · rfl
    · omega

end Scan

namespace Ruleset

variable {classes : List CharClass} {index : ClassIndex} {rules : List Rule}

/-- However many segments were asked for, a scan stands at boundaries of the text and has looked for
a rule at no more of them than there are; what it gives next starts where it said; it has no more
segments to give than it said; and if it gives none, then it says so and gives none ever after. -/
theorem sound_after (hindex : ClassIndex.build classes = .ok index)
    (hruleset : compile index rules = .ok ruleset) (text : List Char) (k : Nat) :
    let start := Scan.ofText text
    let scan := start.after ruleset k
    scan.Sound text ∧
      (∀ visit ∈ start.visitsOf ruleset k, visit.Sound text) ∧
      (start.visitsOf ruleset k).length ≤ text.length + 1 ∧
      ruleset.trace text =
        (start.visitsOf ruleset k).flatMap
            (fun visit => Scan.trace.entry ruleset visit.place visit.ahead) ++
          Scan.trace ruleset scan.place scan.ahead ∧
      (∀ segment, (scan.next ruleset).1 = some segment → segment.offset = scan.offset) ∧
      (scan.rest ruleset).1.length ≤ scan.sizeBound ∧
      ((scan.next ruleset).1 = none → ∀ j,
        ((scan.next ruleset).2.after ruleset j).sizeBound = 0 ∧
          (scan.next ruleset).2.pull ruleset j = none) := by
  have hclass : ∀ c, ruleset.classes.classOf c ≠ .any :=
    fun c => (classOf_ne_of_compile hindex hruleset c).2.2
  have hstart : (Scan.ofText text).place.Within text (Scan.ofText text).ahead :=
    Place.within_start text
  obtain ⟨hvisits, hscan⟩ := Scan.within_after hclass hstart k
  refine ⟨Scan.sound_of_within hscan, fun visit hmem => Scan.sound_of_within (hvisits visit hmem),
    ?_, Scan.trace_eq_visitsOf ruleset (Scan.ofText text) k, ?_, Scan.length_rest_le ruleset _, ?_⟩
  · have hlength := Scan.length_visitsOf ruleset (Scan.ofText text) k
    have hleft : (Scan.ofText text).boundariesLeft ≤ text.length + 1 := Scan.boundariesLeft_le _
    omega
  · intro segment hsome
    refine Scan.offset_of_advanceLogged hclass hscan ?_
    rw [Scan.advanceLogged_snd]
    exact hsome
  · intro hnone j
    have hstop := Scan.state_of_next_none hnone
    rw [Scan.pull, Scan.after_of_stop hstop, Scan.next_of_stop hstop]
    exact ⟨if_pos hstop, rfl⟩

/-- The segments of a text that is lost behind its first digit, where a letter is taken for the
end. -/
theorem sound_after_of_edge_target :
    ∃ index ruleset, ClassIndex.build [Truncation.letters] = .ok index ∧
      compile index [Truncation.rule] = .ok ruleset ∧
      ((Scan.ofText ['1', '2', 'a']).after ruleset 1).Sound ['1', '2', 'a'] ∧
      ((Scan.ofText ['1', '2', 'a']).after ruleset 1).offset = 1 ∧
      ((Scan.ofText ['1', '2', 'a']).visitsOf ruleset 2).length ≤ 4 ∧
      ∀ j, ((Scan.ofText ['1', '2', 'a']).after ruleset 2).pull ruleset j = none := by
  have hindex : ClassIndex.build [Truncation.letters] =
      .ok (.ofCollected (ClassIndex.builtIns ++ [Truncation.letters])) := by
    decide +kernel
  have hpulled :
      (compile (.ofCollected (ClassIndex.builtIns ++ [Truncation.letters])) [Truncation.rule]).map
        (fun ruleset => (((Scan.ofText ['1', '2', 'a']).after ruleset 1).offset,
          (((Scan.ofText ['1', '2', 'a']).after ruleset 1).next ruleset).1)) = .ok (1, none) := by
    decide +kernel
  obtain ⟨ruleset, hruleset, hpair⟩ := map_eq_ok_iff.mp hpulled
  obtain ⟨hoffset, hnone⟩ := Prod.mk.inj hpair
  obtain ⟨hsound, -, -, -, -, -, hlater⟩ := sound_after hindex hruleset ['1', '2', 'a'] 1
  obtain ⟨-, -, hvisits, -⟩ := sound_after hindex hruleset ['1', '2', 'a'] 2
  exact ⟨_, ruleset, hindex, hruleset, hsound, hoffset, hvisits, fun j => (hlater hnone j).2⟩

end Ruleset
end BoundaryRules
