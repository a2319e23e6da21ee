import BoundaryRules.Proofs.ClassIds
import BoundaryRules.Proofs.Compilation
import BoundaryRules.Proofs.Pieces
import BoundaryRules.Proofs.Pulls

/-! Scans read as a division of the text. The state and the rule at each boundary are defined from
those at the boundary before, and a scan gives the pieces between the boundaries that break. -/
namespace BoundaryRules

namespace Ruleset

/-- The state past a character of class `next`, by the rule selected before it. -/
def stateAfter (state next : ClassId) : Option CompiledRule → ClassId
  | none => next
  | some rule =>
    if rule.action = .absorb then if rule.target = .any then state else rule.target else next

/-- The state in which boundary `i` of a text is reached. -/
def stateAt (ruleset : Ruleset) (text : List Char) : Nat → ClassId
  | 0 => .start
  | i + 1 =>
    stateAfter (stateAt ruleset text i) (ruleset.nextClass (text.drop i))
      (ruleset.select (text.take i).reverse (text.drop i) (stateAt ruleset text i))

/-- The rule selected at boundary `i` of a text. -/
def ruleAt (ruleset : Ruleset) (text : List Char) (i : Nat) : Option CompiledRule :=
  ruleset.select (text.take i).reverse (text.drop i) (ruleset.stateAt text i)

/-- Whether a word ends at boundary `i`: no rule is selected there, or one that cuts. -/
def breaksAt (ruleset : Ruleset) (text : List Char) (i : Nat) : Bool :=
  (ruleset.ruleAt text i).all (·.action = .cut)

/-- Whether a scan takes boundary `i` for the end of the text: the rule selected there absorbs the
next character into the edge. -/
def haltsAt (ruleset : Ruleset) (text : List Char) (i : Nat) : Bool :=
  (ruleset.ruleAt text i).any fun rule => rule.action = .absorb && rule.target = .stop

theorem stateAt_succ (ruleset : Ruleset) (text : List Char) (i : Nat) :
    ruleset.stateAt text (i + 1) =
      stateAfter (ruleset.stateAt text i) (ruleset.nextClass (text.drop i))
        (ruleset.ruleAt text i) := rfl

theorem breaksAt_eq_false_of_haltsAt {ruleset : Ruleset} {text : List Char} {i : Nat}
    (h : ruleset.haltsAt text i = true) : ruleset.breaksAt text i = false := by
  unfold haltsAt at h
  unfold breaksAt
  cases hrule : ruleset.ruleAt text i with
  | none => simp [hrule] at h
  | some rule =>
    rw [hrule, Option.any_some, Bool.and_eq_true] at h
    simp [of_decide_eq_true h.1]

/-- The state of the text's end is entered only where a scan halts. -/
theorem stateAt_succ_eq_stop_iff {ruleset : Ruleset} {text : List Char} {i : Nat}
    (hnext : ruleset.nextClass (text.drop i) ≠ .stop) (h : ruleset.stateAt text i ≠ .stop) :
    ruleset.stateAt text (i + 1) = .stop ↔ ruleset.haltsAt text i = true := by
  rw [stateAt_succ, haltsAt]
  cases ruleset.ruleAt text i with
  | none => simpa [stateAfter] using hnext
  | some rule =>
    rw [stateAfter]
    split
    next hrule =>
      split
      next hany =>
        have hne : ClassId.any ≠ .stop := by decide
        simp [hrule, hany, h, hne]
      next => simp [hrule]
    next hrule => simpa [hrule] using hnext

/-- Where a scan stands once it has passed `before`: the state is that of the reading, and the
word in progress is `front`. -/
structure Reached (ruleset : Ruleset) (text before ahead front : List Char) (place : Place) :
    Prop where
  split : before ++ ahead = text
  behind_eq : place.behind = before.reverse
  pending_eq : place.pending = front.reverse
  cursor_eq : place.cursor = place.wordStart + Utf8.length front
  state_eq : place.state = ruleset.stateAt text before.length

private theorem reverse_toList {α : Type} (a : Option α) : a.toList.reverse = a.toList := by
  cases a <;> rfl

variable {ruleset : Ruleset} {text before ahead front : List Char} {place : Place} {c : Char}
  {found : List Segment}

theorem reached_zero (ruleset : Ruleset) (text : List Char) :
    Reached ruleset text [] text [] {} := ⟨rfl, rfl, rfl, rfl, rfl⟩

namespace Reached

theorem length_add_length (h : Reached ruleset text before ahead front place) :
    before.length + ahead.length = text.length := by
  rw [← h.split, List.length_append]

theorem drop_eq (h : Reached ruleset text before ahead front place) :
    text.drop before.length = ahead := by
  rw [← h.split, List.drop_left]

theorem select_eq (h : Reached ruleset text before ahead front place) :
    ruleset.select place.behind ahead place.state = ruleset.ruleAt text before.length := by
  rw [ruleAt, h.drop_eq, h.behind_eq, h.state_eq, ← h.split, List.take_left]

theorem segment?_eq (h : Reached ruleset text before ahead front place) (hfront : front ≠ []) :
    place.segment? = some ⟨place.wordStart, String.ofList front⟩ := by
  simp [Place.segment?, h.pending_eq, hfront]

/-- The place behind the next character. -/
theorem pass (h : Reached ruleset text before (c :: ahead) front place) {state : ClassId}
    (hstate : state = ruleset.stateAt text (before.length + 1)) :
    Reached ruleset text (before ++ [c]) ahead (front ++ [c]) (place.pass c state) where
  split := by rw [← h.split, List.append_assoc, List.singleton_append]
  behind_eq := by rw [Place.pass, h.behind_eq, List.reverse_concat]
  pending_eq := by rw [Place.pass, h.pending_eq, List.reverse_concat]
  cursor_eq := by
    rw [Place.pass, h.cursor_eq, Utf8.length_append, Utf8.length_cons, Utf8.length_nil,
      Nat.add_zero, Nat.add_assoc]
  state_eq := by rw [List.length_append, List.length_singleton]; exact hstate

theorem restart (h : Reached ruleset text before ahead front place) :
    Reached ruleset text before ahead [] place.restart where
  split := h.split
  behind_eq := h.behind_eq
  pending_eq := rfl
  cursor_eq := rfl
  state_eq := h.state_eq

/-- A boundary that breaks ends the word before it. -/
theorem step_of_breaksAt (h : Reached ruleset text before (c :: ahead) front place)
    (hbreak : ruleset.breaksAt text before.length = true) :
    (place.step ruleset c ahead).1 = place.segment? ∧
      (place.step ruleset c ahead).2.wordStart = place.cursor ∧
      Reached ruleset text (before ++ [c]) ahead [c] (place.step ruleset c ahead).2 := by
  have haction :
      (ruleset.ruleAt text before.length).elim Action.cut CompiledRule.action = .cut := by
    unfold breaksAt at hbreak
    cases hrule : ruleset.ruleAt text before.length with
    | none => rfl
    | some rule => simpa [hrule] using hbreak
  have hstate : ruleset.classes.classOf c = ruleset.stateAt text (before.length + 1) := by
    rw [stateAt_succ, h.drop_eq]
    cases hrule : ruleset.ruleAt text before.length with
    | none => rfl
    | some rule =>
      have hcut : rule.action = .cut := by simpa [hrule] using haction
      simp [stateAfter, hcut, nextClass]
  rw [Place.step, h.select_eq, haction]
  exact ⟨rfl, rfl, h.restart.pass hstate⟩

/-- At a boundary that does not break the word goes on. -/
theorem step_of_not_breaksAt (hany : ruleset.classes.classOf c ≠ .any)
    (h : Reached ruleset text before (c :: ahead) front place)
    (hbreak : ruleset.breaksAt text before.length = false) :
    (place.step ruleset c ahead).1 = none ∧
      (place.step ruleset c ahead).2.wordStart = place.wordStart ∧
      Reached ruleset text (before ++ [c]) ahead (front ++ [c]) (place.step ruleset c ahead).2 := by
  unfold breaksAt at hbreak
  have hstate := stateAt_succ ruleset text before.length
  rw [h.drop_eq, ← h.state_eq] at hstate
  rw [Place.step, h.select_eq]
  cases hrule : ruleset.ruleAt text before.length with
  | none => simp [hrule] at hbreak
  | some rule =>
    rw [hrule] at hbreak hstate
    simp only [Option.elim_some]
    cases haction : rule.action with
    | cut => simp [haction] at hbreak
    | join =>
      refine ⟨rfl, rfl, h.pass ?_⟩
      rw [hstate, Place.enter, if_neg hany, stateAfter, haction]
      rfl
    | absorb =>
      refine ⟨rfl, rfl, h.pass ?_⟩
      rw [hstate, Place.enter, stateAfter, if_pos haction]

/-- What one step does to the pieces: a word that ends is found, the others are still to come. -/
theorem exists_step (hclass : ∀ c, ruleset.classes.classOf c ≠ .any)
    (h : Reached ruleset text before (c :: ahead) front place) (hfront : front ≠ []) :
    ∃ word, word ≠ [] ∧
      Reached ruleset text (before ++ [c]) ahead word (place.step ruleset c ahead).2 ∧
      ∀ cut ps, locate place.wordStart
          (attach front (ruleset.breaksAt text before.length) (attach [c] cut ps)) =
        (place.step ruleset c ahead).1.toList ++
          locate (place.step ruleset c ahead).2.wordStart (attach word cut ps) := by
  cases hbreak : ruleset.breaksAt text before.length with
  | true =>
    obtain ⟨hsegment, hstart, hnext⟩ := h.step_of_breaksAt hbreak
    refine ⟨[c], List.cons_ne_nil _ _, hnext, ?_⟩
    intro cut ps
    rw [attach_true_of_ne_nil (attach_ne_nil _ _ _), locate, hsegment, h.segment?_eq hfront, hstart,
      h.cursor_eq]
    rfl
  | false =>
    obtain ⟨hsegment, hstart, hnext⟩ := h.step_of_not_breaksAt (hclass c) hbreak
    refine ⟨front ++ [c], by simp, hnext, ?_⟩
    intro cut ps
    rw [attach_false_attach, hsegment, hstart]
    rfl

end Reached

section Built

variable (hclass : ∀ c, ruleset.classes.classOf c ≠ .start ∧ ruleset.classes.classOf c ≠ .stop ∧
  ruleset.classes.classOf c ≠ .any)
include hclass

theorem nextClass_drop_ne_stop {i : Nat} (hi : i < text.length) :
    ruleset.nextClass (text.drop i) ≠ .stop := by
  rw [List.drop_eq_getElem_cons hi]
  exact (hclass _).2.1

theorem stateAt_ne_stop {i : Nat} (hi : i ≤ text.length)
    (hgoes : ∀ j < i, ruleset.haltsAt text j = false) : ruleset.stateAt text i ≠ .stop := by
  induction i with
  | zero =>
    show ClassId.start ≠ .stop
    decide
  | succ i ih =>
    have hstate := ih (by omega) fun j hj => hgoes j (by omega)
    rw [Ne, stateAt_succ_eq_stop_iff (nextClass_drop_ne_stop hclass (by omega)) hstate,
      hgoes i (by omega)]
    exact Bool.false_ne_true

theorem Reached.state_ne_stop (h : Reached ruleset text before ahead front place)
    (hgoes : ∀ j < before.length, ruleset.haltsAt text j = false) : place.state ≠ .stop := by
  have hlength := h.length_add_length
  rw [h.state_eq]
  exact stateAt_ne_stop hclass (by omega) hgoes

/-- A scan that never halts finds the pieces of the text to come, the first of them with the word
in progress in front. -/
theorem collect_of_reached (h : Reached ruleset text before ahead front place) (hfront : front ≠ [])
    (hgoes : ∀ j < text.length, ruleset.haltsAt text j = false) :
    (Scan.collect ruleset found place ahead).1 =
      found.reverse ++ locate place.wordStart
        (attach front (ruleset.breaksAt text before.length)
          (pieces (ruleset.breaksAt text) before.length ahead)) := by
  induction ahead generalizing before front place found with
  | nil =>
    have hlength := h.length_add_length
    have hstate := h.state_ne_stop hclass fun j hj => hgoes j (by omega)
    rw [Scan.collect_nil hstate, Place.finish, h.segment?_eq hfront]
    simp [pieces, attach, locate]
  | cons c ahead ih =>
    have hlength := h.length_add_length
    have hstate := h.state_ne_stop hclass fun j hj => hgoes j (by omega)
    -- The word in progress after the step is the next one, or the same one with `c` added.
    obtain ⟨word, hword, hnext, hlocate⟩ := h.exists_step (fun c => (hclass c).2.2) hfront
    rw [Scan.collect_cons hstate, pieces, hlocate, ih hnext hword, List.length_append,
      List.length_singleton, List.reverse_append, reverse_toList, List.append_assoc]

/-- A scan that halts loses the word in progress and all text behind the boundary. -/
theorem collect_of_haltsAt (h : Reached ruleset text before ahead front place) (hfront : front ≠ [])
    {k : Nat} (hge : before.length ≤ k) (hlt : k < text.length)
    (hhalts : ruleset.haltsAt text k = true) (hgoes : ∀ j < k, ruleset.haltsAt text j = false) :
    (Scan.collect ruleset found place ahead).1 =
      found.reverse ++ (locate place.wordStart
        (attach front (ruleset.breaksAt text before.length)
          (pieces (ruleset.breaksAt text) before.length
            (ahead.take (k + 1 - before.length))))).dropLast := by
  induction ahead generalizing before front place found with
  | nil =>
    have hlength := h.length_add_length
    rw [List.length_nil] at hlength
    omega
  | cons c ahead ih =>
    have hstate := h.state_ne_stop hclass fun j hj => hgoes j (by omega)
    rw [Scan.collect_cons hstate]
    obtain ⟨word, hword, hnext, hlocate⟩ := h.exists_step (fun c => (hclass c).2.2) hfront
    rcases Nat.eq_or_lt_of_le hge with rfl | hgt
    · have hbreak := breaksAt_eq_false_of_haltsAt hhalts
      have hnone := (h.step_of_not_breaksAt (hclass c).2.2 hbreak).1
      have hstop : (place.step ruleset c ahead).2.state = .stop := by
        rw [hnext.state_eq, List.length_append, List.length_singleton,
          stateAt_succ_eq_stop_iff (nextClass_drop_ne_stop hclass hlt) (h.state_eq ▸ hstate)]
        exact hhalts
      rw [Scan.collect_of_stop hstop, hnone, hbreak, Nat.add_sub_cancel_left]
      simp [pieces, attach, locate]
    · have htake : k + 1 - before.length = (k + 1 - (before ++ [c]).length) + 1 := by
        simp
        omega
      rw [htake, List.take_succ_cons, pieces, hlocate,
        List.dropLast_append_of_ne_nil (locate_ne_nil (attach_ne_nil _ _ _)), ih hnext hword]
      · simp [reverse_toList]
      · simp
        omega

/-- The first character always begins a word, and none ends there. -/
theorem exists_first_step (c : Char) (ahead : List Char) :
    (Place.step ruleset {} c ahead).1 = none ∧ (Place.step ruleset {} c ahead).2.wordStart = 0 ∧
      Reached ruleset (c :: ahead) [c] ahead [c] (Place.step ruleset {} c ahead).2 := by
  have hzero := reached_zero ruleset (c :: ahead)
  cases hbreak : ruleset.breaksAt (c :: ahead) 0 with
  | true => exact hzero.step_of_breaksAt hbreak
  | false => exact hzero.step_of_not_breaksAt (hclass c).2.2 hbreak

theorem segments_eq_locate (hgoes : ∀ j < text.length, ruleset.haltsAt text j = false) :
    ruleset.segments text = locate 0 (pieces (ruleset.breaksAt text) 0 text) := by
  cases text with
  | nil => rfl
  | cons c ahead =>
    obtain ⟨hnone, hstart, hnext⟩ := exists_first_step hclass c ahead
    change (Scan.collect ruleset [] {} (c :: ahead)).1 = _
    rw [Scan.collect_cons (by decide), hnone,
      collect_of_reached hclass hnext (List.cons_ne_nil _ _) hgoes, hstart]
    rfl

theorem segments_of_haltsAt {k : Nat} (hlt : k < text.length)
    (hhalts : ruleset.haltsAt text k = true) (hgoes : ∀ j < k, ruleset.haltsAt text j = false) :
    ruleset.segments text =
      (locate 0 (pieces (ruleset.breaksAt text) 0 (text.take (k + 1)))).dropLast := by
  cases text with
  | nil => exact absurd hlt (Nat.not_lt_zero k)
  | cons c ahead =>
    obtain ⟨hnone, hstart, hnext⟩ := exists_first_step hclass c ahead
    change (Scan.collect ruleset [] {} (c :: ahead)).1 = _
    rw [Scan.collect_cons (by decide), hnone]
    cases k with
    | zero =>
      have hstop : (Place.step ruleset {} c ahead).2.state = .stop := by
        have hstart : ruleset.stateAt (c :: ahead) 0 ≠ .stop :=
          stateAt_ne_stop hclass (Nat.zero_le _) hgoes
        rw [hnext.state_eq]
        exact (stateAt_succ_eq_stop_iff (nextClass_drop_ne_stop hclass hlt) hstart).mpr hhalts
      rw [Scan.collect_of_stop hstop]
      rfl
    | succ k =>
      rw [collect_of_haltsAt hclass hnext (List.cons_ne_nil _ _) (Nat.le_add_left 1 k) hlt hhalts
        hgoes, hstart]
      rfl

end Built

variable {classes : List CharClass} {index : ClassIndex} {rules : List Rule}

/-- Without a rule that absorbs into the edge no scan halts. -/
theorem haltsAt_eq_false (hruleset : compile index rules = .ok ruleset)
    (htarget : ∀ rule ∈ rules, rule.action = .absorb → index.id? rule.target ≠ some .stop)
    (text : List Char) (i : Nat) : ruleset.haltsAt text i = false := by
  unfold haltsAt
  cases hrule : ruleset.ruleAt text i with
  | none => rfl
  | some rule =>
    obtain ⟨hmem, hid⟩ := exists_rule_of_select hruleset hrule
    by_cases haction : rule.action = .absorb
    · have hne : rule.target ≠ .stop := by
        intro hstop
        exact htarget rule.rule hmem haction (hstop ▸ hid)
      simp [hne]
    · simp [haction]

/-- The segments are the pieces of the text between the boundaries that break, each with the offset
of its first character, and a scan gives them one at a time in this order. -/
theorem segments_eq_pieces (hindex : ClassIndex.build classes = .ok index)
    (hruleset : compile index rules = .ok ruleset)
    (htarget : ∀ rule ∈ rules, rule.action = .absorb → index.id? rule.target ≠ some .stop)
    (text : List Char) :
    ruleset.segments text = locate 0 (pieces (ruleset.breaksAt text) 0 text) ∧
      ruleset.words text = (pieces (ruleset.breaksAt text) 0 text).map String.ofList ∧
      ∀ k, (Scan.ofText text).pull ruleset k =
        (locate 0 (pieces (ruleset.breaksAt text) 0 text))[k]? := by
  have hsegments : ruleset.segments text = locate 0 (pieces (ruleset.breaksAt text) 0 text) :=
    segments_eq_locate (classOf_ne_of_compile hindex hruleset)
      fun i _ => haltsAt_eq_false hruleset htarget text i
  refine ⟨hsegments, ?_, ?_⟩
  · rw [words, hsegments, map_text_locate]
  · intro k
    rw [Scan.pull_eq, ← hsegments]
    rfl

end Ruleset

/-! A grammar of letters in which a hyphen does not end a word. -/
namespace Hyphenation

def classes : List CharClass :=
  [⟨"LETTER", [⟨97, 122, by decide⟩]⟩, ⟨"HYPHEN", [⟨45, 45, by decide⟩]⟩]

def rules : List Rule :=
  [⟨"R1", ["LETTER"], ["LETTER"], "LETTER", .join, by decide, by decide, by decide, by decide⟩,
    ⟨"R2", ["ANY"], ["HYPHEN"], "ANY", .absorb, by decide, by decide, by decide, by decide⟩]

/-- The hyphen is passed in the state of the letter before it. -/
theorem segments_of_hyphenated :
    ∃ index ruleset, ClassIndex.build classes = .ok index ∧
      Ruleset.compile index rules = .ok ruleset ∧
      (∀ rule ∈ rules, rule.action = .absorb → index.id? rule.target ≠ some .stop) ∧
      locate 0 (pieces (ruleset.breaksAt ['a', '-', 'b', '1']) 0 ['a', '-', 'b', '1']) =
        [⟨0, "a-b"⟩, ⟨3, "1"⟩] ∧
      ∀ k, (Scan.ofText ['a', '-', 'b', '1']).pull ruleset k =
        ([⟨0, "a-b"⟩, ⟨3, "1"⟩] : List Segment)[k]? := by
  have hindex : ClassIndex.build classes = .ok (.ofCollected (ClassIndex.builtIns ++ classes)) := by
    decide +kernel
  have htarget : ∀ rule ∈ rules, rule.action = .absorb →
      (ClassIndex.ofCollected (ClassIndex.builtIns ++ classes)).id? rule.target ≠ some .stop := by
    decide +kernel
  have hsegments : (Ruleset.compile (.ofCollected (ClassIndex.builtIns ++ classes)) rules).map
      (·.segments ['a', '-', 'b', '1']) = .ok [⟨0, "a-b"⟩, ⟨3, "1"⟩] := by
    decide +kernel
  cases hruleset : Ruleset.compile (.ofCollected (ClassIndex.builtIns ++ classes)) rules with
  | error unknown => rw [hruleset] at hsegments; contradiction
  | ok ruleset =>
    rw [hruleset] at hsegments
    obtain ⟨hpieces, -, hpull⟩ :=
      Ruleset.segments_eq_pieces hindex hruleset htarget ['a', '-', 'b', '1']
    have hlocate := hpieces.symm.trans (Except.ok.inj hsegments)
    rw [hlocate] at hpull
    exact ⟨_, ruleset, hindex, hruleset, htarget, hlocate, hpull⟩

end Hyphenation
end BoundaryRules
