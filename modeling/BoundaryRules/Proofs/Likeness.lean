import BoundaryRules.Proofs.Buckets
import BoundaryRules.Proofs.Pulls
import Mathlib.Data.List.Forall2

/-! Texts of like characters. A scan sees the characters of a text through their classes only, so
two texts with the same classes in the same places are divided at the same places. -/
namespace BoundaryRules

namespace ClassIndex

variable {index : ClassIndex} {s t : List Char} {c d : Char}

/-- Two texts with characters of the same classes in the same places. -/
def Alike (index : ClassIndex) : List Char → List Char → Prop :=
  List.Forall₂ fun c d => index.classOf c = index.classOf d

/-- A context cannot tell like texts apart. -/
theorem Alike.matchesSide_eq (h : index.Alike s t) (edge : ClassId) (context : List ClassId) :
    index.matchesSide edge context s = index.matchesSide edge context t := by
  induction context generalizing s t with
  | nil => rw [matchesSide, matchesSide]
  | cons expected context ih =>
    cases h with
    | nil => rfl
    | cons hclass hmore => rw [matchesSide, matchesSide, admits, admits, hclass, ih hmore]

end ClassIndex

variable {ruleset : Ruleset} {behind behind' ahead ahead' text text' : List Char} {c c' : Char}

namespace Ruleset

theorem nextClass_eq_of_alike (h : ruleset.classes.Alike ahead ahead') :
    ruleset.nextClass ahead = ruleset.nextClass ahead' := by
  cases h with
  | nil => rfl
  | cons hclass _ => exact hclass

theorem verify_eq_of_alike (hbehind : ruleset.classes.Alike behind behind')
    (hahead : ruleset.classes.Alike ahead ahead') :
    ruleset.verify behind ahead = ruleset.verify behind' ahead' := by
  funext rule
  rw [verify, verify, matchesBehind, matchesBehind, matchesAhead, matchesAhead,
    hbehind.matchesSide_eq, hahead.matchesSide_eq]

/-- Between like texts the same rule is selected. -/
theorem select_eq_of_alike (hbehind : ruleset.classes.Alike behind behind')
    (hahead : ruleset.classes.Alike ahead ahead') (state : ClassId) :
    ruleset.select behind ahead state = ruleset.select behind' ahead' state := by
  have hfrom : ruleset.selectFrom behind ahead = ruleset.selectFrom behind' ahead' := by
    funext key
    rw [selectFrom, selectFrom, verify_eq_of_alike hbehind hahead]
  rw [select, select, nextClass_eq_of_alike hahead, hfrom]

end Ruleset

/-- Places that differ in the characters passed but not in their classes. Offsets may differ, as
like characters may have different widths. -/
structure Place.Alike (ruleset : Ruleset) (place place' : Place) : Prop where
  behind : ruleset.classes.Alike place.behind place'.behind
  length_pending : place.pending.length = place'.pending.length
  state : place.state = place'.state

namespace Place.Alike

variable {place place' : Place}

/-- The number of characters of a segment, if there is one. -/
theorem length_segment? (h : Alike ruleset place place') :
    place.segment?.map (·.text.length) = place'.segment?.map (·.text.length) := by
  have hempty : place.pending.isEmpty = place'.pending.isEmpty := by
    rw [Bool.eq_iff_iff, List.isEmpty_iff_length_eq_zero, List.isEmpty_iff_length_eq_zero,
      h.length_pending]
  rw [segment?, segment?, hempty]
  split
  · rfl
  · simp [h.length_pending]

theorem pass (h : Alike ruleset place place')
    (hclass : ruleset.classes.classOf c = ruleset.classes.classOf c') (state : ClassId) :
    Alike ruleset (place.pass c state) (place'.pass c' state) where
  behind := .cons hclass h.behind
  length_pending := congrArg (· + 1) h.length_pending
  state := rfl

theorem restart (h : Alike ruleset place place') : Alike ruleset place.restart place'.restart where
  behind := h.behind
  length_pending := rfl
  state := h.state

theorem enter_eq (h : Alike ruleset place place') (cls : ClassId) :
    place.enter cls = place'.enter cls := by
  rw [enter, enter, h.state]

/-- A step past like characters ends words of the same length, or none, and leads to like places. -/
theorem step (h : Alike ruleset place place')
    (hclass : ruleset.classes.classOf c = ruleset.classes.classOf c')
    (hahead : ruleset.classes.Alike ahead ahead') :
    (place.step ruleset c ahead).1.map (·.text.length) =
        (place'.step ruleset c' ahead').1.map (·.text.length) ∧
      Alike ruleset (place.step ruleset c ahead).2 (place'.step ruleset c' ahead').2 := by
  have hselect : ruleset.select place.behind (c :: ahead) place.state =
      ruleset.select place'.behind (c' :: ahead') place'.state := by
    rw [h.state]
    exact Ruleset.select_eq_of_alike h.behind (.cons hclass hahead) place'.state
  rw [Place.step, Place.step, hselect, hclass]
  cases (ruleset.select place'.behind (c' :: ahead') place'.state).elim Action.cut
      CompiledRule.action with
  | cut => exact ⟨h.length_segment?, h.restart.pass hclass _⟩
  | join =>
    refine ⟨rfl, ?_⟩
    dsimp only
    rw [h.enter_eq]
    exact h.pass hclass _
  | absorb =>
    refine ⟨rfl, ?_⟩
    dsimp only
    rw [h.enter_eq]
    exact h.pass hclass _

end Place.Alike

/-- Passes over like texts from like places find words of the same lengths. -/
theorem Scan.map_length_collect_of_alike {place place' : Place} {found found' : List Segment}
    (hplace : Place.Alike ruleset place place') (hahead : ruleset.classes.Alike ahead ahead')
    (hfound : found.map (·.text.length) = found'.map (·.text.length)) :
    (collect ruleset found place ahead).1.map (·.text.length) =
      (collect ruleset found' place' ahead').1.map (·.text.length) := by
  induction hahead generalizing place place' found found' with
  | nil =>
    by_cases hstop : place.state = .stop
    · rw [collect_of_stop hstop, collect_of_stop (hplace.state ▸ hstop), List.map_reverse,
        List.map_reverse, hfound]
    · rw [collect_nil hstop, collect_nil (hplace.state ▸ hstop)]
      simp only [List.map_reverse, List.map_append, ← Option.toList_map, hfound, Place.finish,
        hplace.length_segment?]
  | cons hclass hmore ih =>
    by_cases hstop : place.state = .stop
    · rw [collect_of_stop hstop, collect_of_stop (hplace.state ▸ hstop), List.map_reverse,
        List.map_reverse, hfound]
    · obtain ⟨hsegment, hnext⟩ := hplace.step hclass hmore
      rw [collect_cons hstop, collect_cons (hplace.state ▸ hstop)]
      apply ih hnext
      rw [List.map_append, List.map_append, ← Option.toList_map, ← Option.toList_map, hsegment,
        hfound]

namespace Ruleset

/-- Like texts have equally many words, of the same lengths in order, and so do the requests for
one word at a time. -/
theorem length_words_of_alike (h : ruleset.classes.Alike text text') :
    (ruleset.words text).length = (ruleset.words text').length ∧
      (∀ k : Nat, (ruleset.words text)[k]?.map String.length =
        (ruleset.words text')[k]?.map String.length) ∧
      ∀ k : Nat, ((Scan.ofText text).pull ruleset k).map (·.text.length) =
        ((Scan.ofText text').pull ruleset k).map (·.text.length) := by
  have hplace : Place.Alike ruleset {} {} := ⟨.nil, rfl, rfl⟩
  have hsegments : (ruleset.segments text).map (·.text.length) =
      (ruleset.segments text').map (·.text.length) :=
    Scan.map_length_collect_of_alike hplace h rfl
  have hat : ∀ k : Nat, (ruleset.segments text)[k]?.map (·.text.length) =
      (ruleset.segments text')[k]?.map (·.text.length) := by
    intro k
    rw [← List.getElem?_map, hsegments, List.getElem?_map]
  refine ⟨?_, ?_, ?_⟩
  · simpa [words] using congrArg List.length hsegments
  · intro k
    simpa [words, Function.comp_def] using hat k
  · intro k
    rw [Scan.pull_eq, Scan.pull_eq]
    exact hat k

end Ruleset

/-! A grammar of two alphabets in which a dash does not end a word. -/
namespace Alphabets

def classes : List CharClass :=
  [⟨"ALPHA", [.single 97, .single 98, ⟨945, 969, by decide⟩]⟩,
    ⟨"DASH", [.single 45, .single 8208]⟩]

def rules : List Rule :=
  [⟨"R1", ["ALPHA"], ["ALPHA"], "ALPHA", .join, by decide, by decide, by decide, by decide⟩,
    ⟨"R2", ["ALPHA"], ["DASH"], "ALPHA", .absorb, by decide, by decide, by decide, by decide⟩]

/-- Characters of one byte, and of two or three. -/
theorem length_words_of_wide :
    ∃ index ruleset, ClassIndex.build classes = .ok index ∧
      Ruleset.compile index rules = .ok ruleset ∧
      ruleset.classes.Alike ['a', '-', 'b', '1'] ['α', '‐', 'β', '二'] ∧
      ruleset.words ['a', '-', 'b', '1'] = ["a-b", "1"] ∧
      (ruleset.words ['α', '‐', 'β', '二']).length = 2 ∧
      (ruleset.words ['α', '‐', 'β', '二'])[0]?.map String.length = some 3 ∧
      ((Scan.ofText ['α', '‐', 'β', '二']).pull ruleset 1).map (·.text.length) =
        ((Scan.ofText ['a', '-', 'b', '1']).pull ruleset 1).map (·.text.length) := by
  have hindex : ClassIndex.build classes = .ok (.ofCollected (ClassIndex.builtIns ++ classes)) := by
    decide +kernel
  have hwords : (Ruleset.compile (.ofCollected (ClassIndex.builtIns ++ classes)) rules).map
      (·.words ['a', '-', 'b', '1']) = .ok ["a-b", "1"] := by
    decide +kernel
  have halike : (ClassIndex.ofCollected (ClassIndex.builtIns ++ classes)).Alike
      ['a', '-', 'b', '1'] ['α', '‐', 'β', '二'] := by
    simp only [ClassIndex.Alike, List.forall₂_cons, List.Forall₂.nil, and_true]
    decide +kernel
  cases hruleset : Ruleset.compile (.ofCollected (ClassIndex.builtIns ++ classes)) rules with
  | error unknown => rw [hruleset] at hwords; contradiction
  | ok ruleset =>
    rw [hruleset] at hwords
    have hnarrow : ruleset.words ['a', '-', 'b', '1'] = ["a-b", "1"] := Except.ok.inj hwords
    rw [← Ruleset.classes_of_compile hruleset] at halike
    obtain ⟨hlength, hwide, hpull⟩ := Ruleset.length_words_of_alike halike
    refine ⟨_, ruleset, hindex, hruleset, halike, hnarrow, ?_, ?_, (hpull 1).symm⟩
    · rw [← hlength, hnarrow]
      rfl
    · rw [← hwide, hnarrow]
      rfl

end Alphabets
end BoundaryRules
