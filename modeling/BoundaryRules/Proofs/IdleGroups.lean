import BoundaryRules.Proofs.Expansion

/-! Lines without rules. A name by itself has to stand for some class, and a group only has to hold
a name: a line with a group of names that stand for nothing is accepted and says nothing. -/
namespace BoundaryRules

theorem choices_eq_nil_iff {α : Type} {groups : List (List α)} :
    choices groups = [] ↔ [] ∈ groups := by
  refine ⟨fun h => ?_, choices_of_nil_mem⟩
  by_contra hnil
  obtain ⟨choice, hchoice⟩ := exists_mem_choices fun group hgroup heq => hnil (heq ▸ hgroup)
  rw [h] at hchoice
  cases hchoice

namespace RuleLine

variable {aliases : Aliases} {pattern : Pattern} {rest : List Token} {elements : List Element}
  {written : Written} {rules : List Rule} {line : List Char} {number : Option Nat}

/-- Each name outside of groups stands for some class. -/
def Written.BareNamesStand (aliases : Aliases) (written : Written) : Prop :=
  ∀ name, .single name ∈ written.left ++ written.right → aliases.expand name ≠ []

/-- There is a group none of whose names stands for a class. -/
def Written.HasIdleGroup (aliases : Aliases) (written : Written) : Prop :=
  ∃ first more, .group first more ∈ written.left ++ written.right ∧
    ∀ name ∈ first :: more, aliases.expand name = []

theorem Written.bareNamesStand_iff :
    written.BareNamesStand aliases ↔
      ∀ element ∈ written.left ++ written.right, element.Readable aliases := by
  constructor
  · intro h element helement
    cases element with
    | single name => exact h name helement
    | group first more => trivial
  · exact fun h name hname => h _ hname

/-- No rules are left just if there is an idle group. -/
theorem Written.choices_eq_nil_iff (h : written.BareNamesStand aliases) :
    written.choices aliases = [] ↔ written.HasIdleGroup aliases := by
  have hclasses : written.choices aliases = [] ↔
      ∃ element ∈ written.left ++ written.right, element.classes aliases = [] := by
    have hsides : written.choices aliases = [] ↔
        BoundaryRules.choices (written.left.map (Element.classes aliases)) = [] ∨
          BoundaryRules.choices (written.right.map (Element.classes aliases)) = [] := by
      simp only [Written.choices, List.flatMap_eq_nil_iff, List.map_eq_nil_iff]
      cases BoundaryRules.choices (written.left.map (Element.classes aliases)) with
      | nil => simp
      | cons first more =>
        exact ⟨fun hnil => .inr (hnil first List.mem_cons_self),
          fun hnil _ _ => hnil.resolve_left (List.cons_ne_nil _ _)⟩
    rw [hsides, BoundaryRules.choices_eq_nil_iff, BoundaryRules.choices_eq_nil_iff]
    simp only [List.mem_map, List.mem_append, or_and_right, exists_or]
  rw [hclasses]
  constructor
  · rintro ⟨element, helement, hnil⟩
    rw [Element.classes, List.flatMap_eq_nil_iff] at hnil
    cases element with
    | single name => exact absurd (hnil name (List.mem_singleton_self name)) (h name helement)
    | group first more => exact ⟨first, more, helement, hnil⟩
  · rintro ⟨first, more, hgroup, hnil⟩
    exact ⟨_, hgroup, List.flatMap_eq_nil_iff.mpr hnil⟩

/-- A pattern with a name by itself that stands for nothing is refused. -/
theorem exists_readPattern_error (h : ∃ element ∈ elements, ¬ element.Readable aliases) :
    ∃ reason, readPattern aliases pattern (elements.flatMap Element.tokens ++ rest) =
      .error reason := by
  induction elements generalizing pattern with
  | nil => simp at h
  | cons element elements ih =>
    rw [List.flatMap_cons, List.append_assoc]
    by_cases helement : element.Readable aliases
    · rw [readPattern_element helement]
      refine ih ?_
      obtain ⟨other, hother, hnot⟩ := h
      rcases List.mem_cons.mp hother with rfl | hmem
      · contradiction
      · exact ⟨other, hmem, hnot⟩
    · cases element with
      | single name =>
        have hempty : (aliases.expand name).isEmpty = true :=
          List.isEmpty_iff.mpr (Decidable.not_not.mp helement)
        refine ⟨.noClasses name, ?_⟩
        simp [Element.tokens, readPattern, hempty]
      | group first more => exact absurd trivial helement

theorem exists_ofTokens_error
    (h : ∃ element ∈ written.left ++ written.right, ¬ element.Readable aliases) :
    ∃ reason, Sketch.ofTokens aliases written.tokens = .error reason := by
  simp only [Sketch.ofTokens, Written.tokens, List.cons_append, ok_bind]
  by_cases hleft : ∃ element ∈ written.left, ¬ element.Readable aliases
  · obtain ⟨reason, hreason⟩ := exists_readPattern_error hleft
    exact ⟨reason, by rw [hreason, error_bind]⟩
  · have hreadable : ∀ element ∈ written.left, element.Readable aliases := by
      intro element helement
      by_contra hnot
      exact hleft ⟨element, helement, hnot⟩
    have hright : ∃ element ∈ written.right, ¬ element.Readable aliases := by
      obtain ⟨element, helement, hnot⟩ := h
      rcases List.mem_append.mp helement with hmem | hmem
      · exact absurd (hreadable element hmem) hnot
      · exact ⟨element, hmem, hnot⟩
    obtain ⟨reason, hreason⟩ : ∃ reason, readPattern aliases []
        (written.right.flatMap Element.tokens ++ []) = .error reason :=
      exists_readPattern_error hright
    rw [List.append_nil] at hreason
    refine ⟨reason, ?_⟩
    simp only [readPattern_elements hreadable, readPattern_operator, ok_bind, hreason, error_bind]

/-- What a line of the grammar is read as, whatever the aliases stand for. -/
theorem readLine_eq_ok_iff_of_scan (hscan : Token.scan line = written.tokens) :
    readLine aliases number line = .ok rules ↔
      written.BareNamesStand aliases ∧ written.Shaped ∧
        (written.choices aliases).mapM (fun choice =>
          toRule written.name written.action choice.1 choice.2) = .ok rules := by
  rw [Written.bareNamesStand_iff]
  by_cases hreadable : ∀ element ∈ written.left ++ written.right, element.Readable aliases
  · rw [readLine_eq_ok_iff hreadable hscan, and_iff_right hreadable]
  · refine iff_of_false (fun hread => ?_) fun h => hreadable h.1
    obtain ⟨reason, hreason⟩ :
        ∃ reason, Sketch.ofTokens aliases written.tokens = .error reason := by
      apply exists_ofTokens_error
      simpa using hreadable
    rw [readLine, mapError_eq_ok_iff, read, hscan, hreason] at hread
    cases hread

/-- A line is accepted without rules just if it is of the grammar and has an idle group, with a
class for each name outside of groups. -/
theorem readLine_eq_ok_nil_iff (aliases : Aliases) (number : Option Nat) (line : List Char) :
    (readLine aliases number line = .ok [] ↔
      ∃ written : Written, Token.Spells written.tokens line ∧ written.Shaped ∧
        written.BareNamesStand aliases ∧ written.HasIdleGroup aliases) ∧
    ∀ rules, readLine aliases number line = .ok rules →
      (∃ written : Written, Token.Spells written.tokens line) ∧
      ∀ written : Written, Token.Spells written.tokens line →
        written.BareNamesStand aliases ∧ (rules = [] ↔ written.HasIdleGroup aliases) := by
  have hwritten : ∀ rules, readLine aliases number line = .ok rules →
      ∃ written : Written, Token.scan line = written.tokens := by
    intro rules hread
    obtain ⟨sketch, hsketch, -⟩ := bind_eq_ok_iff.mp (mapError_eq_ok_iff.mp hread)
    exact exists_written hsketch
  have hrules : ∀ rules, readLine aliases number line = .ok rules →
      ∀ written : Written, Token.scan line = written.tokens →
        written.BareNamesStand aliases ∧ written.Shaped ∧
          (rules = [] ↔ written.HasIdleGroup aliases) := by
    intro rules hread written hscan
    obtain ⟨hbare, hshaped, hmade⟩ := (readLine_eq_ok_iff_of_scan hscan).mp hread
    refine ⟨hbare, hshaped, ?_⟩
    rw [← Written.choices_eq_nil_iff hbare, ← List.length_eq_zero_iff, ← List.length_eq_zero_iff,
      (mapM_eq_ok_iff.mp hmade).length_eq]
  simp only [← Token.scan_eq_iff]
  refine ⟨⟨fun hread => ?_, ?_⟩, fun rules hread => ⟨hwritten rules hread, fun written hscan => ?_⟩⟩
  · obtain ⟨written, hscan⟩ := hwritten [] hread
    obtain ⟨hbare, hshaped, hidle⟩ := hrules [] hread written hscan
    exact ⟨written, hscan, hshaped, hbare, hidle.mp rfl⟩
  · rintro ⟨written, hscan, hshaped, hbare, hidle⟩
    rw [readLine_eq_ok_iff_of_scan hscan, (Written.choices_eq_nil_iff hbare).mpr hidle]
    exact ⟨hbare, hshaped, rfl⟩
  · obtain ⟨hbare, -, hidle⟩ := hrules rules hread written hscan
    exact ⟨hbare, hidle⟩

end RuleLine

/-! An alias for no classes, in a group. -/
namespace Unlisted

open RuleLine (readLine readLine_eq_ok_nil_iff)

def aliases : Aliases := Aliases.ofList [("Unlisted", [])]

def line : List Char := "R (unlisted | A) × B".toList

def written : RuleLine.Written where
  name := "R"
  left := [.group "unlisted" ["A"]]
  action := .join
  right := [.single "B"]

/-- Beside another name the alias only adds nothing to the choice. -/
theorem readLine_of_unlisted :
    ∃ rules, readLine aliases none line = .ok rules ∧ Token.Spells written.tokens line ∧
      written.BareNamesStand aliases ∧ ¬ written.HasIdleGroup aliases ∧ rules ≠ [] := by
  have hspells : Token.Spells written.tokens line := Token.scan_eq_iff.mp (by decide +kernel)
  have hidle : ¬ written.HasIdleGroup aliases := by
    rintro ⟨first, more, hgroup, hnil⟩
    obtain ⟨rfl, rfl⟩ : first = "unlisted" ∧ more = ["A"] := by simpa [written] using hgroup
    exact absurd (hnil "A" (by decide)) (by decide +kernel)
  have hread : (readLine aliases none line).isOk = true := by decide +kernel
  cases hrules : readLine aliases none line with
  | error fault =>
    rw [hrules] at hread
    cases hread
  | ok rules =>
    obtain ⟨-, haccepted⟩ := readLine_eq_ok_nil_iff aliases none line
    obtain ⟨-, hall⟩ := haccepted rules hrules
    obtain ⟨hbare, hnil⟩ := hall written hspells
    exact ⟨rules, rfl, hspells, hbare, hidle, fun heq => hidle (hnil.mp heq)⟩

/-- By itself in the group it leaves a line without rules, which is accepted. -/
theorem readLine_eq_ok_nil :
    readLine aliases none "R (unlisted) × B".toList = .ok [] := by
  decide +kernel

end Unlisted
end BoundaryRules
