import BoundaryRules.Proofs.Compilation
import BoundaryRules.Proofs.WordBreak.Standard

/-! What the bundled grammar files under each key: the rules against a boundary by the classes next
to it, and single rules for line breaks, ignored characters and all else. -/
namespace BoundaryRules.WordBreak

def all : List WordBreak :=
  [other, doubleQuote, singleQuote, hebrewLetter, cr, lf, newline, extend, regionalIndicator,
    format, katakana, aLetter, midLetter, midNum, midNumLet, numeric, extendNumLet]

theorem mem_all (w : WordBreak) : w ∈ all := by
  cases w <;> decide

instance (p : WordBreak → Prop) [DecidablePred p] : Decidable (∀ w, p w) :=
  decidable_of_iff (∀ w ∈ all, p w) ⟨fun h w => h w (mem_all w), fun h w _ => h w⟩

/-- The contexts and the action of a rule. -/
def contexts (rule : CompiledRule) : List ClassId × List ClassId × Action :=
  (rule.left, rule.right, rule.action)

/-- What a rule does, and the class that is entered where it absorbs. -/
def effect (rule : CompiledRule) : Action × ClassId := (rule.action, rule.target)

/-- The rules of the grammar by their keys. -/
structure Filed (ruleset : Ruleset) : Prop where
  pair : ∀ v w : WordBreak, ((ruleset.bucket ⟨v.classId, w.classId⟩).map contexts).Perm
    ((rulesBetween v w).map fun rule =>
      (rule.1.map classId, rule.2.map classId, Action.join))
  before_any : ∀ v : WordBreak, (ruleset.bucket ⟨v.classId, .any⟩).map effect =
    if v.isLineBreak then [(.cut, .any)] else []
  any_after : ∀ w : WordBreak, (ruleset.bucket ⟨.any, w.classId⟩).map effect =
    if w.isLineBreak then [(.cut, w.classId)]
    else if w.isIgnored then [(.absorb, .any)] else []
  start_after : ∀ w : WordBreak, ruleset.bucket ⟨.start, w.classId⟩ = []
  start_any : (ruleset.bucket ⟨.start, .any⟩).map effect = [(.cut, .any)]
  any_any : (ruleset.bucket ⟨.any, .any⟩).map effect = [(.cut, .any)]

instance (ruleset : Ruleset) : Decidable (Filed ruleset) :=
  decidable_of_iff
    (_ ∧ _ ∧ _ ∧ _ ∧ _ ∧ _)
    ⟨fun ⟨a, b, c, d, e, f⟩ => ⟨a, b, c, d, e, f⟩, fun ⟨a, b, c, d, e, f⟩ => ⟨a, b, c, d, e, f⟩⟩

theorem filed_bundled : Filed Bundled.ruleset := by
  have hload : (Bundled.load?.map fun ruleset => decide (Filed ruleset)) = some true := by
    decide +kernel
  rw [Bundled.load?_eq_some, Option.map_some, Option.some_inj] at hload
  exact of_decide_eq_true hload

variable {ruleset : Ruleset} {v w : WordBreak} {behind ahead : List Char} {rule : CompiledRule}

/-- The rules with `v` and `w` next to the boundary join there: one that is alone in any case, and
one of several if its contexts are found in the classes on both sides. -/
def JoinsAsFiled (v w : WordBreak) (behind ahead : List WordBreak) : Prop :=
  (rulesBetween v w).length = 1 ∨
    ∃ rule ∈ rulesBetween v w, rule.1.reverse <+: behind ∧ rule.2 <+: ahead

section Verify

variable (hclass : ∀ c, ruleset.classes.classOf c = (ofChar c).classId)
include hclass

/-- Contexts over the classes of the table are compared with the classes of the characters. -/
theorem matchesSide_map_classId {edge : ClassId} (hedge : ∀ w : WordBreak, w.classId ≠ edge)
    {context : List WordBreak} {side : List Char} :
    ruleset.classes.matchesSide edge (context.map classId) side = true ↔
      context <+: side.map ofChar := by
  induction context generalizing side with
  | nil => simp [ClassIndex.matchesSide]
  | cons w context ih =>
    cases side with
    | nil => simp [ClassIndex.matchesSide, hedge w]
    | cons c side =>
      have hany : w.classId ≠ .any := by cases w <;> decide
      rw [List.map_cons, ClassIndex.matchesSide, Bool.and_eq_true, ih, List.map_cons,
        List.cons_prefix_cons, ClassIndex.admits, hclass]
      simp [hany, classId_injective.eq_iff, eq_comm]

theorem verify_iff_of_contexts {left right : List WordBreak} {action : Action}
    (h : contexts rule = (left.map classId, right.map classId, action)) :
    ruleset.verify behind ahead rule = true ↔
      left.reverse <+: behind.map ofChar ∧ right <+: ahead.map ofChar := by
  simp only [contexts, Prod.mk.injEq] at h
  have hstart : ∀ w : WordBreak, w.classId ≠ .start := by decide
  have hstop : ∀ w : WordBreak, w.classId ≠ .stop := by decide
  rw [Ruleset.verify, Bool.and_eq_true, Ruleset.matchesBehind, Ruleset.matchesAhead, h.1, h.2.1,
    ← List.map_reverse, matchesSide_map_classId hclass hstart,
    matchesSide_map_classId hclass hstop]

end Verify

section Filed

variable (hfiled : Filed ruleset)
include hfiled

theorem exists_of_mem_pair (h : rule ∈ ruleset.bucket ⟨v.classId, w.classId⟩) :
    ∃ source ∈ rulesBetween v w,
      contexts rule = (source.1.map classId, source.2.map classId, .join) := by
  have hmem := (hfiled.pair v w).mem_iff.mp (List.mem_map_of_mem h)
  obtain ⟨source, hsource, heq⟩ := List.mem_map.mp hmem
  exact ⟨source, hsource, heq.symm⟩

theorem action_of_selectFrom_pair
    (h : ruleset.selectFrom behind ahead ⟨v.classId, w.classId⟩ = some rule) :
    rule.action = .join := by
  obtain ⟨source, -, hcontexts⟩ := exists_of_mem_pair hfiled (Ruleset.mem_bucket_of_selectFrom h)
  exact congrArg (fun context => context.2.2) hcontexts

theorem selectFrom_pair_eq_none_iff
    (hclass : ∀ c, ruleset.classes.classOf c = (ofChar c).classId) :
    ruleset.selectFrom behind ahead ⟨v.classId, w.classId⟩ = none ↔
      ¬ JoinsAsFiled v w (behind.map ofChar) (ahead.map ofChar) := by
  have hlength : (ruleset.bucket ⟨v.classId, w.classId⟩).length = (rulesBetween v w).length := by
    simpa using (hfiled.pair v w).length_eq
  by_cases hone : (rulesBetween v w).length = 1
  · obtain ⟨rule, hbucket⟩ := List.length_eq_one_iff.mp (hlength.trans hone)
    simp [Ruleset.selectFrom_of_singleton hbucket, JoinsAsFiled, hone]
  · rw [Ruleset.selectFrom_of_length_ne_one (hlength ▸ hone), List.find?_eq_none, JoinsAsFiled]
    simp only [hone, false_or, not_exists]
    constructor
    · rintro h source ⟨hsource, hfound⟩
      have hmem := (hfiled.pair v w).mem_iff.mpr (List.mem_map_of_mem hsource)
      obtain ⟨rule, hrule, hcontexts⟩ := List.mem_map.mp hmem
      exact h rule hrule ((verify_iff_of_contexts hclass hcontexts).mpr hfound)
    · intro h rule hrule hverify
      obtain ⟨source, hsource, hcontexts⟩ := exists_of_mem_pair hfiled hrule
      exact h source ⟨hsource, (verify_iff_of_contexts hclass hcontexts).mp hverify⟩

end Filed

end BoundaryRules.WordBreak
