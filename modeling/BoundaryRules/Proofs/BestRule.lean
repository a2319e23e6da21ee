import BoundaryRules.Bundled
import BoundaryRules.Proofs.Buckets
import BoundaryRules.Proofs.Contexts
import BoundaryRules.Proofs.FirstLeast
import Mathlib.Data.List.Basic
import Mathlib.Data.List.Find
import Mathlib.Data.Prod.Lex
import Mathlib.Order.BooleanAlgebra.Basic
import Mathlib.Order.Nat

/-! Selection as a choice over the flat list of rules. Of the rules that are looked up at a
boundary and may be used there, the one of the least rank is selected. -/
namespace BoundaryRules.Ruleset

/-- A rule may be used at a boundary if it is the only one with its key, or if its contexts are
met there. -/
def Admissible (ruleset : Ruleset) (compiled : List CompiledRule) (behind ahead : List Char)
    (rule : CompiledRule) : Prop :=
  compiled.countP (fun other => other.key = rule.key) = 1 ∨
    ruleset.MeetsContexts behind ahead rule

/-- The `i`-th rule is looked up at a boundary and may be used there. -/
structure Candidate (ruleset : Ruleset) (compiled : List CompiledRule) (behind ahead : List Char)
    (state : ClassId) (i : Nat) (rule : CompiledRule) : Prop where
  at_index : compiled[i]? = some rule
  key_mem : rule.key ∈ tiers state (ruleset.nextClass ahead)
  admissible : ruleset.Admissible compiled behind ahead rule

/-- The order of preference: the first tier with the rule's key, longer contexts, a definite
target, an earlier definition. -/
def rank (keys : List BoundaryKey) (i : Nat) (rule : CompiledRule) : Nat ×ₗ Natᵒᵈ ×ₗ Bool ×ₗ Nat :=
  toLex (keys.idxOf rule.key, toLex (OrderDual.toDual rule.length,
    toLex (decide (rule.target = .any), i)))

theorem rank_le_iff {keys : List BoundaryKey} {i j : Nat} {a b : CompiledRule} :
    rank keys i a ≤ rank keys j b ↔
      keys.idxOf a.key ≤ keys.idxOf b.key ∧
        (keys.idxOf a.key = keys.idxOf b.key →
          a.precedes b = true ∧ (b.precedes a = true → i ≤ j)) := by
  simp only [rank, Prod.Lex.toLex_le_toLex', OrderDual.toDual_le_toDual, OrderDual.toDual_inj,
    CompiledRule.precedes_iff]
  refine and_congr_right fun _ => imp_congr_right fun _ => ?_
  rcases Nat.lt_trichotomy a.length b.length with h | h | h
  · have hnot : ¬ b.length ≤ a.length := by omega
    simp [hnot, h.ne, h.not_gt]
  · by_cases ha : a.target = .any <;> by_cases hb : b.target = .any <;> simp [h, ha, hb]
  · simp [h, h.le, h.ne, h.ne', h.not_gt]

variable {classes : ClassIndex} {rules : List Rule} {ruleset : Ruleset}
  {compiled : List CompiledRule} {behind ahead : List Char} {state : ClassId}
  {key : BoundaryKey} {rule : CompiledRule} {i : Nat}

/-- The test that a search of one bucket makes. -/
def usable (ruleset : Ruleset) (compiled : List CompiledRule) (behind ahead : List Char)
    (rule : CompiledRule) : Bool :=
  compiled.countP (fun other => other.key = rule.key) = 1 || ruleset.verify behind ahead rule

theorem usable_iff :
    ruleset.usable compiled behind ahead rule = true ↔
      ruleset.Admissible compiled behind ahead rule := by
  simp [usable, Admissible, verify_iff]

section Compiled

variable (hcompiled : rules.mapM (CompiledRule.compile classes) = .ok compiled)
  (hruleset : compile classes rules = .ok ruleset)
include hcompiled hruleset

/-- The shortcut for a rule alone in its bucket and the search of larger buckets are one search. -/
theorem selectFrom_eq_find? :
    ruleset.selectFrom behind ahead key =
      (ruleset.bucket key).find? (ruleset.usable compiled behind ahead) := by
  have hcount : ∀ rule ∈ ruleset.bucket key,
      compiled.countP (fun other => other.key = rule.key) = (ruleset.bucket key).length := by
    intro rule hmem
    rw [length_bucket hcompiled hruleset, ((mem_bucket_iff hcompiled hruleset).mp hmem).2]
  unfold selectFrom
  split
  next hbucket => rw [hbucket, List.find?_nil]
  next rule hbucket =>
    have hone := hcount rule (by rw [hbucket]; exact List.mem_singleton_self rule)
    have husable : ruleset.usable compiled behind ahead rule = true := by
      simp [usable, hone, hbucket]
    rw [hbucket, List.find?_cons_of_pos husable]
  next hempty hsingle =>
    have hlength : (ruleset.bucket key).length ≠ 1 := by
      intro hone
      obtain ⟨rule, hbucket⟩ := List.length_eq_one_iff.mp hone
      exact hsingle rule hbucket
    apply List.find?_congr
    intro rule hmem
    simp [usable, hcount rule hmem, hlength]

theorem selectFrom_eq_none_iff :
    ruleset.selectFrom behind ahead key = none ↔
      ∀ rule ∈ compiled, rule.key = key → ¬ ruleset.Admissible compiled behind ahead rule := by
  rw [selectFrom_eq_find? hcompiled hruleset, List.find?_eq_none]
  simp only [mem_bucket_iff hcompiled hruleset, usable_iff, and_imp]

theorem firstLeast_of_selectFrom (h : ruleset.selectFrom behind ahead key = some rule) :
    ∃ i, FirstLeast CompiledRule.precedes
      (fun rule => rule.key = key && ruleset.usable compiled behind ahead rule)
      compiled i rule := by
  rw [selectFrom_eq_find? hcompiled hruleset, bucket_eq hcompiled hruleset] at h
  exact firstLeast_of_find?_sortStable CompiledRule.precedes_total CompiledRule.precedes_trans h

/-- The rule found under a key is a candidate, and ranks before all candidates with the key. -/
theorem candidate_of_selectFrom (hkey : key ∈ tiers state (ruleset.nextClass ahead))
    (h : ruleset.selectFrom behind ahead key = some rule) :
    rule.key = key ∧ ∃ i, ruleset.Candidate compiled behind ahead state i rule ∧
      ∀ j other, ruleset.Candidate compiled behind ahead state j other → other.key = key →
        rule.precedes other = true ∧ (other.precedes rule = true → i ≤ j) := by
  obtain ⟨i, hleast⟩ := firstLeast_of_selectFrom hcompiled hruleset h
  obtain ⟨hrule, husable⟩ := Bool.and_eq_true_iff.mp hleast.passes
  obtain rfl := of_decide_eq_true hrule
  refine ⟨rfl, i, ⟨hleast.at_index, hkey, usable_iff.mp husable⟩, ?_⟩
  intro j other hother hsame
  have hpasses : (decide (other.key = rule.key) &&
      ruleset.usable compiled behind ahead other) = true := by
    simp [hsame, usable_iff.mpr hother.admissible]
  exact ⟨hleast.le_all j other hother.at_index hpasses,
    hleast.first j other hother.at_index hpasses⟩

/-- No candidate has a key under which nothing is found. -/
theorem Candidate.selectFrom_ne_none (h : ruleset.Candidate compiled behind ahead state i rule) :
    ruleset.selectFrom behind ahead rule.key ≠ none := by
  intro hnone
  exact (selectFrom_eq_none_iff hcompiled hruleset).mp hnone rule
    (List.mem_of_getElem? h.at_index) rfl h.admissible

/-- The selected rule is a candidate that ranks first. -/
theorem exists_least_of_select (h : ruleset.select behind ahead state = some rule) :
    ∃ i, ruleset.Candidate compiled behind ahead state i rule ∧
      ∀ j other, ruleset.Candidate compiled behind ahead state j other →
        rank (tiers state (ruleset.nextClass ahead)) i rule ≤
          rank (tiers state (ruleset.nextClass ahead)) j other := by
  obtain ⟨before, key, after, hkeys, hfound, hbefore⟩ := List.findSome?_eq_some_iff.mp h
  have hmem : key ∈ tiers state (ruleset.nextClass ahead) := by rw [hkeys]; simp
  obtain ⟨rfl, i, hcandidate, hleast⟩ :=
    candidate_of_selectFrom hcompiled hruleset hmem hfound
  refine ⟨i, hcandidate, ?_⟩
  intro j other hother
  -- A tier before that of the selected rule has no candidates.
  have hnot : ∀ {k c}, ruleset.Candidate compiled behind ahead state k c → c.key ∉ before :=
    fun hc hin => hc.selectFrom_ne_none hcompiled hruleset (hbefore _ hin)
  rw [rank_le_iff, hkeys, List.idxOf_append_of_notMem (hnot hcandidate),
    List.idxOf_append_of_notMem (hnot hother), List.idxOf_cons_self]
  refine ⟨by omega, fun hidx => hleast j other hother ?_⟩
  by_contra hne
  rw [List.idxOf_cons_ne _ (Ne.symm hne)] at hidx
  omega

theorem select_eq_none_iff :
    ruleset.select behind ahead state = none ↔
      ∀ i rule, ¬ ruleset.Candidate compiled behind ahead state i rule := by
  constructor
  · intro hnone i rule hcandidate
    exact hcandidate.selectFrom_ne_none hcompiled hruleset
      (List.findSome?_eq_none_iff.mp hnone _ hcandidate.key_mem)
  · intro hno
    by_contra hsome
    obtain ⟨rule, hrule⟩ := Option.ne_none_iff_exists'.mp hsome
    obtain ⟨i, hcandidate, -⟩ := exists_least_of_select hcompiled hruleset hrule
    exact hno i rule hcandidate

end Compiled

/-- Only one rule has a given rank. -/
theorem index_eq_of_rank_eq {keys : List BoundaryKey} {i j : Nat} {a b : CompiledRule}
    (h : rank keys i a = rank keys j b) : i = j := by
  simp only [rank, toLex_inj, Prod.mk.injEq] at h
  exact h.2.2.2

/-- At every boundary and in every state the candidate of the least rank is selected, and no rule
if there are no candidates. -/
def SelectsLeast (ruleset : Ruleset) (compiled : List CompiledRule) : Prop :=
  ∀ (behind ahead : List Char) (state : ClassId),
    (∀ rule, ruleset.select behind ahead state = some rule ↔
      ∃ i, ruleset.Candidate compiled behind ahead state i rule ∧
        ∀ j other, ruleset.Candidate compiled behind ahead state j other →
          rank (tiers state (ruleset.nextClass ahead)) i rule ≤
            rank (tiers state (ruleset.nextClass ahead)) j other) ∧
    (ruleset.select behind ahead state = none ↔
      ∀ i rule, ¬ ruleset.Candidate compiled behind ahead state i rule)

/-- The search through sorted buckets is a choice over the flat list of rules. -/
theorem selectsLeast_of_compile (hruleset : compile classes rules = .ok ruleset) :
    ∃ compiled, rules.mapM (CompiledRule.compile classes) = .ok compiled ∧
      ruleset.SelectsLeast compiled := by
  obtain ⟨compiled, hcompiled, -⟩ := exists_compiled_of_compile hruleset
  refine ⟨compiled, hcompiled, ?_⟩
  intro behind ahead state
  constructor
  · intro rule
    refine ⟨exists_least_of_select hcompiled hruleset, ?_⟩
    rintro ⟨i, hcandidate, hleast⟩
    cases hselect : ruleset.select behind ahead state with
    | none =>
      exact absurd hcandidate ((select_eq_none_iff hcompiled hruleset).mp hselect i rule)
    | some other =>
      obtain ⟨j, hother, hmin⟩ := exists_least_of_select hcompiled hruleset hselect
      have hij := index_eq_of_rank_eq (le_antisymm (hleast j other hother) (hmin i rule hcandidate))
      subst hij
      exact hother.at_index.symm.trans hcandidate.at_index
  · exact select_eq_none_iff hcompiled hruleset

/-- The bundled grammar selects so. -/
theorem selectsLeast_bundled :
    ∃ index rules, compile index rules = .ok Bundled.ruleset ∧
      ∃ compiled, rules.mapM (CompiledRule.compile index) = .ok compiled ∧
        Bundled.ruleset.SelectsLeast compiled := by
  obtain ⟨index, rules, -, -, hruleset⟩ := Bundled.exists_parts
  exact ⟨index, rules, hruleset, selectsLeast_of_compile hruleset⟩

end BoundaryRules.Ruleset
