import BoundaryRules.Proofs.Compilation
import BoundaryRules.Proofs.StableOrder
import BoundaryRules.RuleLine
import Mathlib.Data.List.Dedup
import Mathlib.Data.List.Induction
import Mathlib.Data.Option.Basic

/-! The buckets of a ruleset as a table of its rules. There is one bucket for each key that some
rule has, it holds all rules with that key, and they stand in it in the order in which they are
tried. -/
namespace BoundaryRules

/-- The classes that the names next to a rule's boundary stand for. -/
def ClassIndex.keyOf? (index : ClassIndex) (rule : Rule) : Option BoundaryKey := do
  return ⟨← index.id? rule.lastOfLeft, ← index.id? rule.firstOfRight⟩

/-- Whether a rule stands before another one in their bucket. With each of them goes its position
among all rules. -/
inductive CompiledRule.StandsBefore (a b : CompiledRule × Nat) : Prop where
  | longer (h : b.1.length < a.1.length)
  | definite (h : a.1.length = b.1.length) (ha : a.1.target ≠ .any) (hb : b.1.target = .any)
  | earlier (h : a.1.length = b.1.length) (htarget : a.1.target = .any ↔ b.1.target = .any)
      (hposition : a.2 < b.2)

variable {index : ClassIndex} {rules : List Rule} {source : Rule} {ruleset : Ruleset}
  {compiled filed : List CompiledRule} {rule : CompiledRule} {buckets : List Bucket}
  {bucket : Bucket} {key : BoundaryKey}

theorem CompiledRule.keyOf?_of_compile (h : compile index source = .ok rule) :
    index.keyOf? source = some rule.key := by
  obtain ⟨hbefore, hafter⟩ := key_of_compile h
  simp [ClassIndex.keyOf?, hbefore, hafter]

theorem CompiledRule.standsBefore_of_precedes {a b : CompiledRule × Nat}
    (h : a.1.precedes b.1 = true) (hposition : b.1.precedes a.1 = true → a.2 < b.2) :
    StandsBefore a b := by
  rw [precedes_iff] at h hposition
  rcases h with hlonger | ⟨hlength, htarget⟩
  · exact .longer hlonger
  · by_cases hback : b.1.target ≠ .any ∨ a.1.target = .any
    · refine .earlier hlength ?_ (hposition (.inr ⟨hlength.symm, hback⟩))
      by_cases ha : a.1.target = .any <;> by_cases hb : b.1.target = .any <;> simp_all
    · simp only [not_or, not_not] at hback
      exact .definite hlength hback.2 hback.1

namespace Bucket

def keys (buckets : List Bucket) : List BoundaryKey := buckets.map (·.key)

@[simp] theorem keys_nil : keys [] = [] := rfl

@[simp] theorem keys_cons (bucket : Bucket) (buckets : List Bucket) :
    keys (bucket :: buckets) = bucket.key :: keys buckets := rfl

@[simp] theorem keys_map_sorted (buckets : List Bucket) :
    keys (buckets.map sorted) = keys buckets := by
  simp [keys, sorted, Function.comp_def]

theorem keys_file (buckets : List Bucket) (rule : CompiledRule) :
    keys (file buckets rule) =
      if rule.key ∈ keys buckets then keys buckets else keys buckets ++ [rule.key] := by
  induction buckets with
  | nil => simp [file]
  | cons bucket buckets ih =>
    unfold file
    split
    next hkey => simp [hkey]
    next hkey =>
      rw [keys_cons, ih]
      by_cases hmem : rule.key ∈ keys buckets <;> simp [hmem, Ne.symm hkey]

/-- No two buckets have one key, and they have those of the rules that were filed. -/
structure Keyed (buckets : List Bucket) (filed : List CompiledRule) : Prop where
  nodup : (keys buckets).Nodup
  mem_iff : ∀ key, key ∈ keys buckets ↔ ∃ rule ∈ filed, rule.key = key

/-- Filing one more rule. -/
theorem Keyed.file (h : Keyed buckets filed) (rule : CompiledRule) :
    Keyed (file buckets rule) (filed ++ [rule]) := by
  have hmem : ∀ key, (∃ other ∈ filed ++ [rule], other.key = key) ↔
      key ∈ keys buckets ∨ rule.key = key := by
    simp [h.mem_iff, or_and_right, exists_or]
  constructor
  · rw [keys_file]
    split
    next => exact h.nodup
    next hnew =>
      rw [← List.concat_eq_append]
      exact h.nodup.concat hnew
  · intro key
    rw [hmem, keys_file]
    split
    next hold =>
      refine ⟨.inl, fun hkey => hkey.elim id ?_⟩
      intro heq
      rwa [← heq]
    next => simp [eq_comm]

theorem keyed_foldl_file (rules : List CompiledRule) :
    Keyed (rules.foldl Bucket.file []) rules := by
  induction rules using List.reverseRecOn with
  | nil => exact ⟨List.nodup_nil, by simp⟩
  | append_singleton rules rule ih =>
    rw [List.foldl_append]
    exact ih.file rule

theorem keyed_ofRules (rules : List CompiledRule) : Keyed (ofRules rules) rules := by
  obtain ⟨hnodup, hmem⟩ := keyed_foldl_file rules
  rw [← keys_map_sorted] at hnodup hmem
  exact ⟨hnodup, hmem⟩

theorem length_ofRules (rules : List CompiledRule) :
    (ofRules rules).length = (rules.map (·.key)).dedup.length := by
  have hkeyed := keyed_ofRules rules
  have hperm : (keys (ofRules rules)).Perm (rules.map (·.key)).dedup := by
    rw [List.perm_ext_iff_of_nodup hkeyed.nodup (List.nodup_dedup _)]
    simp [hkeyed.mem_iff]
  rw [← hperm.length_eq, keys, List.length_map]

theorem Keyed.exists_mem (h : Keyed buckets filed) (hrule : rule ∈ filed) :
    ∃ bucket ∈ buckets, bucket.key = rule.key :=
  List.mem_map.mp ((h.mem_iff rule.key).mpr ⟨rule, hrule, rfl⟩)

theorem Keyed.eq_of_key_eq {other : Bucket} (h : Keyed buckets filed) (hbucket : bucket ∈ buckets)
    (hother : other ∈ buckets) (hkey : other.key = bucket.key) : other = bucket :=
  List.inj_on_of_nodup_map h.nodup hother hbucket hkey

/-- Where no two buckets have one key, a bucket is what is found under its key. -/
theorem under_of_mem (h : (keys buckets).Nodup) (hmem : bucket ∈ buckets) :
    under buckets bucket.key = bucket.rules := by
  induction buckets with
  | nil => cases hmem
  | cons first buckets ih =>
    rw [keys_cons, List.nodup_cons] at h
    rw [under_cons]
    rcases List.mem_cons.mp hmem with rfl | hmem
    · exact if_pos rfl
    · have hne : first.key ≠ bucket.key := by
        intro heq
        exact h.1 (heq ▸ List.mem_map_of_mem hmem)
      rw [if_neg hne, ih h.2 hmem]

theorem rules_of_mem_ofRules (h : bucket ∈ ofRules compiled) :
    bucket.rules =
      sortStable CompiledRule.precedes (compiled.filter fun rule => rule.key = bucket.key) := by
  rw [← under_of_mem (keyed_ofRules compiled).nodup h, under_ofRules]

theorem mem_rules_iff (h : bucket ∈ ofRules compiled) :
    rule ∈ bucket.rules ↔ rule ∈ compiled ∧ rule.key = bucket.key := by
  rw [rules_of_mem_ofRules h, (sortStable_perm _ _).mem_iff, List.mem_filter, decide_eq_true_eq]

theorem rules_ne_nil (h : bucket ∈ ofRules compiled) : bucket.rules ≠ [] := by
  have hkey : bucket.key ∈ keys (ofRules compiled) := List.mem_map_of_mem h
  obtain ⟨rule, hrule, heq⟩ := ((keyed_ofRules compiled).mem_iff _).mp hkey
  exact List.ne_nil_of_mem ((mem_rules_iff h).mpr ⟨hrule, heq⟩)

/-- The rules of a bucket with their positions among all rules. -/
theorem exists_placed (h : bucket ∈ ofRules compiled) :
    ∃ placed : List (CompiledRule × Nat), bucket.rules = placed.map Prod.fst ∧
      placed.Pairwise CompiledRule.StandsBefore ∧
      ∀ entry ∈ placed, compiled[entry.2]? = some entry.1 := by
  have hpositions : (compiled.zipIdx.filter fun entry => entry.1.key = bucket.key).Pairwise
      (·.2 < ·.2) :=
    (pairwise_snd_zipIdx compiled).sublist List.filter_sublist
  have hrules : (compiled.zipIdx.filter fun entry => entry.1.key = bucket.key).map Prod.fst =
      compiled.filter fun rule => rule.key = bucket.key := by
    conv_rhs => rw [← List.zipIdx_map_fst 0 compiled]
    rw [List.filter_map]
    rfl
  refine ⟨_, ?_, (pairwise_sortStable_placed CompiledRule.precedes_total
    CompiledRule.precedes_trans hpositions).imp fun hab =>
      CompiledRule.standsBefore_of_precedes hab.1 hab.2, ?_⟩
  · rw [rules_of_mem_ofRules h, map_fst_sortStable hpositions, hrules]
  · intro entry hentry
    rw [(sortStable_perm _ _).mem_iff, List.mem_filter] at hentry
    exact List.mem_zipIdx_iff_getElem?.mp hentry.1

end Bucket

theorem CompiledRule.map_keyOf?
    (h : List.Forall₂ (fun source rule => compile index source = .ok rule) rules compiled) :
    rules.map index.keyOf? = (compiled.map (·.key)).map some := by
  induction h with
  | nil => rfl
  | cons hcompile _ ih =>
    rw [List.map_cons, ih, keyOf?_of_compile hcompile]
    rfl

/-- A rule is compiled as often as it is there, and always under its key. -/
theorem CompiledRule.count_rule_filter
    (h : List.Forall₂ (fun source rule => compile index source = .ok rule) rules compiled)
    (hkey : index.keyOf? source = some key) :
    ((compiled.filter fun rule => rule.key = key).map (·.rule)).count source =
      rules.count source := by
  induction h with
  | nil => rfl
  | @cons other rule rules compiled hcompile _ ih =>
    have hrule : rule.rule = other := (standsFor_of_compile hcompile).rule_eq
    by_cases heq : other = source
    · have hfiled : rule.key = key := by
        rw [← heq, keyOf?_of_compile hcompile] at hkey
        exact Option.some.inj hkey
      simp [hfiled, hrule, heq, ih]
    · rw [List.count_cons_of_ne heq, ← ih, List.filter_cons]
      split
      · rw [List.map_cons, hrule, List.count_cons_of_ne heq]
      · rfl

namespace Ruleset

/-- The buckets are a table of the rules. -/
structure Filed (ruleset : Ruleset) (index : ClassIndex) (rules : List Rule) : Prop where
  nodup_keys : (Bucket.keys ruleset.buckets).Nodup
  /-- Each rule is in the bucket of its key as often as among the rules, and in no other. -/
  in_one : ∀ rule ∈ rules, ∃ bucket ∈ ruleset.buckets, index.keyOf? rule = some bucket.key ∧
    (bucket.rules.map (·.rule)).count rule = rules.count rule ∧
    ∀ other ∈ ruleset.buckets, rule ∈ other.rules.map (·.rule) → other = bucket
  ne_nil : ∀ bucket ∈ ruleset.buckets, bucket.rules ≠ []
  length_eq : ruleset.buckets.length = (rules.map index.keyOf?).dedup.length
  /-- A bucket holds nothing but rules of the list, in the order in which they are tried. -/
  ordered : ∀ bucket ∈ ruleset.buckets, ∃ placed : List (CompiledRule × Nat),
    bucket.rules = placed.map Prod.fst ∧ placed.Pairwise CompiledRule.StandsBefore ∧
    ∀ entry ∈ placed, rules[entry.2]? = some entry.1.rule ∧ entry.1.StandsFor index entry.1.rule

/-- A rule is in the bucket of its key, as often as it is there, and in no other. -/
theorem exists_bucket_of_mem
    (h : List.Forall₂ (fun source rule => CompiledRule.compile index source = .ok rule)
      rules compiled) (hsource : source ∈ rules) :
    ∃ bucket ∈ Bucket.ofRules compiled, index.keyOf? source = some bucket.key ∧
      (bucket.rules.map (·.rule)).count source = rules.count source ∧
      ∀ other ∈ Bucket.ofRules compiled, source ∈ other.rules.map (·.rule) → other = bucket := by
  have hkeyed := Bucket.keyed_ofRules compiled
  obtain ⟨rule, hrule, hcompile⟩ := exists_mem_of_forall₂ h.flip hsource
  obtain ⟨bucket, hbucket, hkey⟩ := hkeyed.exists_mem hrule
  have hfiled : index.keyOf? source = some bucket.key := by
    rw [hkey]
    exact CompiledRule.keyOf?_of_compile hcompile
  refine ⟨bucket, hbucket, hfiled, ?_, ?_⟩
  · rw [Bucket.rules_of_mem_ofRules hbucket, ((sortStable_perm _ _).map _).count_eq]
    exact CompiledRule.count_rule_filter h hfiled
  · intro other hother hrules
    obtain ⟨entry, hentry, rfl⟩ := List.mem_map.mp hrules
    obtain ⟨hmem, hkeyOther⟩ := (Bucket.mem_rules_iff hother).mp hentry
    obtain ⟨origin, -, horigin⟩ := exists_mem_of_forall₂ h hmem
    rw [(CompiledRule.standsFor_of_compile horigin).rule_eq,
      CompiledRule.keyOf?_of_compile horigin, hkeyOther, Option.some.injEq] at hfiled
    exact hkeyed.eq_of_key_eq hbucket hother hfiled

/-- A ruleset is a table of all its rules by their keys, one bucket for each key, with longer
contexts first in a bucket, then definite targets, then earlier definitions. -/
theorem filed_of_compile (h : compile index rules = .ok ruleset) : ruleset.Filed index rules := by
  obtain ⟨compiled, hcompiled, rfl⟩ := exists_compiled_of_compile h
  rw [mapM_eq_ok_iff] at hcompiled
  refine ⟨(Bucket.keyed_ofRules compiled).nodup, fun source => exists_bucket_of_mem hcompiled,
    fun bucket => Bucket.rules_ne_nil, ?_, ?_⟩
  · rw [CompiledRule.map_keyOf? hcompiled, List.dedup_map_of_injective (Option.some_injective _),
      List.length_map, Bucket.length_ofRules]
  · intro bucket hbucket
    obtain ⟨placed, hrules, hordered, hplaced⟩ := Bucket.exists_placed hbucket
    refine ⟨placed, hrules, hordered, ?_⟩
    intro entry hentry
    obtain ⟨source, hposition, hcompile⟩ :=
      exists_getElem?_of_forall₂ hcompiled (hplaced entry hentry)
    have hstands := CompiledRule.standsFor_of_compile hcompile
    rw [hstands.rule_eq]
    exact ⟨hposition, hstands⟩

end Ruleset

/-! Rules about one pair of classes, of which some tie and one is there twice. -/
namespace Ties

def letters : ClassIndex := .ofCollected (ClassIndex.builtIns ++ [⟨"TIED", [.single 65]⟩])

def tied : List Rule :=
  (RuleLine.readAll {} ("R1 TIED TIED → ANY\nR2 ANY TIED → TIED\nR3 TIED TIED → TIED\n" ++
    "R4 TIED TIED TIED → ANY\nR1 TIED TIED → ANY").toList).toOption.getD []

theorem filed_of_ties :
    ∃ ruleset, Ruleset.compile letters tied = .ok ruleset ∧
      ruleset.Filed letters tied ∧
      ruleset.buckets.map (fun bucket => bucket.rules.map (·.rule.name)) =
        [["R4", "R3", "R1", "R1"], ["R2"]] := by
  have hnames : (Ruleset.compile letters tied).map (fun ruleset =>
      ruleset.buckets.map fun bucket => bucket.rules.map (·.rule.name)) =
        .ok [["R4", "R3", "R1", "R1"], ["R2"]] := by
    decide +kernel
  obtain ⟨ruleset, hruleset, hbuckets⟩ := map_eq_ok_iff.mp hnames
  exact ⟨ruleset, hruleset, Ruleset.filed_of_compile hruleset, hbuckets⟩

end Ties
end BoundaryRules
