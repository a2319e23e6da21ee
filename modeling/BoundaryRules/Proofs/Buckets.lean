import BoundaryRules.Ruleset

/-! What the buckets of a ruleset hold. Under each key are the rules with that key and no others,
sorted stably from the order of definition. -/
namespace BoundaryRules

namespace Bucket

/-- The rules that are filed under a key. -/
def under (buckets : List Bucket) (key : BoundaryKey) : List CompiledRule :=
  ((buckets.find? (·.key = key)).map (·.rules)).getD []

@[simp] theorem under_nil (key : BoundaryKey) : under [] key = [] := rfl

theorem under_cons (bucket : Bucket) (buckets : List Bucket) (key : BoundaryKey) :
    under (bucket :: buckets) key =
      if bucket.key = key then bucket.rules else under buckets key := by
  by_cases h : bucket.key = key <;> simp [under, h]

theorem under_file (buckets : List Bucket) (rule : CompiledRule) (key : BoundaryKey) :
    under (file buckets rule) key =
      under buckets key ++ if rule.key = key then [rule] else [] := by
  induction buckets with
  | nil => simp [file, under_cons]
  | cons bucket buckets ih =>
    unfold file
    split
    next h =>
      rw [under_cons, under_cons, h]
      split <;> simp
    next h =>
      rw [under_cons, under_cons, ih]
      split
      next hkey =>
        have hne : rule.key ≠ key := fun heq => h (hkey.trans heq.symm)
        simp [hne]
      next => rfl

theorem under_foldl_file (rules : List CompiledRule) (buckets : List Bucket) (key : BoundaryKey) :
    under (rules.foldl file buckets) key =
      under buckets key ++ rules.filter (fun rule => rule.key = key) := by
  induction rules generalizing buckets with
  | nil => simp
  | cons rule rules ih =>
    rw [List.foldl_cons, ih, under_file, List.append_assoc]
    by_cases h : rule.key = key <;> simp [h]

theorem under_map_sorted (buckets : List Bucket) (key : BoundaryKey) :
    under (buckets.map sorted) key = sortStable CompiledRule.precedes (under buckets key) := by
  induction buckets with
  | nil => rfl
  | cons bucket buckets ih =>
    rw [List.map_cons, under_cons, under_cons, ih]
    by_cases h : bucket.key = key <;> simp [sorted, h]

theorem under_ofRules (rules : List CompiledRule) (key : BoundaryKey) :
    under (ofRules rules) key =
      sortStable CompiledRule.precedes (rules.filter (fun rule => rule.key = key)) := by
  rw [ofRules, under_map_sorted, under_foldl_file, under_nil, List.nil_append]

/-- A bucket holds no rules but those that were in one before and the one that is filed. -/
theorem mem_of_mem_file {buckets : List Bucket} {bucket : Bucket} {rule filed : CompiledRule}
    (hbucket : bucket ∈ file buckets filed) (h : rule ∈ bucket.rules) :
    rule = filed ∨ ∃ former ∈ buckets, rule ∈ former.rules := by
  induction buckets with
  | nil =>
    obtain rfl := List.mem_singleton.mp hbucket
    exact .inl (List.mem_singleton.mp h)
  | cons first buckets ih =>
    unfold file at hbucket
    split at hbucket
    next =>
      rcases List.mem_cons.mp hbucket with rfl | hmem
      · rcases List.mem_append.mp h with hrule | hrule
        · exact .inr ⟨first, List.mem_cons_self, hrule⟩
        · exact .inl (List.mem_singleton.mp hrule)
      · exact .inr ⟨bucket, List.mem_cons_of_mem _ hmem, h⟩
    next =>
      rcases List.mem_cons.mp hbucket with rfl | hmem
      · exact .inr ⟨bucket, List.mem_cons_self, h⟩
      · exact (ih hmem).imp_right fun ⟨former, hformer, hrule⟩ =>
          ⟨former, List.mem_cons_of_mem _ hformer, hrule⟩

theorem mem_of_mem_foldl_file {buckets : List Bucket} {bucket : Bucket} {rules : List CompiledRule}
    {rule : CompiledRule} (hbucket : bucket ∈ rules.foldl file buckets) (h : rule ∈ bucket.rules) :
    rule ∈ rules ∨ ∃ former ∈ buckets, rule ∈ former.rules := by
  induction rules generalizing buckets with
  | nil => exact .inr ⟨bucket, hbucket, h⟩
  | cons filed rules ih =>
    rcases ih hbucket with hmem | ⟨former, hformer, hrule⟩
    · exact .inl (List.mem_cons_of_mem _ hmem)
    · refine (mem_of_mem_file hformer hrule).imp_left fun heq => ?_
      exact heq ▸ List.mem_cons_self

theorem mem_of_mem_ofRules {bucket : Bucket} {rules : List CompiledRule} {rule : CompiledRule}
    (hbucket : bucket ∈ ofRules rules) (h : rule ∈ bucket.rules) : rule ∈ rules := by
  obtain ⟨unsorted, hunsorted, rfl⟩ := List.mem_map.mp hbucket
  have hrule := (sortStable_perm _ _).mem_iff.mp h
  refine (mem_of_mem_foldl_file hunsorted hrule).resolve_right ?_
  rintro ⟨former, hformer, -⟩
  exact List.not_mem_nil hformer

end Bucket

namespace CompiledRule

theorem precedes_iff {a b : CompiledRule} :
    a.precedes b = true ↔
      b.length < a.length ∨ a.length = b.length ∧ (a.target ≠ .any ∨ b.target = .any) := by
  simp [precedes]

theorem precedes_total (a b : CompiledRule) : (a.precedes b || b.precedes a) = true := by
  rw [Bool.or_eq_true, precedes_iff, precedes_iff]
  rcases Nat.lt_trichotomy a.length b.length with h | h | h
  · exact .inr (.inl h)
  · by_cases ha : a.target = .any
    · exact .inr (.inr ⟨h.symm, .inr ha⟩)
    · exact .inl (.inr ⟨h, .inl ha⟩)
  · exact .inl (.inl h)

theorem precedes_trans (a b c : CompiledRule) (hab : a.precedes b = true)
    (hbc : b.precedes c = true) : a.precedes c = true := by
  rw [precedes_iff] at *
  rcases hab with hab | ⟨hab, hta⟩ <;> rcases hbc with hbc | ⟨hbc, htb⟩
  · exact .inl (by omega)
  · exact .inl (by omega)
  · exact .inl (by omega)
  · refine .inr ⟨hab.trans hbc, ?_⟩
    rcases hta with hta | hta
    · exact .inl hta
    · exact htb.elim (fun h => absurd hta h) .inr

end CompiledRule

namespace Ruleset

variable {classes : ClassIndex} {rules : List Rule} {ruleset : Ruleset}

theorem exists_compiled_of_compile (h : compile classes rules = .ok ruleset) :
    ∃ compiled, rules.mapM (CompiledRule.compile classes) = .ok compiled ∧
      ruleset = ⟨classes, rules, Bucket.ofRules compiled⟩ := by
  unfold compile at h
  cases hcompiled : rules.mapM (CompiledRule.compile classes) with
  | error unknown => rw [hcompiled] at h; contradiction
  | ok compiled =>
    rw [hcompiled] at h
    exact ⟨compiled, rfl, (Except.ok.inj h).symm⟩

theorem classes_of_compile (h : compile classes rules = .ok ruleset) :
    ruleset.classes = classes := by
  obtain ⟨_, _, rfl⟩ := exists_compiled_of_compile h
  rfl

section Compiled

variable {compiled : List CompiledRule} {key : BoundaryKey} {rule : CompiledRule}
  (hcompiled : rules.mapM (CompiledRule.compile classes) = .ok compiled)
  (hruleset : compile classes rules = .ok ruleset)
include hcompiled hruleset

/-- What is filed under a key, given the rules in the order of definition. -/
theorem bucket_eq (key : BoundaryKey) :
    ruleset.bucket key =
      sortStable CompiledRule.precedes (compiled.filter (fun rule => rule.key = key)) := by
  obtain ⟨_, hothers, rfl⟩ := exists_compiled_of_compile hruleset
  obtain rfl := Except.ok.inj (hcompiled.symm.trans hothers)
  exact Bucket.under_ofRules compiled key

theorem mem_bucket_iff : rule ∈ ruleset.bucket key ↔ rule ∈ compiled ∧ rule.key = key := by
  rw [bucket_eq hcompiled hruleset, (sortStable_perm _ _).mem_iff, List.mem_filter,
    decide_eq_true_eq]

theorem length_bucket :
    (ruleset.bucket key).length = compiled.countP (fun rule => rule.key = key) := by
  rw [bucket_eq hcompiled hruleset, (sortStable_perm _ _).length_eq, List.countP_eq_length_filter]

end Compiled

end Ruleset
end BoundaryRules
