import BoundaryRules.Proofs.Buckets
import BoundaryRules.Proofs.ClassIds
import BoundaryRules.Proofs.Traversal
import BoundaryRules.Selection

/-! What compiled rules come from. A rule that is selected is one of the rules of its ruleset, with
the classes that its names stand for. -/
namespace BoundaryRules

variable {index : ClassIndex} {source : Rule} {rule : CompiledRule}

theorem CompiledRule.id?_of_resolve {name : String} {id : ClassId}
    (h : compile.resolve index source name = .ok id) : index.id? name = some id := by
  unfold compile.resolve at h
  split at h
  next hid => rw [hid, Except.ok.inj h]
  next => contradiction

/-- The classes of a compiled rule are those that the names of its source stand for, position by
position. -/
structure CompiledRule.StandsFor (rule : CompiledRule) (index : ClassIndex) (source : Rule) :
    Prop where
  rule_eq : rule.rule = source
  left : List.Forall₂ (fun name id => index.id? name = some id) source.left rule.left
  right : List.Forall₂ (fun name id => index.id? name = some id) source.right rule.right
  target : index.id? source.target = some rule.target

theorem CompiledRule.standsFor_of_compile (h : compile index source = .ok rule) :
    rule.StandsFor index source := by
  simp only [compile, bind_eq_ok_iff, mapM_eq_ok_iff] at h
  obtain ⟨left, hleft, right, hright, target, htarget, hrule⟩ := h
  obtain rfl := Except.ok.inj hrule
  exact ⟨rfl, hleft.imp fun _ _ => id?_of_resolve, hright.imp fun _ _ => id?_of_resolve,
    id?_of_resolve htarget⟩

/-- All classes of a compiled rule are those that names in the index stand for. -/
theorem CompiledRule.exists_name_of_compile (h : compile index source = .ok rule) {id : ClassId}
    (hid : id ∈ rule.left ++ rule.right ++ [rule.target]) : ∃ name, index.id? name = some id := by
  obtain ⟨-, hleft, hright, htarget⟩ := standsFor_of_compile h
  rw [List.mem_append, List.mem_append, List.mem_singleton] at hid
  rcases hid with (hmem | hmem) | rfl
  · obtain ⟨name, -, hname⟩ := exists_mem_of_forall₂ hleft hmem
    exact ⟨name, hname⟩
  · obtain ⟨name, -, hname⟩ := exists_mem_of_forall₂ hright hmem
    exact ⟨name, hname⟩
  · exact ⟨source.target, htarget⟩

/-- Contexts keep their lengths. -/
theorem CompiledRule.length_of_compile (h : compile index source = .ok rule) :
    rule.left.length = source.left.length ∧ rule.right.length = source.right.length := by
  obtain ⟨-, hleft, hright, -⟩ := standsFor_of_compile h
  exact ⟨hleft.length_eq.symm, hright.length_eq.symm⟩

private theorem getLastD_of_forall₂ {α β : Type} {R : α → β → Prop} {as : List α} {bs : List β}
    (h : List.Forall₂ R as bs) (hne : as ≠ []) (b : β) : R (as.getLast hne) (bs.getLastD b) := by
  induction h generalizing b with
  | nil => contradiction
  | @cons a b' as bs hab hmore ih =>
    cases hmore with
    | nil => exact hab
    | cons => exact ih (List.cons_ne_nil _ _) b'

/-- A rule is filed under the classes that its names next to the boundary stand for. -/
theorem CompiledRule.key_of_compile (h : compile index source = .ok rule) :
    index.id? source.lastOfLeft = some rule.key.before ∧
      index.id? source.firstOfRight = some rule.key.after := by
  obtain ⟨-, hleft, hright, -⟩ := standsFor_of_compile h
  constructor
  · exact getLastD_of_forall₂ hleft source.left_ne_nil .any
  · obtain ⟨name, names, hnames⟩ := List.exists_cons_of_ne_nil source.right_ne_nil
    obtain ⟨id, ids, hid, -, hids⟩ := List.forall₂_cons_left_iff.mp (hnames ▸ hright)
    simpa [Rule.firstOfRight, hnames, key, hids] using hid

namespace Ruleset

variable {rules : List Rule} {ruleset : Ruleset} {behind ahead : List Char} {state : ClassId}

/-- No character is in one of the classes that only the edges of a text and wildcards have. -/
theorem classOf_ne_of_compile {classes : List CharClass}
    (hindex : ClassIndex.build classes = .ok index)
    (hruleset : compile index rules = .ok ruleset) (c : Char) :
    ruleset.classes.classOf c ≠ .start ∧ ruleset.classes.classOf c ≠ .stop ∧
      ruleset.classes.classOf c ≠ .any := by
  rw [classes_of_compile hruleset]
  exact ClassIndex.classOf_ne_of_build hindex c

theorem mem_bucket_of_selectFrom {key : BoundaryKey}
    (h : ruleset.selectFrom behind ahead key = some rule) : rule ∈ ruleset.bucket key := by
  unfold selectFrom at h
  split at h
  next => contradiction
  next only hbucket =>
    obtain rfl := Option.some.inj h
    rw [hbucket]
    exact List.mem_singleton_self only
  next => exact List.mem_of_find?_eq_some h

theorem selectFrom_of_nil {key : BoundaryKey} (h : ruleset.bucket key = []) :
    ruleset.selectFrom behind ahead key = none := by
  rw [selectFrom, h]

theorem selectFrom_of_singleton {key : BoundaryKey} (h : ruleset.bucket key = [rule]) :
    ruleset.selectFrom behind ahead key = some rule := by
  rw [selectFrom, h]

theorem selectFrom_of_length_ne_one {key : BoundaryKey} (h : (ruleset.bucket key).length ≠ 1) :
    ruleset.selectFrom behind ahead key =
      (ruleset.bucket key).find? (ruleset.verify behind ahead) := by
  unfold selectFrom
  split
  next hbucket => rw [hbucket, List.find?_nil]
  next only hbucket => exact absurd (congrArg List.length hbucket) h
  next => rfl

/-- The rule that a rule in a bucket was compiled from. -/
theorem exists_source_of_mem_bucket {key : BoundaryKey}
    (hruleset : compile index rules = .ok ruleset) (h : rule ∈ ruleset.bucket key) :
    ∃ source ∈ rules, CompiledRule.compile index source = .ok rule := by
  obtain ⟨compiled, hcompiled, -⟩ := exists_compiled_of_compile hruleset
  have hmem := ((mem_bucket_iff hcompiled hruleset).mp h).1
  obtain ⟨source, hsource, hcompile⟩ := exists_mem_of_forall₂ (mapM_eq_ok_iff.mp hcompiled) hmem
  exact ⟨source, hsource, hcompile⟩

/-- The rule that a rule in any of the buckets was compiled from. -/
theorem exists_source_of_mem_buckets {bucket : Bucket}
    (hruleset : compile index rules = .ok ruleset) (hbucket : bucket ∈ ruleset.buckets)
    (h : rule ∈ bucket.rules) :
    ∃ source ∈ rules, CompiledRule.compile index source = .ok rule := by
  obtain ⟨compiled, hcompiled, rfl⟩ := exists_compiled_of_compile hruleset
  have hmem := Bucket.mem_of_mem_ofRules hbucket h
  obtain ⟨source, hsource, hcompile⟩ := exists_mem_of_forall₂ (mapM_eq_ok_iff.mp hcompiled) hmem
  exact ⟨source, hsource, hcompile⟩

theorem key_of_mem_bucket {key : BoundaryKey} (hruleset : compile index rules = .ok ruleset)
    (h : rule ∈ ruleset.bucket key) : rule.key = key := by
  obtain ⟨compiled, hcompiled, -⟩ := exists_compiled_of_compile hruleset
  exact ((mem_bucket_iff hcompiled hruleset).mp h).2

/-- The rule that a selected rule was compiled from. -/
theorem exists_rule_of_select (hruleset : compile index rules = .ok ruleset)
    (h : ruleset.select behind ahead state = some rule) :
    rule.rule ∈ rules ∧ index.id? rule.rule.target = some rule.target := by
  obtain ⟨key, -, hkey⟩ := List.exists_of_findSome?_eq_some h
  obtain ⟨source, hsource, hcompile⟩ :=
    exists_source_of_mem_bucket hruleset (mem_bucket_of_selectFrom hkey)
  obtain ⟨rfl, -, -, htarget⟩ := CompiledRule.standsFor_of_compile hcompile
  exact ⟨hsource, htarget⟩

end Ruleset
end BoundaryRules
