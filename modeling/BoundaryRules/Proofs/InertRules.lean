import BoundaryRules.Proofs.Requests

/-! Rules that make no difference. Those for the end of the text do nothing, and those for any two
classes do nothing but what is done without a rule, if all of them cut. -/
namespace BoundaryRules

namespace Rule

/-- The rule asks for the end of the text right after the boundary. -/
def isForEnd (index : ClassIndex) (rule : Rule) : Bool :=
  index.id? rule.firstOfRight = some .stop

/-- The rule takes any classes next to the boundary. -/
def isCatchAll (index : ClassIndex) (rule : Rule) : Bool :=
  index.id? rule.lastOfLeft = some .any && index.id? rule.firstOfRight = some .any

end Rule

section LeavingOut

variable {classes : List CharClass} {index : ClassIndex} {rules : List Rule}
  {ruleset kept : Ruleset} {behind ahead : List Char} {state next : ClassId}
  {keep : BoundaryKey → Bool} {key : BoundaryKey} {rule : CompiledRule} {place : Place}
  {found : List Segment} {c : Char}

namespace Ruleset

/-- Some of the rules of a ruleset: all those under certain keys, and no others. -/
structure Keeps (keep : BoundaryKey → Bool) (kept ruleset : Ruleset) : Prop where
  classes_eq : kept.classes = ruleset.classes
  bucket_eq : ∀ key, kept.bucket key = if keep key then ruleset.bucket key else []

/-- Without the rules under other keys a ruleset compiles too. -/
theorem exists_keeps (hruleset : compile index rules = .ok ruleset) {p : Rule → Bool}
    (hkeep : ∀ source rule, CompiledRule.compile index source = .ok rule →
      p source = keep rule.key) :
    ∃ kept, compile index (rules.filter p) = .ok kept ∧ Keeps keep kept ruleset := by
  obtain ⟨compiled, hcompiled, -⟩ := exists_compiled_of_compile hruleset
  have hfiltered : (rules.filter p).mapM (CompiledRule.compile index) =
      .ok (compiled.filter fun rule => keep rule.key) :=
    mapM_filter_eq_ok hcompiled hkeep
  have hkept : compile index (rules.filter p) =
      .ok ⟨index, rules.filter p, Bucket.ofRules (compiled.filter fun rule => keep rule.key)⟩ := by
    rw [compile, hfiltered]
    rfl
  refine ⟨_, hkept, (classes_of_compile hruleset).symm, ?_⟩
  intro key
  rw [bucket_eq hfiltered hkept, bucket_eq hcompiled hruleset, List.filter_filter]
  split
  next hkey =>
    congr 2
    funext rule
    by_cases heq : rule.key = key <;> simp [heq, hkey]
  next hkey =>
    have hnone : (compiled.filter fun rule => decide (rule.key = key) && keep rule.key) = [] := by
      rw [List.filter_eq_nil_iff]
      intro rule _ hrule
      simp only [Bool.and_eq_true, decide_eq_true_eq] at hrule
      exact hkey (hrule.1 ▸ hrule.2)
    rw [hnone, sortStable_nil]

theorem Keeps.selectFrom_eq (h : Keeps keep kept ruleset) (key : BoundaryKey) :
    kept.selectFrom behind ahead key =
      if keep key then ruleset.selectFrom behind ahead key else none := by
  have hverify : kept.verify behind ahead = ruleset.verify behind ahead := by
    funext rule
    simp only [verify, matchesBehind, matchesAhead, h.classes_eq]
  simp only [selectFrom, h.bucket_eq, hverify]
  cases keep key <;> rfl

/-- Only rules for the end of the text, and for any two classes, are left out. -/
def SparesOthers (keep : BoundaryKey → Bool) : Prop :=
  ∀ key : BoundaryKey, key.after ≠ .stop → key ≠ ⟨.any, .any⟩ → keep key = true

/-- The keys looked under before that for any two classes. -/
def definiteTiers (state next : ClassId) : List BoundaryKey :=
  [⟨state, next⟩, ⟨state, .any⟩, ⟨.any, next⟩]

theorem tiers_eq (state next : ClassId) :
    tiers state next = definiteTiers state next ++ [⟨.any, .any⟩] := rfl

theorem Keeps.findSome?_definiteTiers (h : Keeps keep kept ruleset) (hspares : SparesOthers keep)
    (hstate : state ≠ .any) (hstop : next ≠ .stop) (hany : next ≠ .any) :
    (definiteTiers state next).findSome? (kept.selectFrom behind ahead) =
      (definiteTiers state next).findSome? (ruleset.selectFrom behind ahead) := by
  have hsame : ∀ key : BoundaryKey, key.after ≠ .stop → key ≠ ⟨.any, .any⟩ →
      kept.selectFrom behind ahead key = ruleset.selectFrom behind ahead key := by
    intro key hafter hne
    rw [h.selectFrom_eq, if_pos (hspares key hafter hne)]
  have hwildcard : ClassId.any ≠ .stop := by decide
  simp only [definiteTiers, List.findSome?_cons, List.findSome?_nil]
  rw [hsame ⟨state, next⟩ hstop (by simp [hstate]),
    hsame ⟨state, .any⟩ hwildcard (by simp [hstate]), hsame ⟨.any, next⟩ hstop (by simp [hany])]

/-- In front of a character the same rule is selected, but for one that takes any two classes. -/
theorem Keeps.select_eq_or (h : Keeps keep kept ruleset) (hspares : SparesOthers keep)
    (hstate : state ≠ .any) (hstop : ruleset.classes.classOf c ≠ .stop)
    (hany : ruleset.classes.classOf c ≠ .any) :
    kept.select behind (c :: ahead) state = ruleset.select behind (c :: ahead) state ∨
      keep ⟨.any, .any⟩ = false ∧ kept.select behind (c :: ahead) state = none ∧
        ruleset.select behind (c :: ahead) state =
          ruleset.selectFrom behind (c :: ahead) ⟨.any, .any⟩ := by
  rw [select, select, nextClass, nextClass, h.classes_eq, tiers_eq, List.findSome?_append,
    List.findSome?_append, h.findSome?_definiteTiers hspares hstate hstop hany]
  cases (definiteTiers state (ruleset.classes.classOf c)).findSome?
      (ruleset.selectFrom behind (c :: ahead)) with
  | some rule => exact .inl rfl
  | none =>
    simp only [Option.none_or, List.findSome?_singleton, h.selectFrom_eq]
    cases keep ⟨.any, .any⟩ <;> simp

/-- A rule for any two classes that cuts does what is done without a rule. -/
theorem Keeps.step_eq (h : Keeps keep kept ruleset) (hspares : SparesOthers keep)
    (hcut : keep ⟨.any, .any⟩ = false →
      ∀ rule ∈ ruleset.bucket ⟨.any, .any⟩, rule.action = .cut)
    (hclass : ∀ c, ruleset.classes.classOf c ≠ .stop ∧ ruleset.classes.classOf c ≠ .any)
    (hstate : place.state ≠ .any) :
    place.step kept c ahead = place.step ruleset c ahead := by
  unfold Place.step
  rw [h.classes_eq]
  rcases h.select_eq_or hspares hstate (hclass c).1 (hclass c).2 with hsame | ⟨hleft, hnone, hlast⟩
  · rw [hsame]
  · rw [hnone, hlast]
    cases hselected : ruleset.selectFrom place.behind (c :: ahead) ⟨.any, .any⟩ with
    | none => rfl
    | some rule =>
      have haction := hcut hleft rule (mem_bucket_of_selectFrom hselected)
      simp [haction]

end Ruleset

/-- Scans that pass each character alike find the same segments. -/
theorem Scan.collect_congr {text : List Char} (hclass : ∀ c, ruleset.classes.classOf c ≠ .any)
    (hstep : ∀ (place : Place) c ahead, place.state ≠ .any →
      place.step kept c ahead = place.step ruleset c ahead)
    (h : place.Within text ahead) :
    collect kept found place ahead = collect ruleset found place ahead := by
  induction ahead generalizing place found with
  | nil => rfl
  | cons c ahead ih =>
    by_cases hstop : place.state = .stop
    · rw [collect_of_stop hstop, collect_of_stop hstop]
    · rw [collect_cons hstop, collect_cons hstop, hstep place c ahead h.state_ne]
      exact ih (h.step hclass)

namespace Ruleset

theorem isForEnd_eq {source : Rule} (h : CompiledRule.compile index source = .ok rule) :
    source.isForEnd index = decide (rule.key.after = .stop) := by
  rw [Rule.isForEnd, (CompiledRule.key_of_compile h).2]
  simp

theorem isCatchAll_eq {source : Rule} (h : CompiledRule.compile index source = .ok rule) :
    source.isCatchAll index = decide (rule.key = ⟨.any, .any⟩) := by
  obtain ⟨hbefore, hafter⟩ := CompiledRule.key_of_compile h
  rw [Rule.isCatchAll, hbefore, hafter, Bool.eq_iff_iff]
  obtain ⟨before, after⟩ := rule.key
  simp

/-- If all rules that take any two classes cut, those that are filed under them do. -/
theorem cut_of_mem_bucket (hruleset : compile index rules = .ok ruleset)
    (hcut : ∀ rule ∈ rules, rule.isCatchAll index = true → rule.action = .cut)
    (h : rule ∈ ruleset.bucket ⟨.any, .any⟩) : rule.action = .cut := by
  obtain ⟨source, hsource, hcompile⟩ := exists_source_of_mem_bucket hruleset h
  have hcatchAll : source.isCatchAll index = true := by
    rw [isCatchAll_eq hcompile, key_of_mem_bucket hruleset h]
    rfl
  have haction := hcut source hsource hcatchAll
  rwa [← (CompiledRule.standsFor_of_compile hcompile).rule_eq] at haction

/-- Texts have the same segments without the rules that are left out. -/
theorem exists_segments_eq (keep : BoundaryKey → Bool) {p : Rule → Bool}
    (hindex : ClassIndex.build classes = .ok index)
    (hruleset : compile index rules = .ok ruleset)
    (hkeep : ∀ source rule, CompiledRule.compile index source = .ok rule →
      p source = keep rule.key)
    (hspares : SparesOthers keep)
    (hcut : keep ⟨.any, .any⟩ = false → ∀ rule ∈ rules, rule.isCatchAll index = true →
      rule.action = .cut) :
    ∃ kept, compile index (rules.filter p) = .ok kept ∧
      ∀ text, kept.segments text = ruleset.segments text := by
  obtain ⟨kept, hkept, hkeeps⟩ := exists_keeps hruleset hkeep
  have hclass := classOf_ne_of_compile hindex hruleset
  have hbucket : keep ⟨.any, .any⟩ = false →
      ∀ rule ∈ ruleset.bucket ⟨.any, .any⟩, rule.action = .cut := fun hleft _ hmem =>
    cut_of_mem_bucket hruleset (hcut hleft) hmem
  refine ⟨kept, hkept, fun text => ?_⟩
  have hstep : ∀ (place : Place) c ahead, place.state ≠ .any →
      place.step kept c ahead = place.step ruleset c ahead := fun _ _ _ =>
    hkeeps.step_eq hspares hbucket fun c => (hclass c).2
  have hcollect : Scan.collect kept [] {} text = Scan.collect ruleset [] {} text :=
    Scan.collect_congr (fun c => (hclass c).2.2) hstep (Place.within_start text)
  exact congrArg Prod.fst hcollect

/-- Rules for the end of the text may be left out, and if all that take any two classes cut then
those may be left out as well: the other rules compile, and give every text the same segments. -/
theorem segments_without_inert (hindex : ClassIndex.build classes = .ok index)
    (hruleset : compile index rules = .ok ruleset) :
    (∃ kept, compile index (rules.filter fun rule => !rule.isForEnd index) = .ok kept ∧
      ∀ text, kept.segments text = ruleset.segments text) ∧
    ((∀ rule ∈ rules, rule.isCatchAll index = true → rule.action = .cut) →
      ∃ kept, compile index
          (rules.filter fun rule => !rule.isForEnd index && !rule.isCatchAll index) = .ok kept ∧
        ∀ text, kept.segments text = ruleset.segments text) := by
  constructor
  · refine exists_segments_eq (fun key => !decide (key.after = .stop)) hindex hruleset ?_ ?_ ?_
    · intro source rule hcompile
      rw [isForEnd_eq hcompile]
    · intro key hafter _
      simp [hafter]
    · intro hleft
      exact absurd hleft (by decide)
  · intro hcut
    refine exists_segments_eq
      (fun key => !decide (key.after = .stop) && !decide (key = ⟨.any, .any⟩)) hindex hruleset
      ?_ ?_ fun _ => hcut
    · intro source rule hcompile
      rw [isForEnd_eq hcompile, isCatchAll_eq hcompile]
    · intro key hafter hne
      simp [hafter, hne]

end Ruleset

end LeavingOut

/-! A grammar of letters with rules that are never needed. -/
namespace Idle

def classes : List CharClass := [⟨"CYRILLIC", [⟨1072, 1103, by decide⟩]⟩]

def join : Rule :=
  ⟨"R1", ["CYRILLIC"], ["CYRILLIC"], "CYRILLIC", .join, by decide, by decide, by decide, by decide⟩

def rules : List Rule :=
  [⟨"R0", ["CYRILLIC"], ["EOT"], "CYRILLIC", .absorb, by decide, by decide, by decide, by decide⟩,
    join,
    ⟨"R2", ["CYRILLIC", "ANY"], ["ANY", "CYRILLIC"], "ANY", .cut, by decide, by decide, by decide,
      by decide⟩,
    ⟨"R3", ["ANY", "ANY"], ["ANY", "ANY"], "ANY", .cut, by decide, by decide, by decide,
      by decide⟩]

/-- One rule is enough. -/
theorem segments_of_join :
    ∃ index ruleset kept, ClassIndex.build classes = .ok index ∧
      Ruleset.compile index rules = .ok ruleset ∧
      (∀ rule ∈ rules, rule.isCatchAll index = true → rule.action = .cut) ∧
      Ruleset.compile index [join] = .ok kept ∧
      ∀ text, kept.segments text = ruleset.segments text := by
  have hindex : ClassIndex.build classes = .ok (.ofCollected (ClassIndex.builtIns ++ classes)) := by
    decide +kernel
  have hcut : ∀ rule ∈ rules, rule.isCatchAll (.ofCollected (ClassIndex.builtIns ++ classes)) =
      true → rule.action = .cut := by
    decide +kernel
  have hkept : (rules.filter fun rule =>
      !rule.isForEnd (.ofCollected (ClassIndex.builtIns ++ classes)) &&
        !rule.isCatchAll (.ofCollected (ClassIndex.builtIns ++ classes))) = [join] := by
    decide +kernel
  have hsegments : (Ruleset.compile (.ofCollected (ClassIndex.builtIns ++ classes)) rules).map
      (·.segments ['д', 'а', '1']) = .ok [⟨0, "да"⟩, ⟨4, "1"⟩] := by
    decide +kernel
  obtain ⟨ruleset, hruleset, -⟩ := map_eq_ok_iff.mp hsegments
  obtain ⟨kept, hcompile, hsame⟩ := (Ruleset.segments_without_inert hindex hruleset).2 hcut
  exact ⟨_, ruleset, kept, hindex, hruleset, hcut, hkept ▸ hcompile, hsame⟩

end Idle
end BoundaryRules
