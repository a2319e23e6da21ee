import BoundaryRules.Proofs.Leniency

/-! Rules over an index that may lack some of their classes. They compile just if it lacks none;
otherwise the first unknown name of the first rule that has one is reported. -/
namespace BoundaryRules

variable {index : ClassIndex} {rule source : Rule} {rules : List Rule} {ruleset : Ruleset}
  {unknown : UnknownClass} {name : String}

namespace ClassIndex

/-- Whether some class has this name, as it is spelled or normalized. -/
def HasName (index : ClassIndex) (name : String) : Prop :=
  ∃ cls ∈ index.classes, cls.name = name ∨ cls.name = normalizeName name

instance (index : ClassIndex) (name : String) : Decidable (index.HasName name) :=
  inferInstanceAs (Decidable (∃ cls ∈ index.classes, _ ∨ _))

theorem exactId?_isSome_iff :
    (index.exactId? name).isSome ↔ ∃ cls ∈ index.classes, cls.name = name := by
  simp [exactId?_eq]

theorem id?_isSome_iff : (index.id? name).isSome ↔ index.HasName name := by
  rw [id?, Option.orElse_eq_orElse, Option.orElse_eq_or, Option.isSome_or, Bool.or_eq_true,
    exactId?_isSome_iff, exactId?_isSome_iff, HasName]
  constructor
  · rintro (⟨cls, hcls, hname⟩ | ⟨cls, hcls, hname⟩)
    · exact ⟨cls, hcls, .inl hname⟩
    · exact ⟨cls, hcls, .inr hname⟩
  · rintro ⟨cls, hcls, hname | hname⟩
    · exact .inl ⟨cls, hcls, hname⟩
    · exact .inr ⟨cls, hcls, hname⟩

theorem knows_iff : index.Knows rule ↔ ∀ name ∈ rule.classNames, index.HasName name := by
  simp only [Knows, id?_isSome_iff]

/-- The class that is reported: the first of all names, in the order of the rules and within a rule
left context first and target last, that the index does not have. -/
structure FirstUnknown (index : ClassIndex) (rules : List Rule) (unknown : UnknownClass) :
    Prop where
  exists_split : ∃ front rule rest known more, rules = front ++ rule :: rest ∧
    rule.left ++ rule.right ++ [rule.target] = known ++ unknown.cls :: more ∧
    unknown.rule = rule.name ∧ (∀ former ∈ front, ∀ name ∈ former.classNames, index.HasName name) ∧
    ∀ name ∈ known, index.HasName name
  not_hasName : ¬ index.HasName unknown.cls

end ClassIndex

namespace CompiledRule

theorem resolve_eq_error_iff : compile.resolve index rule name = .error unknown ↔
    ¬ index.HasName name ∧ unknown = ⟨rule.name, name⟩ := by
  rw [compile.resolve, ← ClassIndex.id?_isSome_iff]
  cases index.id? name with
  | none => simp [eq_comm]
  | some id => simp

/-- Resolving both contexts and the target is resolving all names of the rule. -/
theorem compile_eq_error_iff_mapM : compile index rule = .error unknown ↔
    rule.classNames.mapM (compile.resolve index rule) = .error unknown := by
  rw [compile, Rule.classNames, List.mapM_append, List.mapM_append, List.mapM_cons]
  cases rule.left.mapM (compile.resolve index rule) with
  | error fault => simp only [error_bind, Except.error.injEq]
  | ok left =>
    cases rule.right.mapM (compile.resolve index rule) with
    | error fault => simp only [ok_bind, error_bind, Except.error.injEq]
    | ok right =>
      cases compile.resolve index rule rule.target with
      | error fault => simp only [ok_bind, pure_bind, error_bind, Except.error.injEq]
      | ok target => constructor <;> (intro h; cases h)

theorem compile_eq_error_iff : compile index rule = .error unknown ↔
    ∃ known more, rule.classNames = known ++ unknown.cls :: more ∧ unknown.rule = rule.name ∧
      (∀ name ∈ known, index.HasName name) ∧ ¬ index.HasName unknown.cls := by
  rw [compile_eq_error_iff_mapM, mapM_eq_error_iff]
  simp only [exists_resolve_eq_ok_iff, ClassIndex.id?_isSome_iff, resolve_eq_error_iff]
  constructor
  · rintro ⟨known, name, more, hnames, hknown, hname, rfl⟩
    exact ⟨known, more, hnames, rfl, hknown, hname⟩
  · rintro ⟨known, more, hnames, hrule, hknown, hname⟩
    exact ⟨known, unknown.cls, more, hnames, hknown, hname, by rw [← hrule]⟩

/-- A rule that a lenient load drops is dropped for the name for which it does not compile. -/
theorem compile_eq_error_iff_unknownIn? :
    compile index rule = .error ⟨rule.name, name⟩ ↔ index.unknownIn? rule = some name := by
  rw [compile_eq_error_iff, ClassIndex.unknownIn?, List.find?_eq_some_iff_append]
  simp only [← ClassIndex.id?_isSome_iff, true_and]
  constructor
  · rintro ⟨known, more, hnames, hknown, hname⟩
    exact ⟨by simpa using hname, known, more, hnames, by simpa using hknown⟩
  · rintro ⟨hname, known, more, hnames, hknown⟩
    exact ⟨known, more, hnames, by simpa using hknown, by simpa using hname⟩

end CompiledRule

namespace Ruleset

theorem compile_eq_error_iff :
    compile index rules = .error unknown ↔ index.FirstUnknown rules unknown := by
  rw [compile, map_eq_error_iff, mapM_eq_error_iff]
  simp only [CompiledRule.exists_compile_eq_ok_iff, ClassIndex.knows_iff,
    CompiledRule.compile_eq_error_iff]
  constructor
  · rintro ⟨front, rule, rest, hrules, hfront, known, more, hnames, hrule, hknown, hunknown⟩
    exact ⟨⟨front, rule, rest, known, more, hrules, hnames, hrule, hfront, hknown⟩, hunknown⟩
  · rintro ⟨⟨front, rule, rest, known, more, hrules, hnames, hrule, hfront, hknown⟩, hunknown⟩
    exact ⟨front, rule, rest, hrules, hfront, known, more, hnames, hrule, hknown, hunknown⟩

/-- The ruleset of rules over an index has them in order; each of them has an entry in a bucket, and
entries have the classes that the names of their rules stand for. -/
structure Compiles (index : ClassIndex) (rules : List Rule) (ruleset : Ruleset) : Prop where
  classes_eq : ruleset.classes = index
  rules_eq : ruleset.rules = rules
  standsFor : ∀ bucket ∈ ruleset.buckets, ∀ rule ∈ bucket.rules, ∃ source ∈ rules,
    rule.StandsFor index source
  exists_entry : ∀ source ∈ rules, ∃ bucket ∈ ruleset.buckets, ∃ rule ∈ bucket.rules,
    rule.rule = source

theorem exists_mem_buckets_of_mem_bucket {key : BoundaryKey} {rule : CompiledRule}
    (h : rule ∈ ruleset.bucket key) : ∃ bucket ∈ ruleset.buckets, rule ∈ bucket.rules := by
  rw [bucket] at h
  cases hfound : ruleset.buckets.find? (·.key = key) with
  | none =>
    rw [hfound] at h
    exact absurd h List.not_mem_nil
  | some found =>
    rw [hfound] at h
    exact ⟨found, List.mem_of_find?_eq_some hfound, h⟩

theorem compiles_of_compile (h : compile index rules = .ok ruleset) :
    Compiles index rules ruleset where
  classes_eq := classes_of_compile h
  rules_eq := by
    obtain ⟨compiled, -, rfl⟩ := exists_compiled_of_compile h
    rfl
  standsFor bucket hbucket rule hrule := by
    obtain ⟨source, hsource, hcompile⟩ := exists_source_of_mem_buckets h hbucket hrule
    exact ⟨source, hsource, CompiledRule.standsFor_of_compile hcompile⟩
  exists_entry source hsource := by
    obtain ⟨compiled, hcompiled, -⟩ := exists_compiled_of_compile h
    obtain ⟨rule, hrule, hcompile⟩ :=
      exists_mem_of_forall₂ (mapM_eq_ok_iff.mp hcompiled).flip hsource
    have hmem : rule ∈ ruleset.bucket rule.key := (mem_bucket_iff hcompiled h).mpr ⟨hrule, rfl⟩
    obtain ⟨bucket, hbucket, hentry⟩ := exists_mem_buckets_of_mem_bucket hmem
    exact ⟨bucket, hbucket, rule, hentry, (CompiledRule.standsFor_of_compile hcompile).rule_eq⟩

/-- Rules compile just if the index has all names in them, and then as their names stand. Otherwise
the first name that it does not have is reported, with the first rule that has it. -/
theorem exists_compile_or_firstUnknown (index : ClassIndex) (rules : List Rule) :
    ((∃ ruleset, compile index rules = .ok ruleset) ↔
      ∀ rule ∈ rules, ∀ name ∈ rule.classNames, index.HasName name) ∧
    (∀ unknown, compile index rules = .error unknown ↔ index.FirstUnknown rules unknown) ∧
    ∀ ruleset, compile index rules = .ok ruleset → Compiles index rules ruleset := by
  refine ⟨?_, fun unknown => compile_eq_error_iff, fun ruleset => compiles_of_compile⟩
  rw [exists_compile_eq_ok_iff]
  simp only [ClassIndex.knows_iff]

end Ruleset

/-! Rules about accented letters over an index that knows only the letters. -/
namespace Accents

def letters : ClassIndex :=
  .ofCollected (ClassIndex.builtIns ++ [⟨"LETTERS", [⟨65, 90, Nat.le_add_right 65 25⟩]⟩])

def plain : Rule :=
  ⟨"R1", ["LETTERS"], ["Letters", "ANY"], "LETTERS", .join, by decide, by decide, by decide,
    by decide⟩

def accented : Rule :=
  ⟨"R2", ["LETTERS", "ANY"], ["LETTERS", "ACUTE"], "GRAVE", .join, by decide, by decide, by decide,
    by decide⟩

/-- The first rule compiles by itself; of the second one's two unknown names the first is reported,
though the target is unknown too. -/
theorem compile_of_accents :
    (∃ ruleset, Ruleset.compile letters [plain] = .ok ruleset ∧
      Ruleset.Compiles letters [plain] ruleset) ∧
    Ruleset.compile letters [plain, accented] = .error ⟨"R2", "ACUTE"⟩ ∧
    letters.FirstUnknown [plain, accented] ⟨"R2", "ACUTE"⟩ := by
  obtain ⟨hok, -, hcompiles⟩ := Ruleset.exists_compile_or_firstUnknown letters [plain]
  have hknown : ∀ rule ∈ [plain], ∀ name ∈ rule.classNames, letters.HasName name := by
    decide +kernel
  obtain ⟨ruleset, hruleset⟩ := hok.mpr hknown
  have herror : Ruleset.compile letters [plain, accented] = .error ⟨"R2", "ACUTE"⟩ := by
    decide +kernel
  refine ⟨⟨ruleset, hruleset, hcompiles ruleset hruleset⟩, herror, ?_⟩
  exact ((Ruleset.exists_compile_or_firstUnknown letters [plain, accented]).2.1 _).mp herror

end Accents
end BoundaryRules
