import BoundaryRules.GrammarText
import BoundaryRules.Proofs.Compilation
import BoundaryRules.Proofs.Merging

/-! Lenient loads. A lenient load is the strict load of what is well formed; the two agree just if
nothing is left out. -/
namespace BoundaryRules

section Readings

variable {ε β : Type} {readings : List (Nat × Except ε β)} {goods : List β}

/-- What the lines that can be read stand for. -/
def goodsOf : List (Nat × Except ε β) → List β
  | [] => []
  | (_, .ok good) :: more => good :: goodsOf more
  | (_, .error _) :: more => goodsOf more

/-- The faults of the lines that cannot be read. -/
def faultsOf : List (Nat × Except ε β) → List ε
  | [] => []
  | (_, .ok _) :: more => faultsOf more
  | (_, .error fault) :: more => fault :: faultsOf more

theorem Mode.read_lenient (readings : List (Nat × Except ε β)) :
    Mode.lenient.read readings = .ok (goodsOf readings) := by
  have hgoods : readings.filterMap (·.2.toOption) = goodsOf readings := by
    induction readings with
    | nil => rfl
    | cons reading more ih =>
      obtain ⟨_, fault | good⟩ := reading
      · rw [List.filterMap_cons, goodsOf, ← ih]
        rfl
      · rw [List.filterMap_cons, goodsOf, ← ih]
        rfl
  rw [read, hgoods]

theorem Mode.skipped_lenient (readings : List (Nat × Except ε β)) :
    Mode.lenient.skipped readings = faultsOf readings := by
  rw [skipped]
  induction readings with
  | nil => rfl
  | cons reading more ih =>
    obtain ⟨_, fault | good⟩ := reading
    · rw [List.filterMap_cons, faultsOf, ← ih]
    · rw [List.filterMap_cons, faultsOf, ← ih]

/-- Strict reading succeeds just if there are no faults, and reads what lenient reading does. -/
theorem Mode.read_strict_eq_ok_iff :
    Mode.strict.read readings = .ok goods ↔ faultsOf readings = [] ∧ goodsOf readings = goods := by
  rw [read, mapM_eq_ok_iff]
  induction readings generalizing goods with
  | nil => simp [faultsOf, goodsOf, eq_comm]
  | cons reading more ih =>
    rw [List.forall₂_cons_left_iff]
    obtain ⟨_, fault | good⟩ := reading
    · simp [faultsOf]
    · simp only [ih, faultsOf, goodsOf, Except.ok.injEq]
      constructor
      · rintro ⟨_, others, rfl, ⟨hfaults, rfl⟩, rfl⟩
        exact ⟨hfaults, rfl⟩
      · rintro ⟨hfaults, rfl⟩
        exact ⟨good, goodsOf more, rfl, ⟨hfaults, rfl⟩, rfl⟩

theorem Mode.faultsOf_ne_nil {fault : ε} (h : Mode.strict.read readings = .error fault) :
    faultsOf readings ≠ [] := by
  intro hfaults
  rw [read_strict_eq_ok_iff.mpr ⟨hfaults, rfl⟩] at h
  cases h

end Readings

variable {index : ClassIndex} {rule : Rule} {rules : List Rule} {ruleset : Ruleset}
  {aliases : Aliases} {classText ruleText : List Char}

/-- Whether the index has every class that a rule names. -/
def ClassIndex.Knows (index : ClassIndex) (rule : Rule) : Prop :=
  ∀ name ∈ rule.classNames, (index.id? name).isSome

instance (index : ClassIndex) (rule : Rule) : Decidable (index.Knows rule) :=
  inferInstanceAs (Decidable (∀ name ∈ rule.classNames, (index.id? name).isSome))

theorem CompiledRule.exists_resolve_eq_ok_iff {name : String} :
    (∃ id, compile.resolve index rule name = .ok id) ↔ (index.id? name).isSome := by
  rw [compile.resolve]
  cases index.id? name <;> simp

/-- A rule compiles just if the index knows all its names. -/
theorem CompiledRule.exists_compile_eq_ok_iff :
    (∃ compiled, compile index rule = .ok compiled) ↔ index.Knows rule := by
  have hknows : index.Knows rule ↔
      (∃ left, rule.left.mapM (compile.resolve index rule) = .ok left) ∧
      (∃ right, rule.right.mapM (compile.resolve index rule) = .ok right) ∧
      ∃ target, compile.resolve index rule rule.target = .ok target := by
    simp only [exists_mapM_eq_ok_iff, exists_resolve_eq_ok_iff, ClassIndex.Knows, Rule.classNames,
      List.forall_mem_append, List.forall_mem_singleton, and_assoc]
  rw [hknows]
  simp only [compile, bind_eq_ok_iff]
  constructor
  · rintro ⟨_, left, hleft, right, hright, target, htarget, _⟩
    exact ⟨⟨left, hleft⟩, ⟨right, hright⟩, target, htarget⟩
  · rintro ⟨⟨left, hleft⟩, ⟨right, hright⟩, target, htarget⟩
    exact ⟨_, left, hleft, right, hright, target, htarget, rfl⟩

/-- Rules compile just if the index knows all their names. -/
theorem Ruleset.exists_compile_eq_ok_iff :
    (∃ ruleset, compile index rules = .ok ruleset) ↔ ∀ rule ∈ rules, index.Knows rule := by
  simp only [← CompiledRule.exists_compile_eq_ok_iff, ← exists_mapM_eq_ok_iff]
  constructor
  · rintro ⟨ruleset, hruleset⟩
    obtain ⟨compiled, hcompiled, -⟩ := exists_compiled_of_compile hruleset
    exact ⟨compiled, hcompiled⟩
  · rintro ⟨compiled, hcompiled⟩
    exact ⟨⟨index, rules, Bucket.ofRules compiled⟩, by rw [compile, hcompiled]; rfl⟩

theorem ClassIndex.unknownIn?_eq_none_iff : index.unknownIn? rule = none ↔ index.Knows rule := by
  simp [unknownIn?, Knows, Option.isSome_iff_ne_none]

/-- The warning that a rule was dropped, with the first of its names that is unknown. -/
def ClassIndex.Drops (index : ClassIndex) (rule : Rule) (warning : Warning) : Prop :=
  ∃ known unknown more, rule.classNames = known ++ unknown :: more ∧
    (∀ name ∈ known, (index.id? name).isSome) ∧ index.id? unknown = none ∧
    warning = .droppedRule rule unknown

theorem ClassIndex.drops_of_unknownIn? {unknown : String}
    (h : index.unknownIn? rule = some unknown) : index.Drops rule (.droppedRule rule unknown) := by
  obtain ⟨hnone, known, more, hnames, hknown⟩ := List.find?_eq_some_iff_append.mp h
  refine ⟨known, unknown, more, hnames, fun name hname => ?_, Option.isNone_iff_eq_none.mp hnone,
    rfl⟩
  simpa [Option.isSome_iff_ne_none] using hknown name hname

theorem Mode.keep_lenient : Mode.lenient.keep index rules = rules.filter (index.Knows ·) := by
  rw [keep]
  congr 1
  funext rule
  rw [Bool.eq_iff_iff, Option.isNone_iff_eq_none, ClassIndex.unknownIn?_eq_none_iff,
    decide_eq_true_iff]

/-- Each rule with an unknown name is dropped with one warning. -/
theorem Mode.forall₂_dropped_lenient (index : ClassIndex) (rules : List Rule) :
    List.Forall₂ index.Drops (rules.filter (¬ index.Knows ·))
      (Mode.lenient.dropped index rules) := by
  rw [dropped]
  induction rules with
  | nil => exact .nil
  | cons rule rules ih =>
    cases hunknown : index.unknownIn? rule with
    | none =>
      have hknows := ClassIndex.unknownIn?_eq_none_iff.mp hunknown
      rw [List.filter_cons_of_neg (by simpa using hknows), List.filterMap_cons, hunknown]
      exact ih
    | some unknown =>
      have hknows : ¬ index.Knows rule := by
        rw [← ClassIndex.unknownIn?_eq_none_iff, hunknown]
        exact Option.some_ne_none unknown
      rw [List.filter_cons_of_pos (by simpa using hknows), List.filterMap_cons, hunknown]
      exact .cons (ClassIndex.drops_of_unknownIn? hunknown) ih

theorem Mode.dropped_lenient_eq_nil_iff :
    Mode.lenient.dropped index rules = [] ↔ ∀ rule ∈ rules, index.Knows rule := by
  have hlength := (forall₂_dropped_lenient index rules).length_eq
  rw [← List.length_eq_zero_iff, ← hlength, List.length_eq_zero_iff, List.filter_eq_nil_iff]
  simp

/-- Whether a warning says that something was left out. -/
def Warning.isOmission : Warning → Bool
  | overlap _ => false
  | skippedRecord _ | skippedRule _ | droppedRule _ _ => true

/-- The warnings about what was left out. -/
def Loading.omissions (loading : Loading) : List Warning := loading.warnings.filter (·.isOmission)

theorem filter_isOmission_map {α : Type} {f : α → Warning} (as : List α)
    (h : ∀ a, (f a).isOmission = true) : (as.map f).filter (·.isOmission) = as.map f := by
  rw [List.filter_eq_self]
  intro warning hwarning
  obtain ⟨a, -, rfl⟩ := List.mem_map.mp hwarning
  exact h a

theorem filter_isOmission_dropped :
    (Mode.lenient.dropped index rules).filter (·.isOmission) =
      Mode.lenient.dropped index rules := by
  rw [List.filter_eq_self]
  intro warning hwarning
  obtain ⟨rule, -, hrule⟩ := List.mem_filterMap.mp hwarning
  obtain ⟨unknown, -, rfl⟩ := Option.map_eq_some_iff.mp hrule
  rfl

namespace GrammarText

/-- The records of a class text that can be read. -/
def goodRecords (text : List Char) : List CharClass := goodsOf (ClassRecord.readLines text)

def recordFaults (text : List Char) : List ClassRecord.Fault :=
  faultsOf (ClassRecord.readLines text)

/-- The rules of the lines that can be read. -/
def goodRules (aliases : Aliases) (text : List Char) : List Rule :=
  (goodsOf (RuleLine.readLines aliases text)).flatten

def lineFaults (aliases : Aliases) (text : List Char) : List RuleLine.Fault :=
  faultsOf (RuleLine.readLines aliases text)

theorem loadRules_lenient :
    loadRules aliases .lenient index ruleText =
      ⟨(lineFaults aliases ruleText).map .skippedRule ++
          Mode.lenient.dropped index (goodRules aliases ruleText),
        (Ruleset.compile index ((goodRules aliases ruleText).filter (index.Knows ·))).mapError
          .unknownClass⟩ := by
  simp only [loadRules, Mode.read_lenient, Mode.skipped_lenient, Mode.keep_lenient, goodRules,
    lineFaults]

theorem loadRules_strict_eq_ok_iff :
    (loadRules aliases .strict index ruleText).result = .ok ruleset ↔
      lineFaults aliases ruleText = [] ∧
      Ruleset.compile index (goodRules aliases ruleText) = .ok ruleset := by
  simp only [loadRules, lineFaults, goodRules]
  cases hread : Mode.strict.read (RuleLine.readLines aliases ruleText) with
  | error fault => simp [Mode.faultsOf_ne_nil hread]
  | ok rules =>
    obtain ⟨hfaults, rfl⟩ := Mode.read_strict_eq_ok_iff.mp hread
    simp only [hfaults, true_and, Mode.keep, mapError_eq_ok_iff]

theorem load_lenient_of_build_error (aliases : Aliases) (ruleText : List Char)
    {fault : ClassIndex.Fault}
    (h : ClassIndex.build (goodRecords classText) = .error fault) :
    load aliases .lenient classText ruleText =
      ⟨(recordFaults classText).map .skippedRecord, .error (.index fault)⟩ := by
  simp only [load, Mode.read_lenient, Mode.skipped_lenient, ClassIndex.build_mergeByName]
  simp only [goodRecords] at h
  rw [h, recordFaults]

theorem load_lenient_of_build_ok (h : ClassIndex.build (goodRecords classText) = .ok index) :
    load aliases .lenient classText ruleText =
      ⟨(recordFaults classText).map .skippedRecord ++ index.overlaps.map .overlap ++
          (loadRules aliases .lenient index ruleText).warnings,
        (loadRules aliases .lenient index ruleText).result⟩ := by
  simp only [load, Mode.read_lenient, Mode.skipped_lenient, ClassIndex.build_mergeByName]
  simp only [goodRecords] at h
  rw [h, recordFaults]

theorem load_strict_eq_ok_iff :
    (load aliases .strict classText ruleText).result = .ok ruleset ↔
      recordFaults classText = [] ∧
      ∃ index, ClassIndex.build (goodRecords classText) = .ok index ∧
        (loadRules aliases .strict index ruleText).result = .ok ruleset := by
  simp only [load, ClassIndex.build_mergeByName, recordFaults, goodRecords]
  cases hread : Mode.strict.read (ClassRecord.readLines classText) with
  | error fault => simp [Mode.faultsOf_ne_nil hread]
  | ok records =>
    obtain ⟨hfaults, rfl⟩ := Mode.read_strict_eq_ok_iff.mp hread
    cases hbuild : ClassIndex.build (goodsOf (ClassRecord.readLines classText)) with
    | error fault => simp [hbuild]
    | ok index => simp [hbuild, hfaults]

/-- What a lenient load leaves out, given the index of the records. -/
theorem omissions_load_lenient (h : ClassIndex.build (goodRecords classText) = .ok index) :
    (load aliases .lenient classText ruleText).omissions =
      (recordFaults classText).map .skippedRecord ++
        (lineFaults aliases ruleText).map .skippedRule ++
        Mode.lenient.dropped index (goodRules aliases ruleText) := by
  have hoverlaps : (index.overlaps.map Warning.overlap).filter (·.isOmission) = [] := by
    simp [Warning.isOmission]
  rw [load_lenient_of_build_ok h, loadRules_lenient, Loading.omissions]
  rw [List.filter_append, List.filter_append, List.filter_append, hoverlaps, List.append_nil,
    filter_isOmission_map _ fun _ => rfl, filter_isOmission_map _ fun _ => rfl,
    filter_isOmission_dropped, List.append_assoc]

/-- A lenient load with an index always succeeds. -/
theorem exists_load_lenient (aliases : Aliases) (ruleText : List Char)
    (h : ClassIndex.build (goodRecords classText) = .ok index) :
    ∃ ruleset,
      Ruleset.compile index ((goodRules aliases ruleText).filter (index.Knows ·)) = .ok ruleset ∧
      (load aliases .lenient classText ruleText).result = .ok ruleset := by
  have hknown : ∀ rule ∈ (goodRules aliases ruleText).filter (index.Knows ·), index.Knows rule :=
    fun rule hrule => of_decide_eq_true (List.mem_filter.mp hrule).2
  obtain ⟨ruleset, hruleset⟩ := Ruleset.exists_compile_eq_ok_iff.mpr hknown
  refine ⟨ruleset, hruleset, ?_⟩
  rw [load_lenient_of_build_ok h, loadRules_lenient, hruleset]
  rfl

/-- Strict and lenient load give the same ruleset if nothing is left out. -/
theorem load_strict_iff_of_build_ok (h : ClassIndex.build (goodRecords classText) = .ok index) :
    (load aliases .strict classText ruleText).result = .ok ruleset ↔
      (load aliases .lenient classText ruleText).result = .ok ruleset ∧
      (load aliases .lenient classText ruleText).omissions = [] := by
  have hself : (∀ rule ∈ goodRules aliases ruleText, index.Knows rule) →
      (goodRules aliases ruleText).filter (index.Knows ·) = goodRules aliases ruleText := by
    intro hknown
    rw [List.filter_eq_self]
    exact fun rule hrule => decide_eq_true (hknown rule hrule)
  rw [load_strict_eq_ok_iff, omissions_load_lenient h, load_lenient_of_build_ok h,
    loadRules_lenient, mapError_eq_ok_iff]
  simp only [List.append_eq_nil_iff, List.map_eq_nil_iff, Mode.dropped_lenient_eq_nil_iff,
    loadRules_strict_eq_ok_iff]
  constructor
  · rintro ⟨hrecords, other, hother, hlines, hcompile⟩
    obtain rfl := Except.ok.inj (h.symm.trans hother)
    have hknown := Ruleset.exists_compile_eq_ok_iff.mp ⟨ruleset, hcompile⟩
    rw [hself hknown]
    exact ⟨hcompile, ⟨hrecords, hlines⟩, hknown⟩
  · rintro ⟨hcompile, ⟨hrecords, hlines⟩, hknown⟩
    rw [hself hknown] at hcompile
    exact ⟨hrecords, index, h, hlines, hcompile⟩

/-- A lenient load is that of the records and rules that are well formed, as far as the index of the
records knows the names in the rules; it fails only if there is no such index, and then reads no
rules. What is left out is warned of in order. A strict load succeeds just if nothing is left out,
with the same ruleset. -/
theorem load_lenient (aliases : Aliases) (classText ruleText : List Char) :
    (match ClassIndex.build (goodRecords classText) with
    | .error fault =>
      (load aliases .lenient classText ruleText).result = .error (.index fault) ∧
      (load aliases .lenient classText ruleText).omissions =
        (recordFaults classText).map .skippedRecord
    | .ok index =>
      ∃ ruleset dropped,
        Ruleset.compile index ((goodRules aliases ruleText).filter (index.Knows ·)) = .ok ruleset ∧
        (load aliases .lenient classText ruleText).result = .ok ruleset ∧
        (load aliases .lenient classText ruleText).omissions =
          (recordFaults classText).map .skippedRecord ++
            (lineFaults aliases ruleText).map .skippedRule ++ dropped ∧
        List.Forall₂ index.Drops ((goodRules aliases ruleText).filter (¬ index.Knows ·)) dropped) ∧
    ∀ ruleset, (load aliases .strict classText ruleText).result = .ok ruleset ↔
      (load aliases .lenient classText ruleText).result = .ok ruleset ∧
      (load aliases .lenient classText ruleText).omissions = [] := by
  cases hbuild : ClassIndex.build (goodRecords classText) with
  | error fault =>
    have hload := load_lenient_of_build_error aliases ruleText hbuild
    refine ⟨⟨by rw [hload], ?_⟩, fun ruleset => ?_⟩
    · rw [hload]
      exact filter_isOmission_map _ fun _ => rfl
    · rw [load_strict_eq_ok_iff, hbuild, hload]
      simp
  | ok index =>
    obtain ⟨ruleset, hcompile, hresult⟩ :=
      exists_load_lenient aliases ruleText hbuild
    exact ⟨⟨ruleset, _, hcompile, hresult, omissions_load_lenient hbuild,
      Mode.forall₂_dropped_lenient _ _⟩, fun ruleset => load_strict_iff_of_build_ok hbuild⟩

end GrammarText

/-! A class text that cannot be indexed, with a rule line that cannot be read. -/
namespace ReservedRecord

def recordLine : List Char := "0041 ; SOT".toList

def nameAlone : List Char := "R".toList

/-- The load ends before the rule line is read, so there is no warning of its fault. -/
theorem warnings_load_lenient :
    GrammarText.lineFaults {} nameAlone = [⟨"R", some 1, .missingOperator⟩] ∧
      (GrammarText.load {} .lenient recordLine nameAlone).warnings = [] := by
  decide +kernel

end ReservedRecord
end BoundaryRules
