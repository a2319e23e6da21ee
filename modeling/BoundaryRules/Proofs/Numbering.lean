import BoundaryRules.Proofs.Capitals
import BoundaryRules.Proofs.Compilation
import BoundaryRules.Proofs.Membership
import BoundaryRules.Proofs.MergeOrder

/-! The numbers of classes. Classes are numbered in the order in which their names first appear,
behind the built-in ones, until one is refused: for its name, or because the numbers are used up. -/
namespace BoundaryRules

namespace CharClass

variable {classes front : List CharClass} {cls : CharClass}

/-- Classes under the normalized forms of the names they are defined with. -/
def ofDefinitions (definitions : List (String × List CodepointRange)) : List CharClass :=
  definitions.map fun (name, ranges) => .named name ranges

/-- The number of names that classes have, each counted once. -/
def countNames (classes : List CharClass) : Nat := (names classes).eraseDups.length

theorem length_mergeByName (classes : List CharClass) :
    (mergeByName classes).length = countNames classes := by
  rw [← length_names, names_mergeByName, countNames]

theorem countNames_append_singleton (front : List CharClass) (cls : CharClass) :
    countNames (front ++ [cls]) =
      if cls.name ∈ names front then countNames front else countNames front + 1 := by
  rw [countNames, names_append_singleton, eraseDups_append_singleton]
  split
  · rfl
  · rw [List.length_append, countNames, List.length_singleton]

end CharClass

namespace ClassIndex

open CharClass (countNames mergeByName names ofDefinitions)

variable {classes front rest : List CharClass} {cls : CharClass} {index : ClassIndex}
  {id : ClassId} {fault : Fault} {name : String}

/-- No class has the name of a built-in one, and there is a number for each name. -/
structure Numberable (classes : List CharClass) : Prop where
  not_reserved : ∀ cls ∈ classes, isReservedName cls.name = false
  count_le : countNames classes ≤ 65532

/-- Why a class is refused behind others. -/
inductive Refused (front : List CharClass) (cls : CharClass) : Fault → Prop where
  | reserved (hname : isReservedName cls.name = true) : Refused front cls (.reservedName cls.name)
  | full (hname : isReservedName cls.name = false) (hnew : cls.name ∉ names front)
      (hcount : countNames front = 65532) : Refused front cls (.tooManyClasses 65536)

theorem names_builtIns : names builtIns = builtInNames := by decide +kernel

theorem not_mem_names_builtIns (h : isReservedName name = false) : name ∉ names builtIns := by
  intro hmem
  obtain ⟨builtIn, hbuiltIn, rfl⟩ := List.mem_map.mp hmem
  rw [isReservedName_of_mem_builtIns builtIn hbuiltIn] at h
  cases h

theorem names_merged (classes : List CharClass) :
    names (builtIns ++ mergeByName classes) = builtInNames ++ (names classes).eraseDups := by
  rw [names, List.map_append]
  exact congrArg₂ (· ++ ·) names_builtIns (CharClass.names_mergeByName classes)

theorem length_merged (classes : List CharClass) :
    (builtIns ++ mergeByName classes).length = 4 + countNames classes := by
  rw [List.length_append, CharClass.length_mergeByName]
  rfl

/-- What becomes of one more class behind others. -/
theorem collect_merged (front : List CharClass) (cls : CharClass) :
    collect (builtIns ++ mergeByName front) cls =
      if isReservedName cls.name then .error (.reservedName cls.name)
      else if cls.name ∈ names front ∨ countNames front < 65532 then
        .ok (builtIns ++ mergeByName (front ++ [cls]))
      else .error (.tooManyClasses (4 + countNames front)) := by
  rw [collect_eq, length_merged]
  by_cases hname : isReservedName cls.name = true
  · rw [if_pos hname, if_pos hname]
  · have hnew := not_mem_names_builtIns (Bool.not_eq_true _ ▸ hname)
    have hroom : cls.name ∈ names (builtIns ++ mergeByName front) ∨
        4 + countNames front < maxClasses ↔ cls.name ∈ names front ∨ countNames front < 65532 := by
      rw [names_merged, List.mem_append, List.mem_eraseDups, ← names_builtIns, or_iff_right hnew,
        maxClasses]
      exact or_congr_right (by omega)
    -- The built-in classes are passed by, so that the class goes into the merged ones.
    have hmerged : CharClass.mergeInto (builtIns ++ mergeByName front) cls =
        builtIns ++ mergeByName (front ++ [cls]) := by
      rw [CharClass.mergeByName_append_singleton]
      refine CharClass.mergeInto_append fun builtIn hmem heq => hnew ?_
      exact heq ▸ List.mem_map_of_mem hmem
    rw [if_neg hname, if_neg hname, if_congr hroom rfl rfl, hmerged]

theorem collect_merged_of_refused (h : Refused front cls fault) :
    collect (builtIns ++ mergeByName front) cls = .error fault := by
  rw [collect_merged]
  cases h with
  | reserved hname => rw [if_pos hname]
  | full hname hnew hcount =>
    rw [if_neg (Bool.eq_false_iff.mp hname), if_neg (by simp [hnew, hcount]), hcount]

namespace Numberable

theorem nil : Numberable [] := ⟨List.forall_mem_nil _, Nat.zero_le _⟩

/-- One more class can be numbered if it has a known name, or a new one and there is room. -/
theorem append_singleton_iff :
    Numberable (front ++ [cls]) ↔ Numberable front ∧ isReservedName cls.name = false ∧
      (cls.name ∈ names front ∨ countNames front < 65532) := by
  have hcount := CharClass.countNames_append_singleton front cls
  constructor
  · rintro ⟨hnames, hle⟩
    obtain ⟨hfront, hcls⟩ := List.forall_mem_append.mp hnames
    rw [hcount] at hle
    split at hle
    next hmem => exact ⟨⟨hfront, hle⟩, hcls cls List.mem_cons_self, .inl hmem⟩
    next => exact ⟨⟨hfront, Nat.le_of_succ_le hle⟩, hcls cls List.mem_cons_self, .inr hle⟩
  · rintro ⟨⟨hfront, hle⟩, hcls, hroom⟩
    refine ⟨List.forall_mem_append.mpr ⟨hfront, List.forall_mem_singleton.mpr hcls⟩, ?_⟩
    rw [hcount]
    split
    next => exact hle
    next hnew => exact hroom.resolve_left hnew

/-- A class behind others that can be numbered can be numbered too, or is refused. -/
theorem append_singleton_or (h : Numberable front) (cls : CharClass) :
    Numberable (front ++ [cls]) ∨ ∃ fault, Refused front cls fault := by
  cases hname : isReservedName cls.name with
  | true => exact .inr ⟨_, .reserved hname⟩
  | false =>
    by_cases hroom : cls.name ∈ names front ∨ countNames front < 65532
    · exact .inl (append_singleton_iff.mpr ⟨h, hname, hroom⟩)
    · rw [not_or, Nat.not_lt] at hroom
      exact .inr ⟨_, .full hname hroom.1 (Nat.le_antisymm h.count_le hroom.2)⟩

theorem foldlM_collect (h : Numberable classes) :
    classes.foldlM collect builtIns = .ok (builtIns ++ mergeByName classes) := by
  induction classes using List.reverseRecOn with
  | nil => rfl
  | append_singleton front cls ih =>
    obtain ⟨hfront, hname, hroom⟩ := append_singleton_iff.mp h
    rw [List.foldlM_append, ih hfront, ok_bind, List.foldlM_cons, collect_merged,
      if_neg (Bool.eq_false_iff.mp hname), if_pos hroom, ok_bind, List.foldlM_nil]
    rfl

end Numberable

/-- All classes can be numbered, or there is a first one that is refused. -/
theorem numberable_or_refused (classes : List CharClass) :
    Numberable classes ∨ ∃ front cls rest fault, classes = front ++ cls :: rest ∧
      Numberable front ∧ Refused front cls fault := by
  induction classes using List.reverseRecOn with
  | nil => exact .inl .nil
  | append_singleton classes last ih =>
    -- A class that is refused further in front stays the first one, whatever the last one is.
    rcases ih with h | ⟨front, cls, rest, fault, rfl, hfront, hrefused⟩
    · rcases h.append_singleton_or last with hlast | ⟨fault, hrefused⟩
      · exact .inl hlast
      · exact .inr ⟨classes, last, [], fault, rfl, h, hrefused⟩
    · refine .inr ⟨front, cls, rest ++ [last], fault, ?_, hfront, hrefused⟩
      rw [List.append_assoc, List.cons_append]

theorem build_of_numberable (h : Numberable classes) :
    build classes = .ok (ofCollected (builtIns ++ mergeByName classes)) := by
  rw [build, h.foldlM_collect]
  rfl

theorem build_of_refused (hfront : Numberable front) (h : Refused front cls fault) :
    build (front ++ cls :: rest) = .error fault := by
  rw [build, List.foldlM_append, hfront.foldlM_collect, ok_bind, List.foldlM_cons,
    collect_merged_of_refused h, error_bind]
  rfl

theorem exists_build_iff : (∃ index, build classes = .ok index) ↔ Numberable classes := by
  refine ⟨fun ⟨index, hindex⟩ => ?_, fun h => ⟨_, build_of_numberable h⟩⟩
  rcases numberable_or_refused classes with h | ⟨front, cls, rest, fault, rfl, hfront, hrefused⟩
  · exact h
  · cases (build_of_refused hfront hrefused).symm.trans hindex

theorem build_eq_error_iff :
    build classes = .error fault ↔ ∃ front cls rest, classes = front ++ cls :: rest ∧
      Numberable front ∧ Refused front cls fault := by
  constructor
  · intro hfault
    rcases numberable_or_refused classes with h | ⟨front, cls, rest, other, rfl, hfront, hrefused⟩
    · cases (build_of_numberable h).symm.trans hfault
    · obtain rfl := Except.error.inj ((build_of_refused hfront hrefused).symm.trans hfault)
      exact ⟨front, cls, rest, rfl, hfront, hrefused⟩
  · rintro ⟨front, cls, rest, rfl, hfront, hrefused⟩
    exact build_of_refused hfront hrefused

section Lookup

theorem class?_isSome_iff : (index.class? id).isSome = true ↔ id.index < index.size := by
  simp [class?, size]

theorem index_lt_of_class? (h : index.class? id = some cls) : id.index < index.size :=
  class?_isSome_iff.mp (Option.isSome_of_mem h)

/-- Where names differ, the number of a name is that of the class with it. -/
theorem exactId?_eq_some_iff (hnodup : (names index.classes).Nodup) :
    index.exactId? name = some id ↔ ∃ cls, index.class? id = some cls ∧ cls.name = name := by
  obtain ⟨i⟩ := id
  simp only [exactId?_eq, Option.map_eq_some_iff, ClassId.mk.injEq, exists_eq_right, class?,
    List.findIdx?_eq_some_iff_getElem]
  constructor
  · rintro ⟨hlt, hname, -⟩
    exact ⟨_, List.getElem?_eq_getElem hlt, of_decide_eq_true hname⟩
  · rintro ⟨cls, hcls, rfl⟩
    obtain ⟨hlt, rfl⟩ := List.getElem?_eq_some_iff.mp hcls
    refine ⟨hlt, decide_eq_true rfl, fun j hj hname => ?_⟩
    have hat : (names index.classes)[j]? = (names index.classes)[i]? := by
      rw [names, List.getElem?_map, List.getElem?_map, List.getElem?_eq_getElem hlt,
        List.getElem?_eq_getElem (hj.trans hlt), Option.map_some, Option.map_some,
        of_decide_eq_true hname]
    have hlength : j < (names index.classes).length := by
      rw [CharClass.length_names]
      exact hj.trans hlt
    exact absurd ((List.getElem?_inj hlength hnodup).mp hat) (Nat.ne_of_lt hj)

/-- Where all names are normalized, a name as it is spelled gives nothing that its normalized form
does not. -/
theorem id?_eq_exactId? (hnodup : (names index.classes).Nodup)
    (hnormal : ∀ cls ∈ index.classes, normalizeName cls.name = cls.name) (name : String) :
    index.id? name = index.exactId? (normalizeName name) := by
  rw [id?]
  cases hexact : index.exactId? name with
  | none => rfl
  | some id =>
    obtain ⟨cls, hcls, rfl⟩ := (exactId?_eq_some_iff hnodup).mp hexact
    rw [hnormal cls (List.mem_of_getElem? hcls), hexact]
    rfl

theorem index_lt_of_mem_intervals {interval : Interval}
    (h : interval ∈ (ofCollected classes).intervals) :
    interval.id.index < (ofCollected classes).size := by
  obtain ⟨cls, hcls, -⟩ := mem_intervalsOf.mp (mem_intervals_ofCollected.mp h)
  exact index_lt_of_class? hcls

end Lookup

/-- The classes have the numbers below the size of the index, one for each name, and no other
numbers are in use. -/
structure Numbered (index : ClassIndex) (classes : List CharClass) : Prop where
  names_eq : names index.classes = builtInNames ++ (names classes).eraseDups
  nodup_names : (names index.classes).Nodup
  ranges_builtIn : ∀ id cls, id.isBuiltIn = true → index.class? id = some cls → cls.ranges = []
  size_eq : index.size = 4 + countNames classes
  size_le : index.size ≤ 65536
  class?_iff : ∀ id, (index.class? id).isSome = true ↔ id.index < index.size
  id?_iff : ∀ name id, index.id? name = some id ↔
    ∃ cls, index.class? id = some cls ∧ cls.name = normalizeName name
  interval_lt : ∀ interval ∈ index.intervals, interval.id.index < index.size
  resolve_lt : ∀ n, (index.resolve n).index < index.size
  compiled_lt : ∀ rules ruleset, Ruleset.compile index rules = .ok ruleset →
    ∀ bucket ∈ ruleset.buckets, ∀ rule ∈ bucket.rules,
      ∀ id ∈ rule.left ++ rule.right ++ [rule.target], id.index < index.size

theorem nodup_names_merged (h : Numberable classes) :
    (names (builtIns ++ mergeByName classes)).Nodup := by
  have hclasses : builtIns ++ mergeByName classes = classes.foldl CharClass.mergeInto builtIns :=
    congrArg ClassIndex.classes (eq_of_build (build_of_numberable h))
  rw [hclasses]
  exact CharClass.nodup_names_foldl_mergeInto nodup_names_builtIns

theorem normalizeName_of_mem_merged
    (hnormal : ∀ cls ∈ classes, normalizeName cls.name = cls.name) :
    ∀ cls ∈ builtIns ++ mergeByName classes, normalizeName cls.name = cls.name := by
  intro cls hcls
  rcases List.mem_append.mp hcls with hbuiltIn | hmerged
  · obtain ⟨name, -, rfl⟩ := List.mem_map.mp hbuiltIn
    exact normalizeName_normalizeName name
  · have hname : cls.name ∈ names (mergeByName classes) := List.mem_map_of_mem hmerged
    rw [CharClass.names_mergeByName, List.mem_eraseDups] at hname
    obtain ⟨record, hrecord, heq⟩ := List.mem_map.mp hname
    rw [← heq, hnormal record hrecord]

theorem ranges_of_isBuiltIn (hid : id.isBuiltIn = true)
    (h : (ofCollected (builtIns ++ mergeByName classes)).class? id = some cls) :
    cls.ranges = [] := by
  have hlt : id.index < builtIns.length := of_decide_eq_true hid
  have hcls : builtIns[id.index]? = some cls := (List.getElem?_append_left hlt).symm.trans h
  exact ranges_of_mem_builtIns (List.mem_of_getElem? hcls)

theorem numbered_of_numberable (h : Numberable classes)
    (hnormal : ∀ cls ∈ classes, normalizeName cls.name = cls.name) :
    (ofCollected (builtIns ++ mergeByName classes)).Numbered classes := by
  have hnodup := nodup_names_merged h
  have hsize := length_merged classes
  have hid : ∀ name id, (ofCollected (builtIns ++ mergeByName classes)).id? name = some id ↔
      ∃ cls, (ofCollected (builtIns ++ mergeByName classes)).class? id = some cls ∧
        cls.name = normalizeName name := by
    intro name id
    rw [id?_eq_exactId? hnodup (normalizeName_of_mem_merged hnormal),
      exactId?_eq_some_iff hnodup]
  refine {
    names_eq := names_merged classes
    nodup_names := hnodup
    ranges_builtIn := fun id cls => ranges_of_isBuiltIn
    size_eq := hsize
    size_le := hsize.trans_le (Nat.add_le_add_left h.count_le 4)
    class?_iff := fun id => class?_isSome_iff
    id?_iff := hid
    interval_lt := fun interval => index_lt_of_mem_intervals
    resolve_lt := fun n => ?_
    compiled_lt := fun rules ruleset hruleset bucket hbucket rule hrule id hmem => ?_ }
  · rcases resolve_eq_other_or_mem _ n with hother | ⟨interval, hmem, heq⟩
    · rw [hother, size, ofCollected, hsize]
      exact Nat.lt_add_right _ (by decide)
    · exact heq ▸ index_lt_of_mem_intervals hmem
  · obtain ⟨source, -, hsource⟩ := Ruleset.exists_source_of_mem_buckets hruleset hbucket hrule
    obtain ⟨name, hname⟩ := CompiledRule.exists_name_of_compile hsource hmem
    obtain ⟨cls, hcls, -⟩ := (hid name id).mp hname
    exact index_lt_of_class? hcls

theorem normalizeName_of_mem_ofDefinitions {definitions : List (String × List CodepointRange)}
    (h : cls ∈ ofDefinitions definitions) : normalizeName cls.name = cls.name := by
  obtain ⟨definition, -, rfl⟩ := List.mem_map.mp h
  exact normalizeName_normalizeName definition.1

/-- Classes are indexed just if they can be numbered, and then numbers and names belong together.
Otherwise the first class that is refused tells why. -/
theorem numbered_of_build (definitions : List (String × List CodepointRange)) :
    ((∃ index, build (ofDefinitions definitions) = .ok index) ↔
        Numberable (ofDefinitions definitions)) ∧
      (∀ index, build (ofDefinitions definitions) = .ok index →
        index.Numbered (ofDefinitions definitions)) ∧
      ∀ fault, build (ofDefinitions definitions) = .error fault ↔
        ∃ front cls rest, ofDefinitions definitions = front ++ cls :: rest ∧
          Numberable front ∧ Refused front cls fault := by
  refine ⟨exists_build_iff, fun index hindex => ?_, fun fault => build_eq_error_iff⟩
  have hnumberable := exists_build_iff.mp ⟨index, hindex⟩
  obtain rfl := Except.ok.inj ((build_of_numberable hnumberable).symm.trans hindex)
  exact numbered_of_numberable hnumberable fun cls => normalizeName_of_mem_ofDefinitions

example : (build (ofDefinitions [("digit", []), ("kana", []), (" Digit", [])])).map
    (fun index => (index.size, index.id? "DIGIT", index.id? "kana ")) =
      .ok (6, some ⟨4⟩, some ⟨5⟩) := by decide +kernel

end ClassIndex
end BoundaryRules
