import BoundaryRules.Proofs.ClassIds
import BoundaryRules.Proofs.Traversal
import Mathlib.Data.List.Nodup

/-! Records of one name. Merging puts them together under the first of them, and to an index it
makes no difference whether that is done before its classes are collected. -/
namespace BoundaryRules

namespace CharClass

variable {classes more records : List CharClass} {cls record later : CharClass} {name : String}
  {n : Nat}

/-- The names of classes, in order. -/
def names (classes : List CharClass) : List String := classes.map (·.name)

@[simp] theorem names_cons : names (cls :: classes) = cls.name :: names classes := rfl

@[simp] theorem length_names : (names classes).length = classes.length := List.length_map _

theorem mergeInto_cons :
    mergeInto (cls :: classes) record =
      if cls.name = record.name then cls.absorb record :: classes
      else cls :: mergeInto classes record :=
  rfl

theorem names_mergeInto :
    names (mergeInto classes record) =
      if record.name ∈ names classes then names classes else names classes ++ [record.name] := by
  induction classes with
  | nil => rfl
  | cons cls classes ih =>
    rw [mergeInto_cons]
    by_cases hname : cls.name = record.name
    · simp [hname]
    · rw [if_neg hname, names_cons, ih, names_cons]
      by_cases hmem : record.name ∈ names classes <;> simp [hmem, Ne.symm hname]

theorem names_mergeInto_of_mem (h : record.name ∈ names classes) :
    names (mergeInto classes record) = names classes := by
  rw [names_mergeInto, if_pos h]

theorem mem_names_mergeInto :
    name ∈ names (mergeInto classes record) ↔ name ∈ names classes ∨ name = record.name := by
  rw [names_mergeInto]
  split
  next h => exact ⟨.inl, fun hname => hname.elim id fun heq => heq ▸ h⟩
  next => rw [List.mem_append, List.mem_singleton]

theorem nodup_names_mergeInto (h : (names classes).Nodup) :
    (names (mergeInto classes record)).Nodup := by
  rw [names_mergeInto]
  split
  next => exact h
  next hmem => exact List.nodup_append_comm.mp (List.nodup_cons.mpr ⟨hmem, h⟩)

theorem nodup_names_foldl_mergeInto (h : (names classes).Nodup) :
    (names (records.foldl mergeInto classes)).Nodup := by
  induction records generalizing classes with
  | nil => exact h
  | cons record records ih => exact ih (nodup_names_mergeInto h)

/-- Two records of one name go into a class as one does that has the ranges of both. -/
theorem mergeInto_mergeInto (h : record.name = later.name) :
    mergeInto (mergeInto classes record) later = mergeInto classes (record.absorb later) := by
  induction classes with
  | nil => simp [mergeInto, h]
  | cons cls classes ih =>
    rw [mergeInto_cons, mergeInto_cons, name_absorb]
    by_cases hname : cls.name = record.name
    · simp [hname, h, mergeInto_cons, absorb]
    · rw [if_neg hname, if_neg hname, mergeInto_cons, if_neg (h ▸ hname), ih]

/-- A record of a known name may be merged before or after one of another name. -/
theorem mergeInto_comm (hne : record.name ≠ later.name) (hmem : later.name ∈ names classes) :
    mergeInto (mergeInto classes record) later = mergeInto (mergeInto classes later) record := by
  induction classes with
  | nil => exact absurd hmem List.not_mem_nil
  | cons cls classes ih =>
    rw [mergeInto_cons, mergeInto_cons]
    by_cases hrecord : cls.name = record.name
    · have hlater : cls.name ≠ later.name := fun heq => hne (hrecord.symm.trans heq)
      rw [if_pos hrecord, if_neg hlater, mergeInto_cons, name_absorb, if_neg hlater,
        mergeInto_cons, if_pos hrecord]
    · by_cases hlater : cls.name = later.name
      · rw [if_neg hrecord, if_pos hlater, mergeInto_cons, if_pos hlater, mergeInto_cons,
          name_absorb, if_neg hrecord]
      · have hmore : later.name ∈ names classes := by
          rw [names_cons, List.mem_cons] at hmem
          exact hmem.resolve_left (Ne.symm hlater)
        rw [if_neg hrecord, if_neg hlater, mergeInto_cons, if_neg hlater, mergeInto_cons,
          if_neg hrecord, ih hmore]

/-- A class of the name contains the code point. -/
def Covers (classes : List CharClass) (name : String) (n : Nat) : Prop :=
  ∃ cls ∈ classes, cls.name = name ∧ cls.contains n = true

theorem covers_cons :
    Covers (cls :: classes) name n ↔
      cls.name = name ∧ cls.contains n = true ∨ Covers classes name n := by
  simp [Covers]

theorem contains_absorb :
    (cls.absorb record).contains n = true ↔ cls.contains n = true ∨ record.contains n = true := by
  simp [absorb, contains]

theorem covers_mergeInto :
    Covers (mergeInto classes record) name n ↔ Covers (record :: classes) name n := by
  induction classes with
  | nil => rfl
  | cons cls classes ih =>
    rw [mergeInto_cons]
    split
    next hname =>
      rw [covers_cons, covers_cons, covers_cons, name_absorb, contains_absorb, hname]
      tauto
    next =>
      rw [covers_cons, ih, covers_cons, covers_cons, covers_cons]
      tauto

/-- Merged records cover what the records do. -/
theorem covers_foldl_mergeInto :
    Covers (records.foldl mergeInto classes) name n ↔
      Covers classes name n ∨ Covers records name n := by
  induction records generalizing classes with
  | nil => simp [Covers]
  | cons record records ih =>
    rw [List.foldl_cons, ih, covers_mergeInto, covers_cons, covers_cons]
    tauto

/-- Records are merged into the classes behind those that have none of their names. -/
theorem foldl_mergeInto_append {front : List CharClass}
    (h : ∀ record ∈ records, record.name ∉ names front) :
    records.foldl mergeInto (front ++ classes) = front ++ records.foldl mergeInto classes := by
  induction records generalizing classes with
  | nil => rfl
  | cons record records ih =>
    obtain ⟨hrecord, hrecords⟩ := List.forall_mem_cons.mp h
    have hfront : ∀ cls ∈ front, cls.name ≠ record.name := by
      intro cls hcls heq
      exact hrecord (heq ▸ List.mem_map_of_mem hcls)
    rw [List.foldl_cons, mergeInto_append hfront, ih hrecords, List.foldl_cons]

end CharClass

namespace ClassIndex

open CharClass (mergeInto names)

variable {classes collected records merged : List CharClass} {cls record : CharClass}
  {index : ClassIndex}

theorem collect_eq (classes : List CharClass) (cls : CharClass) :
    collect classes cls =
      if isReservedName cls.name then .error (.reservedName cls.name)
      else if cls.name ∈ names classes ∨ classes.length < maxClasses then
        .ok (mergeInto classes cls)
      else .error (.tooManyClasses classes.length) := by
  have hmem : (classes.any (·.name = cls.name) || decide (classes.length < maxClasses)) = true ↔
      cls.name ∈ names classes ∨ classes.length < maxClasses := by
    simp [names]
  rw [collect, if_congr hmem rfl rfl]

/-- A class that is collected is merged into those before it. -/
theorem of_collect_eq_ok (h : collect classes cls = .ok collected) :
    isReservedName cls.name = false ∧ collected = mergeInto classes cls := by
  rw [collect_eq] at h
  split at h
  next => cases h
  next hname =>
    split at h
    · exact ⟨Bool.not_eq_true _ ▸ hname, (Except.ok.inj h).symm⟩
    · cases h

theorem collect_of_mem (hname : isReservedName cls.name = false) (hmem : cls.name ∈ names classes) :
    collect classes cls = .ok (mergeInto classes cls) := by
  rw [collect_eq, if_neg (Bool.not_eq_true _ ▸ hname), if_pos (.inl hmem)]

theorem eq_foldl_of_foldlM_collect (h : records.foldlM collect classes = .ok collected) :
    collected = records.foldl mergeInto classes := by
  induction records generalizing classes with
  | nil => exact (Except.ok.inj h).symm
  | cons record records ih =>
    rw [List.foldlM_cons] at h
    cases hstep : collect classes record with
    | error fault => rw [hstep, error_bind] at h; contradiction
    | ok next =>
      rw [hstep, ok_bind] at h
      rw [List.foldl_cons, ← (of_collect_eq_ok hstep).2]
      exact ih h

/-- The classes of an index are the built-in ones with all records merged into them. -/
theorem eq_of_build (h : build records = .ok index) :
    index = ofCollected (records.foldl mergeInto builtIns) := by
  unfold build at h
  cases hfold : records.foldlM collect builtIns with
  | error fault => rw [hfold] at h; contradiction
  | ok collected =>
    rw [hfold] at h
    rw [← eq_foldl_of_foldlM_collect hfold]
    exact (Except.ok.inj h).symm

theorem isReservedName_of_foldlM_collect (h : records.foldlM collect classes = .ok collected) :
    ∀ record ∈ records, isReservedName record.name = false := by
  induction records generalizing classes with
  | nil => simp
  | cons record records ih =>
    rw [List.foldlM_cons, bind_eq_ok_iff] at h
    obtain ⟨next, hstep, hrest⟩ := h
    exact List.forall_mem_cons.mpr ⟨(of_collect_eq_ok hstep).1, ih hrest⟩

/-- In an index the merged records stand behind the built-in classes. -/
theorem classes_of_build (h : build records = .ok index) :
    index.classes = builtIns ++ CharClass.mergeByName records := by
  obtain ⟨collected, hfold, rfl⟩ := map_eq_ok_iff.mp h
  have hnames : ∀ record ∈ records, record.name ∉ names builtIns := by
    intro record hrecord hmem
    obtain ⟨builtIn, hbuiltIn, heq⟩ := List.mem_map.mp hmem
    have hreserved := isReservedName_of_mem_builtIns builtIn hbuiltIn
    rw [heq, isReservedName_of_foldlM_collect hfold record hrecord] at hreserved
    exact Bool.false_ne_true hreserved
  have happend : records.foldl mergeInto (builtIns ++ []) =
      builtIns ++ records.foldl mergeInto [] :=
    CharClass.foldl_mergeInto_append hnames
  exact (eq_foldl_of_foldlM_collect hfold).trans happend

/-- A class that takes in a further record is refused, or collected, as it is without. -/
theorem collect_absorb (h : cls.name = record.name) :
    collect classes (cls.absorb record) = collect classes cls >>= (collect · record) := by
  cases hcls : collect classes cls with
  | error fault =>
    rw [collect_eq] at hcls ⊢
    rw [CharClass.name_absorb]
    split
    next hname => rw [if_pos hname] at hcls; exact hcls
    next hname =>
      rw [if_neg hname] at hcls
      split
      next hroom => rw [if_pos hroom] at hcls; cases hcls
      next hroom => rw [if_neg hroom] at hcls; exact hcls
  | ok next =>
    obtain ⟨hname, rfl⟩ := of_collect_eq_ok hcls
    have hrecord : collect (mergeInto classes cls) record =
        .ok (mergeInto (mergeInto classes cls) record) :=
      collect_of_mem (h ▸ hname) (CharClass.mem_names_mergeInto.mpr (.inr h.symm))
    have habsorb : collect classes (cls.absorb record) =
        .ok (mergeInto classes (cls.absorb record)) := by
      rw [collect_eq, if_neg (Bool.not_eq_true _ ▸ hname)] at hcls ⊢
      rw [CharClass.name_absorb]
      split
      next => rfl
      next hroom => rw [if_neg hroom] at hcls; cases hcls
    rw [habsorb, ← CharClass.mergeInto_mergeInto h, ok_bind, hrecord]

/-- A further record of a known name makes no difference to a class of another name. -/
theorem collect_mergeInto (hne : cls.name ≠ record.name)
    (hname : isReservedName record.name = false) (hmem : record.name ∈ names classes) :
    collect (mergeInto classes record) cls = collect classes cls >>= (collect · record) := by
  have hnames := CharClass.names_mergeInto_of_mem hmem
  have hlength : (mergeInto classes record).length = classes.length := by
    rw [← CharClass.length_names, hnames, CharClass.length_names]
  rw [collect_eq, collect_eq classes, hnames, hlength]
  split
  · rfl
  · split
    · have hnext : record.name ∈ names (mergeInto classes cls) :=
        CharClass.mem_names_mergeInto.mpr (.inl hmem)
      rw [← CharClass.mergeInto_comm hne hmem, ok_bind, collect_of_mem hname hnext]
    · rfl

theorem foldlM_collect_mergeInto (hname : isReservedName record.name = false)
    (hmem : record.name ∈ names classes) (hnot : record.name ∉ names merged) :
    merged.foldlM collect (mergeInto classes record) =
      merged.foldlM collect classes >>= (collect · record) := by
  induction merged generalizing classes with
  | nil =>
    rw [List.foldlM_nil, List.foldlM_nil, pure_bind, collect_of_mem hname hmem]
    rfl
  | cons cls merged ih =>
    rw [CharClass.names_cons, List.mem_cons, not_or] at hnot
    rw [List.foldlM_cons, List.foldlM_cons, collect_mergeInto (Ne.symm hnot.1) hname hmem]
    cases hcls : collect classes cls with
    | error fault => simp only [error_bind]
    | ok next =>
      obtain ⟨-, rfl⟩ := of_collect_eq_ok hcls
      have hnext : record.name ∈ names (mergeInto classes cls) :=
        CharClass.mem_names_mergeInto.mpr (.inl hmem)
      rw [ok_bind, collect_of_mem hname hnext, ok_bind, ok_bind]
      exact ih hnext hnot.2

/-- A record merged into the classes still to be collected may as well be collected after them. -/
theorem foldlM_collect_of_mergeInto (hnodup : (names merged).Nodup) :
    (mergeInto merged record).foldlM collect classes =
      merged.foldlM collect classes >>= (collect · record) := by
  induction merged generalizing classes with
  | nil =>
    rw [mergeInto, List.foldlM_cons, List.foldlM_nil, pure_bind]
    exact bind_pure _
  | cons cls merged ih =>
    obtain ⟨hnot, hnodup⟩ := List.nodup_cons.mp hnodup
    rw [CharClass.mergeInto_cons, List.foldlM_cons, bind_assoc]
    split
    next heq =>
      rw [List.foldlM_cons, collect_absorb heq]
      cases hcls : collect classes cls with
      | error fault => simp only [error_bind]
      | ok next =>
        obtain ⟨hname, rfl⟩ := of_collect_eq_ok hcls
        have hmem : record.name ∈ names (mergeInto classes cls) :=
          CharClass.mem_names_mergeInto.mpr (.inr heq.symm)
        rw [ok_bind, ok_bind, collect_of_mem (heq ▸ hname) hmem, ok_bind]
        exact foldlM_collect_mergeInto (heq ▸ hname) hmem (heq ▸ hnot)
    next =>
      rw [List.foldlM_cons]
      exact congrArg (collect classes cls >>= ·) (funext fun next => ih hnodup)

theorem foldlM_collect_foldl_mergeInto (hnodup : (names merged).Nodup) :
    (records.foldl mergeInto merged).foldlM collect classes =
      merged.foldlM collect classes >>= fun next => records.foldlM collect next := by
  induction records generalizing merged with
  | nil => exact (bind_pure _).symm
  | cons record records ih =>
    rw [List.foldl_cons, ih (CharClass.nodup_names_mergeInto hnodup),
      foldlM_collect_of_mergeInto hnodup, bind_assoc]
    simp only [List.foldlM_cons]

/-- An index of merged records is that of the records as they are, or fails for the same reason. -/
theorem build_mergeByName (records : List CharClass) :
    build (CharClass.mergeByName records) = build records := by
  have hfold : (CharClass.mergeByName records).foldlM collect builtIns =
      records.foldlM collect builtIns :=
    foldlM_collect_foldl_mergeInto (show (names []).Nodup from List.nodup_nil)
  rw [build, build, hfold]

end ClassIndex
end BoundaryRules
