import BoundaryRules.ClassIndex

/-! Which classes an index gives to code points. Records never reach the built-in classes, and
those have no ranges, so a code point is of a class of the grammar or of none. -/
namespace BoundaryRules

theorem lastAtMost?_mem {α : Type} {key : α → Nat} {entries : Array α} {n : Nat} {a : α}
    (h : lastAtMost? key entries n = some a) : a ∈ entries := by
  unfold lastAtMost? at h
  split at h
  · contradiction
  · exact Array.mem_of_getElem? h

namespace CharClass

/-- A record leaves alone the classes in front of which none has its name. -/
theorem mergeInto_append {front rest : List CharClass} {record : CharClass}
    (h : ∀ cls ∈ front, cls.name ≠ record.name) :
    mergeInto (front ++ rest) record = front ++ mergeInto rest record := by
  induction front with
  | nil => rfl
  | cons cls front ih =>
    obtain ⟨hcls, hfront⟩ := List.forall_mem_cons.mp h
    simp only [List.cons_append, mergeInto, if_neg hcls, ih hfront]

end CharClass

namespace ClassIndex

theorem isReservedName_of_mem_builtIns :
    ∀ cls ∈ builtIns, isReservedName cls.name = true := by decide +kernel

theorem ranges_of_mem_builtIns {cls : CharClass} (h : cls ∈ builtIns) : cls.ranges = [] := by
  obtain ⟨name, -, rfl⟩ := List.mem_map.mp h
  rfl

theorem builtIns_prefix_collect {classes collected : List CharClass} {cls : CharClass}
    (hfront : builtIns <+: classes) (h : collect classes cls = .ok collected) :
    builtIns <+: collected := by
  obtain ⟨rest, rfl⟩ := hfront
  unfold collect at h
  split at h
  next => cases h
  next hname =>
    split at h
    · have hother : ∀ builtIn ∈ builtIns, builtIn.name ≠ cls.name := by
        intro builtIn hmem heq
        exact hname (heq ▸ isReservedName_of_mem_builtIns builtIn hmem)
      rw [CharClass.mergeInto_append hother] at h
      exact ⟨_, Except.ok.inj h⟩
    · cases h

theorem builtIns_prefix_foldlM {records classes collected : List CharClass}
    (hfront : builtIns <+: classes) (h : records.foldlM collect classes = .ok collected) :
    builtIns <+: collected := by
  induction records generalizing classes with
  | nil => exact Except.ok.inj h ▸ hfront
  | cons record records ih =>
    rw [List.foldlM_cons] at h
    cases hstep : collect classes record with
    | error fault => rw [hstep] at h; contradiction
    | ok next =>
      rw [hstep] at h
      exact ih (builtIns_prefix_collect hfront hstep) h

/-- What an index holds: the built-in classes and after them those of the records. -/
theorem exists_collected_of_build {records : List CharClass} {index : ClassIndex}
    (h : build records = .ok index) :
    ∃ collected, builtIns <+: collected ∧ index = ofCollected collected := by
  unfold build at h
  cases hfold : records.foldlM collect builtIns with
  | error fault => rw [hfold] at h; contradiction
  | ok collected =>
    rw [hfold] at h
    exact ⟨collected, builtIns_prefix_foldlM (List.prefix_refl _) hfold, (Except.ok.inj h).symm⟩

theorem mem_intervalsOf {classes : List CharClass} {interval : Interval} :
    interval ∈ intervalsOf classes ↔
      ∃ cls, classes[interval.id.index]? = some cls ∧ interval.range ∈ cls.ranges := by
  simp only [intervalsOf, List.mem_flatMap, List.mem_map, Prod.exists,
    List.mk_mem_zipIdx_iff_getElem?]
  constructor
  · rintro ⟨cls, i, hcls, range, hrange, rfl⟩
    exact ⟨cls, hcls, hrange⟩
  · rintro ⟨cls, hcls, hrange⟩
    exact ⟨cls, _, hcls, _, hrange, rfl⟩

theorem mem_intervals_ofCollected {classes : List CharClass} {interval : Interval} :
    interval ∈ (ofCollected classes).intervals ↔ interval ∈ intervalsOf classes := by
  rw [ofCollected, List.mem_toArray]
  exact (sortStable_perm _ _).mem_iff

/-- No interval belongs to a built-in class. -/
theorem isBuiltIn_of_mem_intervalsOf {classes : List CharClass} {interval : Interval}
    (hfront : builtIns <+: classes) (h : interval ∈ intervalsOf classes) :
    interval.id.isBuiltIn = false := by
  obtain ⟨cls, hcls, hrange⟩ := mem_intervalsOf.mp h
  obtain ⟨rest, rfl⟩ := hfront
  simp only [ClassId.isBuiltIn, decide_eq_false_iff_not]
  intro hlt
  have hmem : cls ∈ builtIns := by
    rw [List.getElem?_append_left (by simpa [builtIns] using hlt)] at hcls
    exact List.mem_of_getElem? hcls
  rw [ranges_of_mem_builtIns hmem] at hrange
  exact List.not_mem_nil hrange

theorem resolve_eq_other_or_mem (index : ClassIndex) (n : Nat) :
    index.resolve n = .other ∨ ∃ interval ∈ index.intervals, index.resolve n = interval.id := by
  unfold resolve
  split
  next interval h =>
    split
    · exact .inr ⟨interval, lastAtMost?_mem h, rfl⟩
    · exact .inl rfl
  next => exact .inl rfl

/-- A code point is of no class, or of one that is not built in. -/
theorem resolve_of_build {records : List CharClass} {index : ClassIndex}
    (h : build records = .ok index) (n : Nat) :
    index.resolve n = .other ∨ (index.resolve n).isBuiltIn = false := by
  obtain ⟨collected, hfront, rfl⟩ := exists_collected_of_build h
  rcases resolve_eq_other_or_mem (ofCollected collected) n with hother | ⟨interval, hmem, heq⟩
  · exact .inl hother
  · rw [heq]
    exact .inr (isBuiltIn_of_mem_intervalsOf hfront (mem_intervals_ofCollected.mp hmem))

/-- Nothing resolves to the edges of the text or to the wildcard. -/
theorem resolve_ne_of_build {records : List CharClass} {index : ClassIndex}
    (h : build records = .ok index) (n : Nat) :
    index.resolve n ≠ .start ∧ index.resolve n ≠ .stop ∧ index.resolve n ≠ .any := by
  rcases resolve_of_build h n with hother | hnot
  · rw [hother]
    decide
  · refine ⟨?_, ?_, ?_⟩ <;> intro heq <;> rw [heq] at hnot <;> revert hnot <;> decide

/-- The classes that no character is of: the edges of the text and the wildcard. -/
theorem classOf_ne_of_build {records : List CharClass} {index : ClassIndex}
    (h : build records = .ok index) (c : Char) :
    index.classOf c ≠ .start ∧ index.classOf c ≠ .stop ∧ index.classOf c ≠ .any :=
  resolve_ne_of_build h c.toNat

end ClassIndex
end BoundaryRules
