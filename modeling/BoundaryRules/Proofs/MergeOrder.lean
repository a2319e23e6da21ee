import BoundaryRules.Proofs.Merging
import Mathlib.Data.List.Induction

/-! What merging makes of records: one class for each name, in the order in which the names first
appear, with the ranges of all records of the name in their order. -/
namespace BoundaryRules

namespace CharClass

variable {classes records : List CharClass} {cls record : CharClass}

/-- The ranges of all records of a name, in order. -/
def rangesOf (records : List CharClass) (name : String) : List CodepointRange :=
  (records.filter (·.name = name)).flatMap (·.ranges)

theorem rangesOf_append_singleton (records : List CharClass) (record : CharClass) (name : String) :
    rangesOf (records ++ [record]) name =
      rangesOf records name ++ if record.name = name then record.ranges else [] := by
  rw [rangesOf, List.filter_append, List.flatMap_append, rangesOf]
  by_cases h : record.name = name <;> simp [h]

theorem rangesOf_of_not_mem {name : String} (h : name ∉ names records) :
    rangesOf records name = [] := by
  have hnone : records.filter (·.name = name) = [] := by
    rw [List.filter_eq_nil_iff]
    intro cls hcls heq
    exact h (List.mem_map.mpr ⟨cls, hcls, of_decide_eq_true heq⟩)
  rw [rangesOf, hnone, List.flatMap_nil]

/-- A name that appears once more does not change the order of first appearance. -/
theorem eraseDups_append_singleton (known : List String) (name : String) :
    (known ++ [name]).eraseDups =
      if name ∈ known then known.eraseDups else known.eraseDups ++ [name] := by
  rw [List.eraseDups_append]
  by_cases h : name ∈ known <;> simp [List.removeAll, List.eraseDups_cons, h]

theorem mergeByName_append_singleton (records : List CharClass) (record : CharClass) :
    mergeByName (records ++ [record]) = mergeInto (mergeByName records) record := by
  rw [mergeByName, List.foldl_append]
  rfl

theorem names_append_singleton (records : List CharClass) (record : CharClass) :
    names (records ++ [record]) = names records ++ [record.name] := by
  rw [names, List.map_append]
  rfl

theorem names_mergeByName (records : List CharClass) :
    names (mergeByName records) = (names records).eraseDups := by
  induction records using List.reverseRecOn with
  | nil => rfl
  | append_singleton records record ih =>
    rw [mergeByName_append_singleton, names_mergeInto, ih, names_append_singleton,
      eraseDups_append_singleton]
    simp only [List.mem_eraseDups]

theorem nodup_names_mergeByName (records : List CharClass) : (names (mergeByName records)).Nodup :=
  nodup_names_foldl_mergeInto List.nodup_nil

/-- Behind a record there are the classes of other names as before, and one of its own name. -/
theorem of_mem_mergeInto (hnodup : (names classes).Nodup) (h : cls ∈ mergeInto classes record) :
    cls ∈ classes ∧ cls.name ≠ record.name ∨ cls = record ∧ record.name ∉ names classes ∨
      ∃ former ∈ classes, former.name = record.name ∧ cls = former.absorb record := by
  induction classes with
  | nil => exact .inr (.inl ⟨List.mem_singleton.mp h, List.not_mem_nil⟩)
  | cons first classes ih =>
    rw [names_cons, List.nodup_cons] at hnodup
    rw [mergeInto_cons] at h
    split at h
    next hname =>
      rcases List.mem_cons.mp h with rfl | hcls
      · exact .inr (.inr ⟨first, List.mem_cons_self, hname, rfl⟩)
      · refine .inl ⟨List.mem_cons_of_mem _ hcls, fun heq => hnodup.1 ?_⟩
        rw [hname, ← heq]
        exact List.mem_map_of_mem hcls
    next hname =>
      rcases List.mem_cons.mp h with rfl | hcls
      · exact .inl ⟨List.mem_cons_self, hname⟩
      · rcases ih hnodup.2 hcls with ⟨hmem, hne⟩ | ⟨rfl, hnot⟩ | ⟨former, hmem, heq, rfl⟩
        · exact .inl ⟨List.mem_cons_of_mem _ hmem, hne⟩
        · exact .inr (.inl ⟨rfl, by simp [hnot, Ne.symm hname]⟩)
        · exact .inr (.inr ⟨former, List.mem_cons_of_mem _ hmem, heq, rfl⟩)

/-- A class has the ranges of all records of its name. -/
theorem ranges_of_mem_mergeByName (h : cls ∈ mergeByName records) :
    cls.ranges = rangesOf records cls.name := by
  induction records using List.reverseRecOn generalizing cls with
  | nil => cases h
  | append_singleton records record ih =>
    rw [mergeByName_append_singleton] at h
    rw [rangesOf_append_singleton]
    rcases of_mem_mergeInto (nodup_names_mergeByName records) h with
      ⟨hmem, hne⟩ | ⟨rfl, hnew⟩ | ⟨former, hmem, heq, rfl⟩
    · rw [if_neg (Ne.symm hne), List.append_nil, ih hmem]
    · rw [names_mergeByName, List.mem_eraseDups] at hnew
      rw [if_pos rfl, rangesOf_of_not_mem hnew, List.nil_append]
    · rw [name_absorb, if_pos heq.symm, ← ih hmem]
      rfl

example : mergeByName [⟨"A", [.single 3]⟩, ⟨"B", []⟩, ⟨"A", [.single 1]⟩] =
    [⟨"A", [.single 3, .single 1]⟩, ⟨"B", []⟩] := by decide

end CharClass

namespace ClassIndex

open CharClass (mergeByName names rangesOf)

/-- Records may be merged before they are indexed. -/
theorem build_of_merged (records : List CharClass) :
    (names (mergeByName records)).Nodup ∧
      names (mergeByName records) = (names records).eraseDups ∧
      (∀ cls ∈ mergeByName records, cls.ranges = rangesOf records cls.name) ∧
      build (mergeByName records) = build records :=
  ⟨CharClass.nodup_names_mergeByName records, CharClass.names_mergeByName records,
    fun _ => CharClass.ranges_of_mem_mergeByName, build_mergeByName records⟩

end ClassIndex

end BoundaryRules
