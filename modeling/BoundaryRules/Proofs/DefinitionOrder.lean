import BoundaryRules.Proofs.LinearScan
import BoundaryRules.Proofs.Merging

/-! Resolution read off the classes as they were defined. Of the ranges that start at or before a
code point the one that starts last decides, and of several with that start the last defined. -/
namespace BoundaryRules

/-- `range` is in position `j` among the ranges of class `i`. -/
def CharClass.RangeAt (classes : List CharClass) (i j : Nat) (range : CodepointRange) : Prop :=
  ∃ cls, classes[i]? = some cls ∧ cls.ranges[j]? = some range

namespace ClassIndex

open CharClass (RangeAt)

/-- The range in position `j` of class `i` starts at or before the code point. All others that do
start before it, or start there too and are defined earlier: in an earlier class, or in an earlier
position of the same class. -/
structure Decides (classes : List CharClass) (n i j : Nat) (range : CodepointRange) : Prop where
  at_place : RangeAt classes i j range
  first_le : range.first ≤ n
  greatest : ∀ i' j' other, RangeAt classes i' j' other → other.first ≤ n →
    other.first < range.first ∨ other.first = range.first ∧ (i' < i ∨ i' = i ∧ j' ≤ j)

/-- What a scan of all ranges in the order of definition finds for a code point: the class of the
range that decides, if that range reaches the code point. -/
inductive ScansTo (classes : List CharClass) (n : Nat) : ClassId → Prop where
  | reached {i j : Nat} {range : CodepointRange} (decides : Decides classes n i j range)
    (le_last : n ≤ range.last) : ScansTo classes n ⟨i⟩
  | passed {i j : Nat} {range : CodepointRange} (decides : Decides classes n i j range)
    (last_lt : range.last < n) : ScansTo classes n .other
  | ahead (lt_first : ∀ i j range, RangeAt classes i j range → n < range.first) :
    ScansTo classes n .other

variable {classes records : List CharClass} {index : ClassIndex} {interval : Interval}
  {range range' : CodepointRange} {id id' : ClassId} {n i i' j j' k : Nat}

theorem Decides.unique (h : Decides classes n i j range) (h' : Decides classes n i' j' range') :
    i = i' ∧ range = range' := by
  have hle := h.greatest i' j' range' h'.at_place h'.first_le
  have hle' := h'.greatest i j range h.at_place h.first_le
  obtain rfl : i = i' := by omega
  obtain rfl : j = j' := by omega
  obtain ⟨cls, hcls, hrange⟩ := h.at_place
  obtain ⟨cls', hcls', hrange'⟩ := h'.at_place
  obtain rfl := Option.some.inj (hcls.symm.trans hcls')
  exact ⟨rfl, Option.some.inj (hrange.symm.trans hrange')⟩

theorem Decides.not_all_ahead (h : Decides classes n i j range) :
    ¬ ∀ i' j' other, RangeAt classes i' j' other → n < other.first := by
  intro hahead
  exact Nat.not_lt_of_le h.first_le (hahead i j range h.at_place)

/-- A scan finds one class only. -/
theorem ScansTo.unique (h : ScansTo classes n id) (h' : ScansTo classes n id') : id = id' := by
  cases h with
  | reached hdecides hle => cases h' with
    | reached hdecides' => rw [(hdecides.unique hdecides').1]
    | passed hdecides' hlt =>
      rw [← (hdecides.unique hdecides').2] at hlt
      exact absurd hle (Nat.not_le_of_lt hlt)
    | ahead hahead => exact absurd hahead hdecides.not_all_ahead
  | passed hdecides hlt => cases h' with
    | reached hdecides' hle =>
      rw [← (hdecides.unique hdecides').2] at hle
      exact absurd hle (Nat.not_le_of_lt hlt)
    | passed => rfl
    | ahead => rfl
  | ahead hahead => cases h' with
    | reached hdecides' => exact absurd hahead hdecides'.not_all_ahead
    | passed => rfl
    | ahead => rfl

/-- The ranges of all classes in the order of definition, each with its position in its class. -/
def placed (classes : List CharClass) : List (Interval × Nat) :=
  classes.zipIdx.flatMap fun (cls, i) => cls.ranges.zipIdx.map fun (range, j) => (⟨range, ⟨i⟩⟩, j)

theorem map_fst_placed (classes : List CharClass) :
    (placed classes).map Prod.fst = intervalsOf classes := by
  simp only [placed, intervalsOf, List.map_flatMap, List.map_map]
  congr 1
  funext place
  obtain ⟨cls, i⟩ := place
  conv_rhs => rw [← List.zipIdx_map_fst 0 cls.ranges, List.map_map]
  rfl

theorem mem_placed :
    (interval, j) ∈ placed classes ↔ RangeAt classes interval.id.index j interval.range := by
  simp only [placed, List.mem_flatMap, List.mem_map, Prod.exists, List.mk_mem_zipIdx_iff_getElem?]
  constructor
  · rintro ⟨cls, i, hcls, range, k, hrange, heq⟩
    obtain ⟨rfl, rfl⟩ := Prod.mk.inj heq
    exact ⟨cls, hcls, hrange⟩
  · rintro ⟨cls, hcls, hrange⟩
    exact ⟨cls, _, hcls, _, _, hrange, rfl⟩

/-- Places go up, first by the class and then by the position in it. -/
theorem pairwise_placed (classes : List CharClass) :
    (placed classes).Pairwise fun a b =>
      a.1.id.index < b.1.id.index ∨ a.1.id.index = b.1.id.index ∧ a.2 < b.2 := by
  rw [placed, List.pairwise_flatMap]
  constructor
  · rintro ⟨cls, i⟩ -
    rw [List.pairwise_map]
    exact (pairwise_snd_zipIdx cls.ranges).imp fun hlt => .inr ⟨rfl, hlt⟩
  · refine (pairwise_snd_zipIdx classes).imp ?_
    rintro ⟨cls, i⟩ ⟨cls', i'⟩ hlt a ha b hb
    obtain ⟨-, -, rfl⟩ := List.mem_map.mp ha
    obtain ⟨-, -, rfl⟩ := List.mem_map.mp hb
    exact .inl hlt

/-- The range that bisection finds decides. -/
theorem exists_decides_of_latest (h : Latest (·.range.first) (intervalsOf classes) n k interval) :
    ∃ j, Decides classes n interval.id.index j interval.range := by
  have hplace : ∀ {l : Nat} {a : Interval}, (intervalsOf classes)[l]? = some a ↔
      ∃ j, (placed classes)[l]? = some (a, j) := by
    intro l a
    rw [← map_fst_placed, List.getElem?_map, Option.map_eq_some_iff]
    simp
  obtain ⟨j, hj⟩ := hplace.mp h.at_index
  refine ⟨j, mem_placed.mp (List.mem_of_getElem? hj), h.key_le, ?_⟩
  intro i' j' other hother hle
  have hmem : ((⟨other, ⟨i'⟩⟩ : Interval), j') ∈ placed classes := mem_placed.mpr hother
  obtain ⟨l, hl⟩ := List.getElem?_of_mem hmem
  rcases h.greatest l ⟨other, ⟨i'⟩⟩ (hplace.mpr ⟨j', hl⟩) hle with hlt | ⟨heq, hlk⟩
  · exact .inl hlt
  · refine .inr ⟨heq, ?_⟩
    rcases eq_or_rel_of_pairwise (pairwise_placed classes) hl hj hlk with hsame | horder
    · obtain ⟨rfl, rfl⟩ := Prod.mk.inj hsame
      exact .inr ⟨rfl, Nat.le_refl _⟩
    · exact horder.imp id fun h => ⟨h.1, Nat.le_of_lt h.2⟩

theorem scansTo_resolve (classes : List CharClass) (n : Nat) :
    ScansTo classes n ((ofCollected classes).resolve n) := by
  rcases exists_latest_or classes n with ⟨k, interval, hlatest⟩ | ⟨hahead, hother⟩
  · obtain ⟨j, hdecides⟩ := exists_decides_of_latest hlatest
    rw [resolve_of_latest hlatest]
    split
    · next hle => exact .reached hdecides hle
    · next hlt => exact .passed hdecides (Nat.lt_of_not_le hlt)
  · rw [hother]
    refine .ahead fun i j range hrange => ?_
    obtain ⟨cls, hcls, hmem⟩ := hrange
    exact hahead ⟨range, ⟨i⟩⟩ (mem_intervalsOf.mpr ⟨cls, hcls, List.mem_of_getElem? hmem⟩)

/-- A code point resolves to what a scan of all ranges finds, and so to no edge of the text and not
to the wildcard. -/
theorem resolve_eq_iff_scansTo (hindex : build records = .ok index) (n : Nat) :
    (∀ id, index.resolve n = id ↔ ScansTo (builtIns ++ CharClass.mergeByName records) n id) ∧
      index.resolve n ≠ .start ∧ index.resolve n ≠ .stop ∧ index.resolve n ≠ .any := by
  have hclasses := classes_of_build hindex
  have hscan : ScansTo (builtIns ++ CharClass.mergeByName records) n (index.resolve n) := by
    obtain ⟨collected, -, rfl⟩ := exists_collected_of_build hindex
    rw [← hclasses]
    exact scansTo_resolve collected n
  exact ⟨fun id => ⟨fun heq => heq ▸ hscan, hscan.unique⟩, resolve_ne_of_build hindex n⟩

end ClassIndex

/-! Classes whose ranges overlap, one of them in two records. -/
namespace Overlapping

def records : List CharClass :=
  [⟨"A", [⟨10, 30, by decide⟩]⟩, ⟨"B", [⟨10, 20, by decide⟩, ⟨15, 16, by decide⟩]⟩,
    ⟨"A", [⟨12, 13, by decide⟩]⟩]

/-- Of two ranges with one start the later one decides, and the later start decides even where its
range has ended. -/
theorem scansTo_of_overlapping :
    ∃ index, ClassIndex.build records = .ok index ∧
      ClassIndex.ScansTo (ClassIndex.builtIns ++ CharClass.mergeByName records) 11 ⟨5⟩ ∧
      ClassIndex.ScansTo (ClassIndex.builtIns ++ CharClass.mergeByName records) 18 .other := by
  have hindex : ClassIndex.build records =
      .ok (.ofCollected (ClassIndex.builtIns ++ CharClass.mergeByName records)) := by
    decide +kernel
  exact ⟨_, hindex,
    ((ClassIndex.resolve_eq_iff_scansTo hindex 11).1 ⟨5⟩).mp (by decide +kernel),
    ((ClassIndex.resolve_eq_iff_scansTo hindex 18).1 .other).mp (by decide +kernel)⟩

end Overlapping
end BoundaryRules
