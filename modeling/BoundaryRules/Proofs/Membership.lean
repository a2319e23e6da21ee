import BoundaryRules.Proofs.LinearScan
import BoundaryRules.Proofs.Merging

/-! Resolution against membership. Bisection looks at one range only, so a code point of a class is
missed where a shorter range of that class stands in front of the one it is in. -/
namespace BoundaryRules

/-- No code point is in two records of different names. -/
def CharClass.Separate (records : List CharClass) : Prop :=
  ∀ a ∈ records, ∀ b ∈ records, a.name ≠ b.name →
    ∀ n, ¬ (a.contains n = true ∧ b.contains n = true)

namespace ClassIndex

variable {classes records : List CharClass} {cls : CharClass} {index : ClassIndex}
  {a b interval : Interval} {n i : Nat}

/-- The code point is of the class that contains it, and of none if no class does. -/
structure ResolvesToMember (index : ClassIndex) (n : Nat) : Prop where
  class_iff : ∀ id cls, index.class? id = some cls → id ≠ .other →
    (index.resolve n = id ↔ cls.contains n = true)
  other_iff : index.resolve n = .other ↔ ∀ cls ∈ index.classes, cls.contains n = false

/-- A range contains the code point, but behind all that do, in the order of their starts and then
of definition, comes one that ends before it. -/
def Hidden (classes : List CharClass) (n : Nat) : Prop :=
  (∃ outer ∈ intervalsOf classes, outer.range.contains n = true) ∧
    ∃ inner ∈ (intervalsOf classes).zipIdx, inner.1.range.last < n ∧
      ∀ outer ∈ (intervalsOf classes).zipIdx, outer.1.range.contains n = true →
        outer.1.range.first < inner.1.range.first ∨
          outer.1.range.first = inner.1.range.first ∧ outer.2 < inner.2

instance (classes : List CharClass) (n : Nat) : Decidable (Hidden classes n) :=
  inferInstanceAs (Decidable (_ ∧ _))

theorem contains_iff {range : CodepointRange} :
    range.contains n = true ↔ range.first ≤ n ∧ n ≤ range.last := by
  rw [CodepointRange.contains, Bool.and_eq_true, decide_eq_true_eq, decide_eq_true_eq]

/-- A class contains what its ranges in the index do. -/
theorem contains_iff_exists_interval (h : classes[i]? = some cls) :
    cls.contains n = true ↔
      ∃ interval ∈ intervalsOf classes, interval.id = ⟨i⟩ ∧ interval.range.contains n = true := by
  rw [CharClass.contains, List.any_eq_true]
  constructor
  · rintro ⟨range, hrange, hcontains⟩
    exact ⟨⟨range, ⟨i⟩⟩, mem_intervalsOf.mpr ⟨cls, h, hrange⟩, rfl, hcontains⟩
  · rintro ⟨⟨range, -⟩, hmem, rfl, hcontains⟩
    obtain ⟨other, hother, hrange⟩ := mem_intervalsOf.mp hmem
    obtain rfl := Option.some.inj (h.symm.trans hother)
    exact ⟨range, hrange, hcontains⟩

theorem covers_of_mem_intervalsOf (hmem : a ∈ intervalsOf classes)
    (hcontains : a.range.contains n = true) :
    ∃ cls, classes[a.id.index]? = some cls ∧ CharClass.Covers classes cls.name n := by
  obtain ⟨cls, hcls, hrange⟩ := mem_intervalsOf.mp hmem
  refine ⟨cls, hcls, cls, List.mem_of_getElem? hcls, rfl, ?_⟩
  exact List.any_eq_true.mpr ⟨a.range, hrange, hcontains⟩

theorem not_covers_builtIns (name : String) (n : Nat) : ¬ CharClass.Covers builtIns name n := by
  rintro ⟨cls, hcls, -, hcontains⟩
  rw [CharClass.contains, ranges_of_mem_builtIns hcls] at hcontains
  exact Bool.false_ne_true hcontains

theorem nodup_names_builtIns : (CharClass.names builtIns).Nodup := by decide +kernel

section Merged

variable (hclasses : classes = records.foldl CharClass.mergeInto builtIns)
include hclasses

/-- Nothing is covered but by a record. -/
theorem covers_iff_of_merged {name : String} :
    CharClass.Covers classes name n ↔ CharClass.Covers records name n := by
  rw [hclasses, CharClass.covers_foldl_mergeInto]
  exact or_iff_right (not_covers_builtIns name n)

/-- A name has one position only. -/
theorem index_eq_of_name_eq {i j : Nat} {clsA clsB : CharClass} (hA : classes[i]? = some clsA)
    (hB : classes[j]? = some clsB) (hname : clsA.name = clsB.name) : i = j := by
  have hnodup : (CharClass.names classes).Nodup :=
    hclasses ▸ CharClass.nodup_names_foldl_mergeInto nodup_names_builtIns
  obtain ⟨hlt, -⟩ := List.getElem?_eq_some_iff.mp hA
  have hat : (CharClass.names classes)[i]? = (CharClass.names classes)[j]? := by
    rw [CharClass.names, List.getElem?_map, List.getElem?_map, hA, hB, Option.map_some,
      Option.map_some, hname]
  exact (List.getElem?_inj (by rwa [CharClass.length_names]) hnodup).mp hat

end Merged

/-- Ranges that share a code point are of one class. -/
theorem id_eq_of_separate (hseparate : CharClass.Separate records)
    (hclasses : classes = records.foldl CharClass.mergeInto builtIns)
    (ha : a ∈ intervalsOf classes) (hb : b ∈ intervalsOf classes)
    (hna : a.range.contains n = true) (hnb : b.range.contains n = true) : a.id = b.id := by
  obtain ⟨clsA, hclsA, hcoversA⟩ := covers_of_mem_intervalsOf ha hna
  obtain ⟨clsB, hclsB, hcoversB⟩ := covers_of_mem_intervalsOf hb hnb
  have hname : clsA.name = clsB.name := by
    by_contra hne
    obtain ⟨recordA, hmemA, hnameA, hinA⟩ := (covers_iff_of_merged hclasses).mp hcoversA
    obtain ⟨recordB, hmemB, hnameB, hinB⟩ := (covers_iff_of_merged hclasses).mp hcoversB
    exact hseparate recordA hmemA recordB hmemB (by rwa [hnameA, hnameB]) n ⟨hinA, hinB⟩
  exact congrArg ClassId.mk (index_eq_of_name_eq hclasses hclsA hclsB hname)

/-- Where no range contains the code point, only the resolution to no class is right. -/
theorem resolvesToMember_of_uncovered (hother : (ofCollected classes).resolve n = .other)
    (huncovered : ∀ interval ∈ intervalsOf classes, interval.range.contains n = false) :
    (ofCollected classes).ResolvesToMember n := by
  have hnot : ∀ (i : Nat) cls, classes[i]? = some cls → cls.contains n = false := by
    intro i cls hcls
    rw [Bool.eq_false_iff, Ne, contains_iff_exists_interval hcls]
    rintro ⟨interval, hmem, -, hcontains⟩
    rw [huncovered interval hmem] at hcontains
    exact Bool.false_ne_true hcontains
  constructor
  · intro id cls hcls hne
    rw [hother, hnot id.index cls hcls]
    exact iff_of_false (Ne.symm hne) Bool.false_ne_true
  · refine iff_of_true hother ?_
    intro cls hmem
    obtain ⟨i, hcls⟩ := List.getElem?_of_mem hmem
    exact hnot i cls hcls

/-- Where the latest range contains the code point, its class is the one that does. -/
theorem resolvesToMember_of_covered
    (hid : ∀ a ∈ intervalsOf classes, ∀ b ∈ intervalsOf classes,
      a.range.contains n = true → b.range.contains n = true → a.id = b.id)
    (hmem : interval ∈ intervalsOf classes) (hcontains : interval.range.contains n = true)
    (hresolve : (ofCollected classes).resolve n = interval.id) (hother : interval.id ≠ .other) :
    (ofCollected classes).ResolvesToMember n := by
  constructor
  · intro id cls hcls _
    rw [hresolve, contains_iff_exists_interval hcls]
    constructor
    · rintro rfl
      exact ⟨interval, hmem, rfl, hcontains⟩
    · rintro ⟨member, hmember, hid', hin⟩
      exact (hid interval hmem member hmember hcontains hin).trans hid'
  · rw [hresolve]
    refine iff_of_false hother ?_
    intro hall
    obtain ⟨cls, hcls, hrange⟩ := mem_intervalsOf.mp hmem
    have hin : cls.contains n = true := List.any_eq_true.mpr ⟨interval.range, hrange, hcontains⟩
    rw [hall cls (List.mem_of_getElem? hcls)] at hin
    exact Bool.false_ne_true hin

/-- The latest range ends before a hidden code point. -/
theorem last_lt_of_hidden (h : Latest (·.range.first) (intervalsOf classes) n i interval)
    (hhidden : Hidden classes n) : interval.range.last < n := by
  obtain ⟨-, ⟨inner, j⟩, hinner, hlast, hbehind⟩ := hhidden
  apply Nat.lt_of_not_le
  intro hle
  have hmem := List.mk_mem_zipIdx_iff_getElem?.mpr h.at_index
  have horder := hbehind (interval, i) hmem (contains_iff.mpr ⟨h.key_le, hle⟩)
  have hfirst : inner.range.first ≤ n :=
    Nat.le_trans inner.range.first_le_last (Nat.le_of_lt hlast)
  have hgreatest := h.greatest j inner (List.mk_mem_zipIdx_iff_getElem?.mp hinner) hfirst
  dsimp only at horder hgreatest
  omega

/-- A covered code point is hidden if the latest range ends before it. -/
theorem hidden_of_latest (h : Latest (·.range.first) (intervalsOf classes) n i interval)
    (hlast : interval.range.last < n) {outer : Interval} (houter : outer ∈ intervalsOf classes)
    (hcontains : outer.range.contains n = true) : Hidden classes n := by
  refine ⟨⟨outer, houter, hcontains⟩, (interval, i),
    List.mk_mem_zipIdx_iff_getElem?.mpr h.at_index, hlast, ?_⟩
  rintro ⟨other, j⟩ hother hin
  have hat := List.mk_mem_zipIdx_iff_getElem?.mp hother
  obtain ⟨hfirst, hinside⟩ := contains_iff.mp hin
  rcases h.greatest j other hat hfirst with hlt | ⟨heq, hle⟩
  · exact .inl hlt
  · refine .inr ⟨heq, Nat.lt_of_le_of_ne hle ?_⟩
    rintro rfl
    obtain rfl := Option.some.inj (hat.symm.trans h.at_index)
    exact absurd hinside (Nat.not_le_of_lt hlast)

/-- Resolution agrees with membership at exactly the code points that are not hidden, if classes
do not share code points. -/
theorem resolvesToMember_iff (hindex : build records = .ok index)
    (hseparate : CharClass.Separate records) (n : Nat) :
    index.ResolvesToMember n ↔ ¬ Hidden index.classes n := by
  obtain ⟨classes, hfront, rfl⟩ := exists_collected_of_build hindex
  have hclasses : classes = records.foldl CharClass.mergeInto builtIns :=
    congrArg ClassIndex.classes (eq_of_build hindex)
  have hother : ∀ interval ∈ intervalsOf classes, interval.id ≠ .other := by
    intro interval hmem heq
    have hnot := isBuiltIn_of_mem_intervalsOf hfront hmem
    rw [heq] at hnot
    exact absurd hnot (by decide)
  change _ ↔ ¬ Hidden classes n
  rcases exists_latest_or classes n with ⟨i, latest, hlatest⟩ | ⟨hnone, hresolve⟩
  · have hmem := List.mem_of_getElem? hlatest.at_index
    have hresolve := resolve_of_latest hlatest
    by_cases hle : n ≤ latest.range.last
    · rw [if_pos hle] at hresolve
      have hcontains := contains_iff.mpr ⟨hlatest.key_le, hle⟩
      refine iff_of_true ?_ fun hhidden => ?_
      · apply resolvesToMember_of_covered _ hmem hcontains hresolve (hother latest hmem)
        intro a ha b hb
        exact id_eq_of_separate hseparate hclasses ha hb
      · exact absurd (last_lt_of_hidden hlatest hhidden) (Nat.not_lt_of_le hle)
    · rw [if_neg hle] at hresolve
      constructor
      · rintro hmember ⟨⟨outer, houter, hcontains⟩, -⟩
        obtain ⟨cls, hcls, -⟩ := mem_intervalsOf.mp houter
        have hclass := (hmember.class_iff outer.id cls hcls (hother outer houter)).mpr
          ((contains_iff_exists_interval hcls).mpr ⟨outer, houter, rfl, hcontains⟩)
        exact hother outer houter (hclass.symm.trans hresolve)
      · intro hnot
        apply resolvesToMember_of_uncovered hresolve
        intro outer houter
        rw [Bool.eq_false_iff]
        exact fun hcontains =>
          hnot (hidden_of_latest hlatest (Nat.lt_of_not_le hle) houter hcontains)
  · have huncovered : ∀ interval ∈ intervalsOf classes, interval.range.contains n = false := by
      intro interval hmem
      rw [Bool.eq_false_iff, Ne, contains_iff]
      exact fun hcontains => absurd hcontains.1 (Nat.not_le_of_lt (hnone interval hmem))
    refine iff_of_true (resolvesToMember_of_uncovered hresolve huncovered) ?_
    rintro ⟨⟨outer, houter, hcontains⟩, -⟩
    rw [huncovered outer houter] at hcontains
    exact Bool.false_ne_true hcontains

end ClassIndex

/-! Records of one class, the range of the second inside that of the first. -/
namespace Nesting

def outer : CharClass := ⟨"A", [⟨0, 10, by decide⟩]⟩
def inner : CharClass := ⟨"A", [⟨2, 3, by decide⟩]⟩
def digits : CharClass := ⟨"B", [⟨48, 57, by decide⟩]⟩

/-- Inside the inner range the class is found, and behind it it is not. -/
theorem resolvesToMember_of_nested :
    ∃ index, ClassIndex.build [outer, inner, digits] = .ok index ∧
      CharClass.Separate [outer, inner, digits] ∧ index.ResolvesToMember 3 ∧
      ¬ index.ResolvesToMember 5 := by
  have hindex : ClassIndex.build [outer, inner, digits] =
      .ok (.ofCollected (ClassIndex.builtIns ++ [outer.absorb inner, digits])) := by
    decide +kernel
  have hseparate : CharClass.Separate [outer, inner, digits] := by
    intro a ha b hb hne n ⟨hna, hnb⟩
    simp only [List.mem_cons, List.not_mem_nil, or_false] at ha hb
    rcases ha with rfl | rfl | rfl <;> rcases hb with rfl | rfl | rfl
    all_goals try exact absurd rfl hne
    all_goals
      simp only [outer, inner, digits, CharClass.contains, List.any_cons, List.any_nil,
        Bool.or_false, ClassIndex.contains_iff] at hna hnb
      omega
  refine ⟨_, hindex, hseparate, ?_, ?_⟩ <;>
    rw [ClassIndex.resolvesToMember_iff hindex hseparate] <;> decide +kernel

/-- The code point is contained in the class, and found in none. -/
theorem resolve_of_hidden :
    ∃ index cls, ClassIndex.build [outer, inner] = .ok index ∧
      CharClass.Separate [outer, inner] ∧ index.class? ⟨4⟩ = some cls ∧
      cls.contains 5 = true ∧ index.resolve 5 = .other := by
  refine ⟨.ofCollected (ClassIndex.builtIns ++ [outer.absorb inner]), outer.absorb inner,
    ?_, ?_, ?_, ?_, ?_⟩
  · decide +kernel
  · intro a ha b hb hne
    simp only [List.mem_cons, List.not_mem_nil, or_false] at ha hb
    rcases ha with rfl | rfl <;> rcases hb with rfl | rfl <;> exact absurd rfl hne
  · rfl
  · decide
  · decide +kernel

end Nesting
end BoundaryRules
