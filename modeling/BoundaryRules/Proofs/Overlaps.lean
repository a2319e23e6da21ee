import BoundaryRules.Proofs.Membership

/-! The overlaps that an index reports. All of them are there, but since only neighbours in the
table of ranges are compared, one may be missed behind a shorter range of the same class. -/
namespace BoundaryRules

/-- The two classes have different names, and records of both contain the code point. -/
structure Overlap.Holds (records : List CharClass) (overlap : Overlap) : Prop where
  former_ne_latter : overlap.former ≠ overlap.latter
  former : CharClass.Covers records overlap.former overlap.codepoint
  latter : CharClass.Covers records overlap.latter overlap.codepoint

namespace ClassIndex

/-- `b` starts in `a`, which comes before it in the order of starts and then of definition and is a
range of another class. -/
structure Clash (a b : Interval × Nat) : Prop where
  before : Before (·.range.first) a b
  le_last : b.1.range.first ≤ a.1.range.last
  id_ne : b.1.id ≠ a.1.id

instance (a b : Interval × Nat) : Decidable (Clash a b) :=
  decidable_of_iff (Before (·.range.first) a b ∧ b.1.range.first ≤ a.1.range.last ∧ b.1.id ≠ a.1.id)
    ⟨fun ⟨h₁, h₂, h₃⟩ => ⟨h₁, h₂, h₃⟩, fun ⟨h₁, h₂, h₃⟩ => ⟨h₁, h₂, h₃⟩⟩

/-- Between `a` and `b` comes a range of the class of `a` that ends before `b` starts. -/
def Screened (ranges : List (Interval × Nat)) (a b : Interval × Nat) : Prop :=
  ∃ c ∈ ranges, Before (·.range.first) a c ∧ Before (·.range.first) c b ∧
    c.1.id = a.1.id ∧ c.1.range.last < b.1.range.first

instance (ranges : List (Interval × Nat)) (a b : Interval × Nat) :
    Decidable (Screened ranges a b) :=
  inferInstanceAs (Decidable (∃ c ∈ ranges, _))

/-- Some ranges of different classes share a code point, and all that do are screened. -/
def Unreported (classes : List CharClass) : Prop :=
  (∃ a ∈ (intervalsOf classes).zipIdx, ∃ b ∈ (intervalsOf classes).zipIdx, Clash a b) ∧
    ∀ a ∈ (intervalsOf classes).zipIdx, ∀ b ∈ (intervalsOf classes).zipIdx, Clash a b →
      Screened (intervalsOf classes).zipIdx a b

instance (classes : List CharClass) : Decidable (Unreported classes) :=
  inferInstanceAs (Decidable (_ ∧ _))

variable {classes records : List CharClass} {index : ClassIndex} {overlap : Overlap}
  {table : List (Interval × Nat)} {intervals : List Interval} {a b : Interval} {n : Nat}

section Neighbours

/-- Nothing is reported if no neighbours clash. -/
theorem overlapsOf_map_eq_nil_iff (sorted : table.Pairwise (Before (·.range.first))) :
    index.overlapsOf (table.map Prod.fst) = [] ↔ table.IsChain fun a b => ¬ Clash a b := by
  induction table with
  | nil => simp [overlapsOf]
  | cons a table ih =>
    obtain ⟨ha, hsorted⟩ := List.pairwise_cons.mp sorted
    cases table with
    | nil => simp [overlapsOf]
    | cons b table =>
      have hclash : Clash a b ↔ b.1.range.first ≤ a.1.range.last ∧ b.1.id ≠ a.1.id :=
        ⟨fun h => ⟨h.le_last, h.id_ne⟩, fun h => ⟨ha b List.mem_cons_self, h.1, h.2⟩⟩
      rw [List.isChain_cons_cons, ← ih hsorted, hclash, List.map_cons, List.map_cons, overlapsOf]
      split <;> simp_all

/-- What comes between ranges that clash starts in the first of them. So it clashes with that one,
or is of its class and ends before the second, or clashes with the second in its place. -/
theorem Clash.of_between {a b c : Interval × Nat} (h : Clash a b)
    (hac : Before (·.range.first) a c) (hcb : Before (·.range.first) c b) (hnot : ¬ Clash a c) :
    c.1.id = a.1.id ∧ (c.1.range.last < b.1.range.first ∨ Clash c b) := by
  have hstart : c.1.range.first ≤ b.1.range.first := hcb.key_le
  have hid : c.1.id = a.1.id := by
    by_contra hne
    exact hnot ⟨hac, Nat.le_trans hstart h.le_last, hne⟩
  refine ⟨hid, ?_⟩
  rcases Nat.lt_or_ge c.1.range.last b.1.range.first with hlt | hge
  · exact .inl hlt
  · exact .inr ⟨hcb, hge, hid ▸ h.id_ne⟩

/-- Of ranges none of which clashes with its neighbour all that clash are screened. -/
theorem screened_of_isChain (sorted : table.Pairwise (Before (·.range.first)))
    (chain : table.IsChain fun a b => ¬ Clash a b) :
    ∀ a ∈ table, ∀ b ∈ table, Clash a b → Screened table a b := by
  induction table with
  | nil => simp
  | cons x table ih =>
    obtain ⟨hx, hsorted⟩ := List.pairwise_cons.mp sorted
    intro a ha b hb hclash
    have hmem : b ∈ table := by
      refine (List.mem_cons.mp hb).resolve_left ?_
      rintro rfl
      rcases List.mem_cons.mp ha with rfl | ha
      · exact hclash.id_ne rfl
      · exact hclash.before.not_before (hx a ha)
    cases table with
    | nil => contradiction
    | cons y table =>
      obtain ⟨hnot, hchain⟩ := List.isChain_cons_cons.mp chain
      rcases List.mem_cons.mp ha with rfl | ha
      · have hay := hx y List.mem_cons_self
        have hyb : Before (·.range.first) y b := by
          refine (List.pairwise_cons.mp hsorted).1 b ((List.mem_cons.mp hmem).resolve_left ?_)
          rintro rfl
          exact hnot hclash
        obtain ⟨hid, hlt | hmore⟩ := hclash.of_between hay hyb hnot
        · exact ⟨y, by simp, hay, hyb, hid, hlt⟩
        · obtain ⟨c, hc, hyc, hcb, hcid, hclt⟩ :=
            ih hsorted hchain y List.mem_cons_self b hmem hmore
          exact ⟨c, List.mem_cons_of_mem _ hc, hay.trans hyc, hcb, hcid.trans hid, hclt⟩
      · obtain ⟨c, hc, hbetween⟩ := ih hsorted hchain a ha b hmem hclash
        exact ⟨c, List.mem_cons_of_mem _ hc, hbetween⟩

/-- Nothing comes between neighbours, so they clash only if no range need be screened. -/
theorem isChain_of_screened (sorted : table.Pairwise (Before (·.range.first)))
    (screened : ∀ a ∈ table, ∀ b ∈ table, Clash a b → Screened table a b) :
    table.IsChain fun a b => ¬ Clash a b := by
  rw [List.isChain_iff_getElem]
  intro i hi hclash
  obtain ⟨c, hc, hac, hcb, -⟩ := screened _ (List.getElem_mem _) _ (List.getElem_mem _) hclash
  obtain ⟨j, hj, rfl⟩ := List.mem_iff_getElem.mp hc
  have horder := List.pairwise_iff_getElem.mp sorted
  rcases Nat.lt_trichotomy j i with hlt | rfl | hgt
  · exact hac.not_before (horder j i hj (by omega) hlt)
  · exact hac.not_before hac
  · rcases Nat.eq_or_lt_of_le (Nat.succ_le_of_lt hgt) with rfl | hlt
    · exact hcb.not_before hcb
    · exact hcb.not_before (horder (i + 1) j hi hj hlt)

end Neighbours

/-- What is reported of two ranges of different classes is a code point in both of them. -/
theorem exists_pair_of_mem_overlapsOf
    (sorted : intervals.Pairwise fun a b => a.range.first ≤ b.range.first)
    (h : overlap ∈ index.overlapsOf intervals) :
    ∃ a ∈ intervals, ∃ b ∈ intervals, b.id ≠ a.id ∧ a.range.contains b.range.first = true ∧
      overlap = ⟨index.nameOf a.id, index.nameOf b.id, b.range.first⟩ := by
  induction intervals with
  | nil => simp [overlapsOf] at h
  | cons a intervals ih =>
    obtain ⟨ha, hsorted⟩ := List.pairwise_cons.mp sorted
    cases intervals with
    | nil => simp [overlapsOf] at h
    | cons b intervals =>
      have hlater : overlap ∈ index.overlapsOf (b :: intervals) → _ := ih hsorted
      rw [overlapsOf] at h
      split at h
      next hpair =>
        rcases List.mem_cons.mp h with rfl | h
        · refine ⟨a, by simp, b, by simp, hpair.2, ?_, rfl⟩
          exact contains_iff.mpr ⟨ha b List.mem_cons_self, hpair.1⟩
        · obtain ⟨c, hc, d, hd, hrest⟩ := hlater h
          exact ⟨c, List.mem_cons_of_mem _ hc, d, List.mem_cons_of_mem _ hd, hrest⟩
      next =>
        obtain ⟨c, hc, d, hd, hrest⟩ := hlater h
        exact ⟨c, List.mem_cons_of_mem _ hc, d, List.mem_cons_of_mem _ hd, hrest⟩

theorem toList_intervals (classes : List CharClass) :
    (ofCollected classes).intervals.toList =
      (tableWithPositions (·.range.first) (intervalsOf classes)).map Prod.fst :=
  (map_fst_tableWithPositions _ _).symm

/-- An overlap is reported just if ranges clash and no other screens them. -/
theorem overlaps_eq_nil_iff (classes : List CharClass) :
    (ofCollected classes).overlaps = [] ↔
      ∀ a ∈ (intervalsOf classes).zipIdx, ∀ b ∈ (intervalsOf classes).zipIdx, Clash a b →
        Screened (intervalsOf classes).zipIdx a b := by
  have hsorted := pairwise_tableWithPositions (·.range.first) (intervalsOf classes)
  have hmem : ∀ p, p ∈ tableWithPositions (·.range.first) (intervalsOf classes) ↔
      p ∈ (intervalsOf classes).zipIdx := fun p => (sortStable_perm _ _).mem_iff
  have hscreened : ∀ a b, Screened (tableWithPositions (·.range.first) (intervalsOf classes)) a b ↔
      Screened (intervalsOf classes).zipIdx a b := by
    intro a b
    simp only [Screened, hmem]
  rw [overlaps, toList_intervals, overlapsOf_map_eq_nil_iff hsorted]
  simp only [← hmem, ← hscreened]
  exact ⟨screened_of_isChain hsorted, isChain_of_screened hsorted⟩

/-- Ranges of different classes that share a code point clash, the one or the other first. -/
theorem clash_or_clash {i j : Nat} (ha : (intervalsOf classes)[i]? = some a)
    (hb : (intervalsOf classes)[j]? = some b) (hne : a.id ≠ b.id)
    (hna : a.range.contains n = true) (hnb : b.range.contains n = true) :
    Clash (a, i) (b, j) ∨ Clash (b, j) (a, i) := by
  rw [contains_iff] at hna hnb
  have hij : i ≠ j := by
    rintro rfl
    exact hne (congrArg Interval.id (Option.some.inj (ha.symm.trans hb)))
  by_cases hbefore : Before (·.range.first) (a, i) (b, j)
  · exact .inl ⟨hbefore, Nat.le_trans hnb.1 hna.2, Ne.symm hne⟩
  · refine .inr ⟨?_, Nat.le_trans hna.1 hnb.2, hne⟩
    simp only [Before] at hbefore ⊢
    omega

section Merged

variable (hclasses : classes = records.foldl CharClass.mergeInto builtIns)
include hclasses

/-- Code points of records are in ranges of the classes that have their names. -/
theorem exists_interval_of_covers {name : String} (h : CharClass.Covers records name n) :
    ∃ (i : Nat) (a : Interval) (cls : CharClass), (intervalsOf classes)[i]? = some a ∧
      a.range.contains n = true ∧ classes[a.id.index]? = some cls ∧ cls.name = name := by
  obtain ⟨cls, hcls, hname, hcontains⟩ := (covers_iff_of_merged hclasses).mpr h
  obtain ⟨k, hk⟩ := List.getElem?_of_mem hcls
  obtain ⟨a, ha, hid, hin⟩ := (contains_iff_exists_interval hk).mp hcontains
  obtain ⟨i, hi⟩ := List.getElem?_of_mem ha
  exact ⟨i, a, cls, hi, hin, by rwa [hid], hname⟩

/-- Ranges clash just if records of different names share a code point. -/
theorem exists_clash_iff :
    (∃ a ∈ (intervalsOf classes).zipIdx, ∃ b ∈ (intervalsOf classes).zipIdx, Clash a b) ↔
      ¬ CharClass.Separate records := by
  constructor
  · rintro ⟨⟨a, i⟩, ha, ⟨b, j⟩, hb, hclash⟩ hseparate
    have ha := List.mem_of_getElem? (List.mk_mem_zipIdx_iff_getElem?.mp ha)
    have hb := List.mem_of_getElem? (List.mk_mem_zipIdx_iff_getElem?.mp hb)
    have hid := id_eq_of_separate hseparate hclasses ha hb
      (contains_iff.mpr ⟨hclash.before.key_le, hclash.le_last⟩)
      (contains_iff.mpr ⟨Nat.le_refl _, b.range.first_le_last⟩)
    exact hclash.id_ne hid.symm
  · intro h
    simp only [CharClass.Separate, not_forall, not_not] at h
    obtain ⟨r, hr, s, hs, hne, n, hrn, hsn⟩ := h
    obtain ⟨i, a, clsA, ha, hna, hclsA, hnameA⟩ :=
      exists_interval_of_covers hclasses ⟨r, hr, rfl, hrn⟩
    obtain ⟨j, b, clsB, hb, hnb, hclsB, hnameB⟩ :=
      exists_interval_of_covers hclasses ⟨s, hs, rfl, hsn⟩
    have hid : a.id ≠ b.id := by
      intro heq
      rw [heq, hclsB] at hclsA
      obtain rfl := Option.some.inj hclsA
      exact hne (hnameA.symm.trans hnameB)
    have hmemA := List.mk_mem_zipIdx_iff_getElem?.mpr ha
    have hmemB := List.mk_mem_zipIdx_iff_getElem?.mpr hb
    rcases clash_or_clash ha hb hid hna hnb with hclash | hclash
    · exact ⟨_, hmemA, _, hmemB, hclash⟩
    · exact ⟨_, hmemB, _, hmemA, hclash⟩

/-- What is reported is so. -/
theorem holds_of_mem_overlaps (h : overlap ∈ (ofCollected classes).overlaps) :
    overlap.Holds records := by
  obtain ⟨a, ha, b, hb, hid, hna, rfl⟩ :=
    exists_pair_of_mem_overlapsOf (sorted_tableOf (·.range.first) (intervalsOf classes)) h
  have hmem : ∀ {c}, c ∈ (ofCollected classes).intervals.toList → c ∈ intervalsOf classes :=
    fun hc => mem_intervals_ofCollected.mp (Array.mem_toList_iff.mp hc)
  have hnb := contains_iff.mpr ⟨Nat.le_refl b.range.first, b.range.first_le_last⟩
  obtain ⟨clsA, hclsA, hcoversA⟩ := covers_of_mem_intervalsOf (hmem ha) hna
  obtain ⟨clsB, hclsB, hcoversB⟩ := covers_of_mem_intervalsOf (hmem hb) hnb
  have hname : ∀ {id : ClassId} {cls}, classes[id.index]? = some cls →
      (ofCollected classes).nameOf id = cls.name := by
    intro id cls hcls
    simp [nameOf, class?, ofCollected, hcls]
  rw [hname hclsA, hname hclsB]
  refine ⟨?_, (covers_iff_of_merged hclasses).mp hcoversA,
    (covers_iff_of_merged hclasses).mp hcoversB⟩
  intro heq
  exact hid (congrArg ClassId.mk (index_eq_of_name_eq hclasses hclsA hclsB heq)).symm

end Merged

/-- All overlaps that are reported are there. That one is reported just if there are some is true
unless there are some and all of them are screened. -/
theorem overlaps_sound_and_complete_iff (hindex : build records = .ok index) :
    (∀ overlap ∈ index.overlaps, overlap.Holds records) ∧
      ((index.overlaps ≠ [] ↔ ¬ CharClass.Separate records) ↔ ¬ Unreported index.classes) := by
  have hcollected := eq_of_build hindex
  subst hcollected
  refine ⟨fun overlap => holds_of_mem_overlaps rfl, ?_⟩
  rw [Ne, overlaps_eq_nil_iff, ← exists_clash_iff rfl]
  constructor
  · rintro h ⟨hclash, hscreened⟩
    exact h.mpr hclash hscreened
  · intro hreported
    refine ⟨?_, fun hclash hscreened => hreported ⟨hclash, hscreened⟩⟩
    intro hnot
    simp only [not_forall] at hnot
    obtain ⟨a, ha, b, hb, hclash, -⟩ := hnot
    exact ⟨a, ha, b, hb, hclash⟩

end ClassIndex

/-! A class in two records, the range of the second inside that of the first, and a class with a
code point behind it. -/
namespace Nesting

def five : CharClass := ⟨"B", [.single 5]⟩

/-- The code point in both classes is reported, unless the inner range stands between. -/
theorem overlaps_complete_of_nested :
    ∃ plain nested, ClassIndex.build [outer, five] = .ok plain ∧
      ClassIndex.build [outer, inner, five] = .ok nested ∧
      (plain.overlaps ≠ [] ↔ ¬ CharClass.Separate [outer, five]) ∧
      ¬ (nested.overlaps ≠ [] ↔ ¬ CharClass.Separate [outer, inner, five]) := by
  have hplain : ClassIndex.build [outer, five] =
      .ok (.ofCollected (ClassIndex.builtIns ++ [outer, five])) := by
    decide +kernel
  have hnested : ClassIndex.build [outer, inner, five] =
      .ok (.ofCollected (ClassIndex.builtIns ++ [outer.absorb inner, five])) := by
    decide +kernel
  refine ⟨_, _, hplain, hnested, ?_, ?_⟩
  · exact (ClassIndex.overlaps_sound_and_complete_iff hplain).2.mpr (by decide +kernel)
  · exact mt (ClassIndex.overlaps_sound_and_complete_iff hnested).2.mp (by decide +kernel)

/-- Both classes contain the code point, and no overlap is reported. -/
theorem overlaps_of_screened :
    ∃ index, ClassIndex.build [outer, inner, five] = .ok index ∧ outer.name ≠ five.name ∧
      outer.contains 5 = true ∧ five.contains 5 = true ∧ index.overlaps = [] := by
  refine ⟨.ofCollected (ClassIndex.builtIns ++ [outer.absorb inner, five]), ?_, ?_, ?_, ?_, ?_⟩
  · decide +kernel
  · decide
  · decide
  · decide
  · decide +kernel

end Nesting
end BoundaryRules
