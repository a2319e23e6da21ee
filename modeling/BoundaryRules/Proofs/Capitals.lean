import BoundaryRules.ClassName
import BoundaryRules.Proofs.Resolution
import Mathlib.Data.List.DropRight

/-! Capital forms and normalized names. No capital form has a small letter or white space in it, so
that a name is in capitals and trimmed once it is normalized. -/
namespace BoundaryRules

section BitSets

variable {as bs : List Nat} {n : Nat}

/-- A set of numbers, held as the bits of one number. -/
def bitSet : List Nat → Nat
  | [] => 0
  | n :: numbers => 1 <<< n ||| bitSet numbers

theorem testBit_bitSet : (bitSet as).testBit n = true ↔ n ∈ as := by
  induction as with
  | nil => simp [bitSet]
  | cons m as ih =>
    rw [bitSet, Nat.testBit_or, Bool.or_eq_true, ih, Nat.one_shiftLeft, Nat.testBit_two_pow,
      decide_eq_true_iff, List.mem_cons, eq_comm]

theorem not_mem_of_land_bitSet (h : bitSet as &&& bitSet bs = 0) (hn : n ∈ bs) : n ∉ as := by
  intro has
  have hbit : (bitSet as &&& bitSet bs).testBit n = true := by
    rw [Nat.testBit_and, testBit_bitSet.mpr has, testBit_bitSet.mpr hn, Bool.and_self]
  rw [h, Nat.zero_testBit] at hbit
  cases hbit

end BitSets

namespace Unicode

variable {c d : Char} {s : List Char} {n m : Nat}

/-- As many code points as the run has, from another first one on. -/
def CaseRun.points (run : CaseRun) (first : Nat) : List Nat :=
  List.range' first ((run.last - run.first) / run.step + 1) run.step

theorem CaseRun.mem_points_of_image? {run : CaseRun} (h : run.image? n = some m) :
    n ∈ run.points run.first ∧ m ∈ run.points run.image := by
  unfold image? at h
  split at h
  next hn =>
    obtain ⟨hfirst, hlast, hstep⟩ := hn
    have hcount : (n - run.first) / run.step < (run.last - run.first) / run.step + 1 :=
      Nat.lt_succ_of_le (Nat.div_le_div_right (Nat.sub_le_sub_right hlast _))
    have hmul := Nat.mul_div_cancel' (Nat.dvd_of_mod_eq_zero hstep)
    obtain rfl := Option.some.inj h
    exact ⟨List.mem_range'.mpr ⟨_, hcount, by omega⟩, List.mem_range'.mpr ⟨_, hcount, by omega⟩⟩
  next => cases h

namespace CaseMapping

variable (mapping : CaseMapping) (c : Char)

/-- The code points in the tables. -/
def moved : List Nat :=
  (mapping.runs.toList.flatMap fun run => run.points run.first) ++
    mapping.expansions.toList.map (·.1)

/-- The code points in their images. -/
def images : List Nat :=
  (mapping.runs.toList.flatMap fun run => run.points run.image) ++
    mapping.expansions.toList.flatMap (·.2)

theorem simple_eq_or :
    apply.simple mapping c = [c] ∨
      c.toNat ∈ mapping.moved ∧ ∃ n ∈ mapping.images, apply.simple mapping c = [Char.ofNat n] := by
  unfold apply.simple
  split
  next n hn =>
    obtain ⟨run, hrun, himage⟩ := Option.bind_eq_some_iff.mp hn
    have hmem := Array.mem_toList_iff.mpr (lastAtMost?_mem hrun)
    obtain ⟨hfirst, hlast⟩ := CaseRun.mem_points_of_image? himage
    exact .inr ⟨List.mem_append_left _ (List.mem_flatMap.mpr ⟨run, hmem, hfirst⟩), n,
      List.mem_append_left _ (List.mem_flatMap.mpr ⟨run, hmem, hlast⟩), rfl⟩
  next => exact .inl rfl

/-- A character that is not in the tables is its own image. -/
theorem apply_eq_or :
    mapping.apply c = [c] ∨
      c.toNat ∈ mapping.moved ∧ ∃ image : List Nat, mapping.apply c = image.map Char.ofNat ∧
        (image = [] → ∃ n, (n, []) ∈ mapping.expansions) ∧ ∀ n ∈ image, n ∈ mapping.images := by
  have hsimple : apply.simple mapping c = [c] ∨
      c.toNat ∈ mapping.moved ∧ ∃ image : List Nat,
        apply.simple mapping c = image.map Char.ofNat ∧
        (image = [] → ∃ n, (n, []) ∈ mapping.expansions) ∧ ∀ n ∈ image, n ∈ mapping.images := by
    refine (simple_eq_or mapping c).imp_right fun ⟨hmoved, n, hn, heq⟩ =>
      ⟨hmoved, [n], heq, fun hnil => absurd hnil (List.cons_ne_nil _ _), ?_⟩
    exact List.forall_mem_singleton.mpr hn
  unfold apply
  split
  next n image hentry =>
    split
    next hn =>
      have hmem := lastAtMost?_mem hentry
      have hlist := Array.mem_toList_iff.mpr hmem
      refine .inr ⟨List.mem_append_right _ (List.mem_map.mpr ⟨_, hlist, hn⟩), image, rfl, ?_, ?_⟩
      · rintro rfl
        exact ⟨n, hmem⟩
      · exact fun m hm => List.mem_append_right _ (List.mem_flatMap.mpr ⟨_, hlist, hm⟩)
    next => exact hsimple
  next => exact hsimple

end CaseMapping

/-- The code points with a capital form other than themselves. -/
def small : List Nat :=
  (uppercaseMapping.runs.toList.flatMap fun run => run.points run.first) ++
    uppercaseMapping.expansions.toList.map (·.1)

/-- The code points in these capital forms. -/
def capital : List Nat :=
  (uppercaseMapping.runs.toList.flatMap fun run => run.points run.image) ++
    uppercaseMapping.expansions.toList.flatMap (·.2)

def whiteSpace : List Nat :=
  List.range' 0x9 5 ++ 0x20 ::
    whiteSpaceRanges.toList.flatMap fun range => List.range' range.1 (range.2 - range.1 + 1)

theorem not_mem_of_mem_capital (h : n ∈ capital) : n ∉ small ++ whiteSpace :=
  have hland : bitSet (small ++ whiteSpace) &&& bitSet capital = 0 := by decide +kernel
  not_mem_of_land_bitSet hland h

theorem isValidChar_of_mem_capital : ∀ n ∈ capital, n.isValidChar := by decide +kernel

theorem expansions_ne_nil : ∀ entry ∈ uppercaseMapping.expansions, entry.2 ≠ [] := by
  decide +kernel

theorem toNat_ofNat_of_mem_capital (h : n ∈ capital) : (Char.ofNat n).toNat = n := by
  rw [Char.ofNat, dif_pos (isValidChar_of_mem_capital n h)]
  rfl

/-- A character is its own capital form, or small with a form of capital ones. -/
def CapitalForm (c : Char) (form : List Char) : Prop :=
  form = [c] ∨ c.toNat ∈ small ∧ form ≠ [] ∧ ∀ d ∈ form, d.toNat ∈ capital

theorem capitalForm_of_ascii (h : c.toNat < 0x80) : CapitalForm c [c.toUpper] := by
  have hascii : ∀ n < 0x80, (Char.ofNat n).toUpper = Char.ofNat n ∨
      n ∈ small ∧ (Char.ofNat n).toUpper.toNat ∈ capital := by decide +kernel
  have hc := hascii c.toNat h
  rw [Char.ofNat_toNat] at hc
  rcases hc with hself | ⟨hsmall, hcapital⟩
  · exact .inl (congrArg (fun d => [d]) hself)
  · refine .inr ⟨hsmall, List.cons_ne_nil _ _, fun d hd => ?_⟩
    rwa [List.mem_singleton.mp hd]

theorem capitalForm_apply (c : Char) : CapitalForm c (uppercaseMapping.apply c) := by
  refine (uppercaseMapping.apply_eq_or c).imp_right ?_
  rintro ⟨hsmall, image, heq, hnil, hcapital⟩
  rw [heq]
  refine ⟨hsmall, fun hform => ?_, fun d hd => ?_⟩
  · obtain ⟨n, hn⟩ := hnil (List.map_eq_nil_iff.mp hform)
    exact expansions_ne_nil _ hn rfl
  · obtain ⟨m, hm, rfl⟩ := List.mem_map.mp hd
    rw [toNat_ofNat_of_mem_capital (hcapital m hm)]
    exact hcapital m hm

theorem capitalForm_upperForm (c : Char) : CapitalForm c (upperForm c) := by
  unfold upperForm
  split
  next hascii => exact capitalForm_of_ascii hascii
  next => exact capitalForm_apply c

theorem upperForm_ne_nil (c : Char) : upperForm c ≠ [] := by
  rcases capitalForm_upperForm c with h | ⟨-, h, -⟩
  · rw [h]
    exact List.cons_ne_nil c []
  · exact h

/-- Capital forms are in capitals. -/
theorem upperForm_of_mem (h : d ∈ upperForm c) : upperForm d = [d] := by
  rcases capitalForm_upperForm c with hc | ⟨-, -, hc⟩
  · rw [hc, List.mem_singleton] at h
    rw [h, hc]
  · have hd := not_mem_of_mem_capital (hc d h)
    rw [List.mem_append, not_or] at hd
    exact (capitalForm_upperForm d).resolve_right fun hsmall => hd.1 hsmall.1

theorem mem_whiteSpace_of_isWhiteSpace (h : isWhiteSpace c = true) : c.toNat ∈ whiteSpace := by
  by_cases hc : c.toNat < 0x80
  · have hascii : ∀ n < 0x80, isWhiteSpace (Char.ofNat n) = true → n ∈ whiteSpace := by
      decide +kernel
    exact hascii c.toNat hc (by rwa [Char.ofNat_toNat])
  · rw [isWhiteSpace, if_neg hc, RangeTable.contains, Option.any_eq_true] at h
    obtain ⟨range, hrange, hlast⟩ := h
    have hsorted : whiteSpaceRanges.toList.Pairwise (·.1 ≤ ·.1) := by decide
    obtain ⟨-, -, hfirst, -⟩ := exists_index_of_lastAtMost? hsorted hrange
    have hmem := Array.mem_toList_iff.mpr (lastAtMost?_mem hrange)
    refine List.mem_append_right _ (List.mem_cons_of_mem _ (List.mem_flatMap.mpr ⟨range, hmem, ?_⟩))
    rw [List.mem_range'_1]
    have := of_decide_eq_true hlast
    omega

theorem isWhiteSpace_of_mem_upperForm (h : d ∈ upperForm c) (hc : isWhiteSpace c = false) :
    isWhiteSpace d = false := by
  rcases capitalForm_upperForm c with hself | ⟨-, -, hcapital⟩
  · rw [hself, List.mem_singleton] at h
    rw [h, hc]
  · have hd := not_mem_of_mem_capital (hcapital d h)
    rw [List.mem_append, not_or] at hd
    exact Bool.eq_false_iff.mpr fun hwhite => hd.2 (mem_whiteSpace_of_isWhiteSpace hwhite)

theorem toUpper_toUpper (s : List Char) : toUpper (toUpper s) = toUpper s := by
  induction s with
  | nil => rfl
  | cons c s ih =>
    have hform : toUpper (upperForm c) = upperForm c := by
      rw [toUpper, List.flatMap_congr fun d hd => upperForm_of_mem hd, List.flatMap_singleton']
    have hcons : toUpper (c :: s) = upperForm c ++ toUpper s := List.flatMap_cons
    rw [hcons, toUpper_append, hform, ih]

/-- There is no white space at the ends. -/
def Trimmed (s : List Char) : Prop :=
  (∀ c ∈ s.head?, isWhiteSpace c = false) ∧ ∀ c ∈ s.getLast?, isWhiteSpace c = false

theorem trimmed_trim (s : List Char) : Trimmed (trim s) := by
  have htrim : trim s = (s.dropWhile isWhiteSpace).rdropWhile isWhiteSpace := rfl
  constructor
  · intro c hc
    obtain ⟨rest, hrest⟩ : trim s <+: s.dropWhile isWhiteSpace :=
      htrim ▸ List.rdropWhile_prefix _ _
    have hhead : (s.dropWhile isWhiteSpace).head? = some c := by
      rw [← hrest, List.head?_append, hc, Option.some_or]
    have hnot := List.head?_dropWhile_not isWhiteSpace s
    rwa [hhead] at hnot
  · intro c hc
    obtain ⟨hne, hlast⟩ := List.mem_getLast?_eq_getLast hc
    rw [hlast]
    exact Bool.eq_false_iff.mpr (List.rdropWhile_last_not _ _ hne)

theorem trim_of_trimmed (h : Trimmed s) : trim s = s := by
  have hhead : s.dropWhile isWhiteSpace = s := by
    cases s with
    | nil => rfl
    | cons c s => rw [List.dropWhile_cons, if_neg (Bool.eq_false_iff.mp (h.1 c rfl))]
  have hlast : s.rdropWhile isWhiteSpace = s := by
    rw [List.rdropWhile_eq_self_iff]
    exact fun hs => Bool.eq_false_iff.mp (h.2 _ (List.getLast?_eq_some_getLast hs))
  have htrim : trim s = (s.dropWhile isWhiteSpace).rdropWhile isWhiteSpace := rfl
  rw [htrim, hhead, hlast]

theorem Trimmed.toUpper (h : Trimmed s) : Trimmed (toUpper s) := by
  constructor
  · intro d hd
    cases s with
    | nil => cases hd
    | cons c s =>
      have hcons : Unicode.toUpper (c :: s) = upperForm c ++ Unicode.toUpper s := List.flatMap_cons
      rw [hcons, List.head?_append_of_ne_nil _ (upperForm_ne_nil c)] at hd
      exact isWhiteSpace_of_mem_upperForm (List.mem_of_head? hd) (h.1 c rfl)
  · intro d hd
    rcases List.eq_nil_or_concat s with rfl | ⟨front, c, rfl⟩
    · cases hd
    · have hone : Unicode.toUpper [c] = upperForm c := List.flatMap_singleton ..
      rw [List.concat_eq_append, toUpper_append, hone,
        List.getLast?_append_of_ne_nil _ (upperForm_ne_nil c)] at hd
      exact isWhiteSpace_of_mem_upperForm (List.mem_of_getLast? hd) (h.2 c (by simp))

end Unicode

/-- Normalizing a second time changes nothing. -/
theorem normalizeName_normalizeName (name : String) :
    normalizeName (normalizeName name) = normalizeName name := by
  have htrimmed := (Unicode.trimmed_trim name.toList).toUpper
  rw [normalizeName, normalizeName, String.toList_ofList, Unicode.trim_of_trimmed htrimmed,
    Unicode.toUpper_toUpper]

end BoundaryRules
