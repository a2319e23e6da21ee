import BoundaryRules.Proofs.Capitals
import BoundaryRules.Tally

/-! Small letters. The letters in title case are no capitals and have small forms all the same, so
that a filter which looks for capitals first leaves them as they are. -/
namespace BoundaryRules

section BitSets

variable {as bs : List Nat} {n : Nat}

theorem mem_of_land_bitSet (h : bitSet as &&& bitSet bs = bitSet as) (hn : n ∈ as) : n ∈ bs := by
  have hbit := testBit_bitSet.mpr hn
  rw [← h, Nat.testBit_and, Bool.and_eq_true] at hbit
  exact testBit_bitSet.mp hbit.2

end BitSets

namespace Unicode

variable {c d : Char} {s behind : List Char} {n : Nat}

def RangeTable.points (table : RangeTable) : List Nat :=
  table.toList.flatMap fun range => List.range' range.1 (range.2 - range.1 + 1)

theorem RangeTable.contains_of_mem_points {table : RangeTable}
    (hle : ∀ range ∈ table.toList, range.1 ≤ range.2)
    (hseparated : table.toList.Pairwise fun a b => a.2 < b.1) (h : n ∈ table.points) :
    table.contains n = true := by
  obtain ⟨range, hmem, hn⟩ := List.mem_flatMap.mp h
  have hrange := hle range hmem
  rw [List.mem_range'_1] at hn
  have hfound : lastAtMost? Prod.fst table n = some range :=
    lastAtMost?_eq_some (fun range hmem => hle range (Array.mem_toList_iff.mpr hmem)) hseparated
      (Array.mem_toList_iff.mp hmem) hn.1 (by omega)
  rw [contains, hfound, Option.any_some, decide_eq_true_iff]
  omega

/-- The letters in title case: digraphs that begin with a capital, and capitals with a small iota
beside them. -/
def titlecase : List Nat :=
  [0x1C5, 0x1C8, 0x1CB, 0x1F2] ++ List.range' 0x1F88 8 ++ List.range' 0x1F98 8 ++
    List.range' 0x1FA8 8 ++ [0x1FBC, 0x1FCC, 0x1FFC]

theorem isUppercase_of_mem_points (h : c.toNat ∈ uppercaseRanges.points) :
    isUppercase c = true := by
  have hle : ∀ range ∈ uppercaseRanges.toList, range.1 ≤ range.2 := by decide +kernel
  have hchain : uppercaseRanges.toList.IsChain fun a b => a.2 < b.1 ∧ b.1 ≤ b.2 := by
    decide +kernel
  have : IsTrans (Nat × Nat) fun a b => a.2 < b.1 ∧ b.1 ≤ b.2 := ⟨fun a b c hab hbc => by omega⟩
  have hpairwise := List.isChain_iff_pairwise.mp hchain
  exact RangeTable.contains_of_mem_points hle (hpairwise.imp And.left) h

theorem isUppercase_or_mem_of_mem_moved (h : c.toNat ∈ lowercaseMapping.moved) :
    isUppercase c = true ∨ c.toNat ∈ titlecase := by
  have hland : bitSet lowercaseMapping.moved &&& bitSet (uppercaseRanges.points ++ titlecase) =
      bitSet lowercaseMapping.moved := by decide +kernel
  rcases List.mem_append.mp (mem_of_land_bitSet hland h) with h | h
  · exact .inl (isUppercase_of_mem_points h)
  · exact .inr h

/-- Only capitals and letters in title case have a small form other than themselves. -/
theorem lowerForm_eq_or (c : Char) :
    lowerForm c = [c] ∨ isUppercase c = true ∨ c.toNat ∈ titlecase := by
  unfold lowerForm
  split
  next hascii =>
    have hsmall : ∀ n < 0x80, (Char.ofNat n).toLower = Char.ofNat n ∨
        isUppercase (Char.ofNat n) = true := by decide +kernel
    have hc := hsmall c.toNat hascii
    rw [Char.ofNat_toNat] at hc
    exact hc.imp (fun heq => congrArg (fun d => [d]) heq) .inl
  next =>
    exact (lowercaseMapping.apply_eq_or c).imp_right fun hmoved =>
      isUppercase_or_mem_of_mem_moved hmoved.1

theorem of_mem_titlecase (h : c.toNat ∈ titlecase) :
    isUppercase c = false ∧ ∃ d, lowerForm c = [d] ∧ d ≠ c := by
  have htable : ∀ n ∈ titlecase, isUppercase (Char.ofNat n) = false ∧
      (lowerForm (Char.ofNat n)).length = 1 ∧ lowerForm (Char.ofNat n) ≠ [Char.ofNat n] := by
    decide +kernel
  have hc := htable c.toNat h
  rw [Char.ofNat_toNat] at hc
  obtain ⟨hcapital, hlength, hne⟩ := hc
  obtain ⟨d, hd⟩ := List.length_eq_one_iff.mp hlength
  exact ⟨hcapital, d, hd, fun heq => hne (heq ▸ hd)⟩

/-- Without a sigma that may be final, each character has its small form. -/
theorem toLowerFrom_eq_flatMap (h : 'Σ' ∉ s) : toLowerFrom behind s = s.flatMap lowerForm := by
  induction s generalizing behind with
  | nil => rfl
  | cons c s ih =>
    rw [List.mem_cons, not_or] at h
    rw [toLowerFrom, if_neg (Ne.symm h.1), ih h.2, List.flatMap_cons]

/-- A text without capitals is in small letters unless it has a letter in title case. -/
theorem toLower_eq_self_iff (h : ∀ c ∈ s, isUppercase c = false) :
    toLower s = s ↔ ∀ c ∈ s, c.toNat ∉ titlecase := by
  have hsigma : isUppercase 'Σ' = true := by decide +kernel
  have hnot : 'Σ' ∉ s := by
    intro hmem
    rw [h _ hmem] at hsigma
    cases hsigma
  rw [toLower, toLowerFrom_eq_flatMap hnot]
  clear hnot
  induction s with
  | nil => simp
  | cons c s ih =>
    obtain ⟨hc, hs⟩ := List.forall_mem_cons.mp h
    rw [List.flatMap_cons, List.forall_mem_cons]
    by_cases htitle : c.toNat ∈ titlecase
    · obtain ⟨-, d, hform, hne⟩ := of_mem_titlecase htitle
      refine iff_of_false (fun heq => hne ?_) (fun hall => hall.1 htitle)
      rw [hform, List.singleton_append] at heq
      exact (List.cons.inj heq).1
    · have hform : lowerForm c = [c] := by
        refine (lowerForm_eq_or c).resolve_right ?_
        rw [hc, not_or]
        exact ⟨Bool.false_ne_true, htitle⟩
      rw [hform, List.singleton_append, List.cons_inj_right, and_iff_right htitle]
      exact ih hs

end Unicode

namespace WordFilter

open Unicode (isUppercase titlecase)

variable {word other spelling spelling' : String}

/-- The word in small letters. -/
def lowered (word : String) : String := String.ofList (Unicode.toLower word.toList)

/-- There is a capital in the word, or no letter in title case. -/
def Folds (word : String) : Prop :=
  (∃ c ∈ word.toList, isUppercase c = true) ∨ ∀ c ∈ word.toList, c.toNat ∉ titlecase

theorem lowered_eq_self_iff (h : ∀ c ∈ word.toList, isUppercase c = false) :
    lowered word = word ↔ ∀ c ∈ word.toList, c.toNat ∉ titlecase := by
  rw [← Unicode.toLower_eq_self_iff h, lowered, ← String.toList_inj, String.toList_ofList]

theorem eq_of_words_apply (h : (words true).apply word = some spelling) :
    spelling = if word.toList.any isUppercase then lowered word else word := by
  simp only [words, Bool.true_and] at h
  split at h
  next =>
    split at h
    next hcapital => rw [if_pos hcapital, ← Option.some.inj h, lowered]
    next hcapital => rw [if_neg hcapital, ← Option.some.inj h]
  next => cases h

/-- A kept word is counted in small letters just if it folds. -/
theorem eq_lowered_iff (h : (words true).apply word = some spelling) :
    spelling = lowered word ↔ Folds word := by
  rw [eq_of_words_apply h, Folds, ← List.any_eq_true]
  split
  next hcapital => exact iff_of_true rfl (.inl hcapital)
  next hcapital =>
    have hsmall : ∀ c ∈ word.toList, isUppercase c = false := fun c hc =>
      Bool.eq_false_iff.mpr fun hupper => hcapital (List.any_eq_true.mpr ⟨c, hc, hupper⟩)
    rw [eq_comm, lowered_eq_self_iff hsmall, or_iff_right hcapital]

theorem eq_self_of_not_folds (h : (words true).apply word = some spelling) (hfolds : ¬ Folds word) :
    spelling = word := by
  rw [eq_of_words_apply h, if_neg fun hcapital => hfolds (.inl (List.any_eq_true.mp hcapital))]

/-- The filter for words counts a word in small letters, as the one for all segments does, just if
it folds; of two words that are the same in small letters, both fold or they are counted apart. -/
theorem words_apply_eq_lowered_iff (h : (words true).apply word = some spelling) :
    (spelling = lowered word ↔ Folds word) ∧
    ((words true).apply word = allLowercase.apply word ↔ Folds word) ∧
    ∀ other spelling', (words true).apply other = some spelling' → lowered other = lowered word →
      (spelling' = spelling ↔ other = word ∨ Folds other ∧ Folds word) := by
  have hall : allLowercase.apply word = some (lowered word) := rfl
  refine ⟨eq_lowered_iff h, ?_, fun other spelling' hother hlowered => ⟨fun heq => ?_, ?_⟩⟩
  · rw [h, hall, Option.some_inj, eq_lowered_iff h]
  · have hword := eq_lowered_iff h
    have hfolds := eq_lowered_iff hother
    rw [hlowered, heq, hword] at hfolds
    by_cases hboth : Folds word
    · exact .inr ⟨hfolds.mp hboth, hboth⟩
    · rw [eq_self_of_not_folds h hboth, eq_self_of_not_folds hother (hfolds.not.mp hboth)] at heq
      exact .inl heq
  · rintro (rfl | ⟨hother', hword⟩)
    · exact Option.some.inj (hother.symm.trans h)
    · rw [(eq_lowered_iff hother).mpr hother', (eq_lowered_iff h).mpr hword, hlowered]

/-- A capital behind a digraph in title case, and the same word in small letters. -/
theorem words_apply_of_capital :
    (words true).apply "ǅEP" = some "ǆep" ∧ "ǆep" = lowered "ǅEP" ∧
      (words true).apply "ǅEP" = allLowercase.apply "ǅEP" ∧
      (words true).apply "ǆep" = some "ǆep" ∧ lowered "ǆep" = lowered "ǅEP" ∧
      Folds "ǆep" ∧ Folds "ǅEP" := by
  have hcapital : (words true).apply "ǅEP" = some "ǆep" := by decide +kernel
  have hsmall : (words true).apply "ǆep" = some "ǆep" := by decide +kernel
  have hsame : lowered "ǆep" = lowered "ǅEP" := by decide +kernel
  have hfolds : Folds "ǅEP" := .inl ⟨'E', by decide +kernel, by decide +kernel⟩
  obtain ⟨hlowered, hagree, hpair⟩ := words_apply_eq_lowered_iff hcapital
  have hboth := (hpair "ǆep" "ǆep" hsmall hsame).mp rfl
  exact ⟨hcapital, hlowered.mpr hfolds, hagree.mpr hfolds, hsmall, hsame,
    hboth.resolve_left (by decide)⟩

/-- The digraph by itself is counted as it is, and apart from its small form. -/
theorem words_apply_ne_lowered :
    (words true).apply "ǅ" = some "ǅ" ∧ lowered "ǅ" = "ǆ" ∧ (words true).apply "ǆ" = some "ǆ" ∧
      lowered "ǆ" = lowered "ǅ" ∧ allLowercase.apply "ǅ" = some "ǆ" := by
  decide +kernel

end WordFilter
end BoundaryRules
