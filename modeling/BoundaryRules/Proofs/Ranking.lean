import BoundaryRules.Proofs.History
import BoundaryRules.Proofs.Offers
import BoundaryRules.Proofs.Traversal

/-! The most frequent words. They are the first of all words once these are sorted by count and
then by first occurrence, in whatever order the entries of a tally are enumerated. There are none if
places for so many words cannot be set aside. -/
namespace BoundaryRules

namespace Tally

/-- Whether a word ranks above another by what was counted. -/
def Outranks (history : List String) (v w : String) : Prop :=
  history.count w < history.count v ∨
    history.count v = history.count w ∧ history.idxOf v < history.idxOf w

/-- All words of a history, each before those that it outranks. -/
structure IsRanking (history words : List String) : Prop where
  mem_iff : ∀ word, word ∈ words ↔ word ∈ history
  sorted : words.Pairwise (Outranks history)

section Order

variable {history words others : List String} {u v w : String}

theorem Outranks.asymm (h : Outranks history v w) : ¬ Outranks history w v := by
  unfold Outranks at *
  omega

theorem Outranks.ne (h : Outranks history v w) : v ≠ w := by
  rintro rfl
  exact h.asymm h

theorem IsRanking.nodup (h : IsRanking history words) : words.Nodup := h.sorted.imp Outranks.ne

/-- There is only one ranking. -/
theorem IsRanking.unique (h : IsRanking history words) (hothers : IsRanking history others) :
    words = others := by
  have hperm : words.Perm others := by
    rw [List.perm_ext_iff_of_nodup h.nodup hothers.nodup]
    intro word
    rw [h.mem_iff, hothers.mem_iff]
  refine hperm.eq_of_pairwise ?_ h.sorted hothers.sorted
  intro v w _ _ hvw hwv
  exact absurd hwv hvw.asymm

theorem ranksBelow_iff {a b : TallyEntry} :
    ranksBelow a b = true ↔ a.count.toNat < b.count.toNat ∨
      a.count.toNat = b.count.toNat ∧ b.firstSeen.toNat ≤ a.firstSeen.toNat := by
  simp [ranksBelow, UInt64.lt_iff_toNat_lt, UInt64.le_iff_toNat_le, UInt64.toNat_inj]

theorem ranksBelow_total (a b : TallyEntry) : (ranksBelow a b || ranksBelow b a) = true := by
  rw [Bool.or_eq_true, ranksBelow_iff, ranksBelow_iff]
  omega

theorem ranksBelow_trans (a b c : TallyEntry) (hab : ranksBelow a b = true)
    (hbc : ranksBelow b c = true) : ranksBelow a c = true := by
  rw [ranksBelow_iff] at *
  omega

end Order

section Top

variable {tally : Tally} {history words : List String} {entries : List TallyEntry}
  {a b : TallyEntry} {n : UInt64} {counts : List (String × Nat)}

/-- The entries of the highest rank first. -/
def descending (entries : List TallyEntry) : List TallyEntry :=
  (sortStable ranksBelow entries.reverse).reverse

theorem descending_perm (entries : List TallyEntry) : (descending entries).Perm entries :=
  (List.reverse_perm _).trans ((sortStable_perm _ _).trans (List.reverse_perm _))

theorem pairwise_descending (entries : List TallyEntry) :
    (descending entries).Pairwise fun a b => ranksBelow b a = true :=
  List.pairwise_reverse.mpr (pairwise_sortStable ranksBelow_total ranksBelow_trans _)

theorem top_zero (tally : Tally) : tally.top 0 = .error (.error .zeroCount) := rfl

theorem top_of_fits (hn : n ≠ 0) (hfits : BestOf.Fits rankedSize n) (tally : Tally) :
    tally.top n = .ok (((descending tally.entries).take n.toNat).map fun entry =>
      (entry.word, entry.count.toNat)) := by
  rw [top, if_neg hn, BestOf.ofCapacity_of_fits hn hfits, Except.map,
    BestOf.descending_extend ranksBelow_total ranksBelow_trans]
  rfl

theorem top_of_not_fits (hn : n ≠ 0) (hfits : ¬ BestOf.Fits rankedSize n) (tally : Tally) :
    tally.top n = .error .capacityOverflow := by
  rw [top, if_neg hn, BestOf.ofCapacity_of_not_fits hn hfits, Except.map]

/-- What `top` needs, whatever the tally is. -/
theorem exists_top_eq_ok_iff (tally : Tally) :
    (∃ counts, tally.top n = .ok counts) ↔ n ≠ 0 ∧ BestOf.Fits rankedSize n := by
  by_cases hn : n = 0
  · subst hn
    simp [top_zero]
  · by_cases hfits : BestOf.Fits rankedSize n
    · simp [top_of_fits hn hfits, hn, hfits]
    · simp [top_of_not_fits hn hfits, hfits]

/-- No count is greater than one before it. -/
theorem pairwise_of_top (h : tally.top n = .ok counts) :
    counts.Pairwise fun a b => b.2 ≤ a.2 := by
  obtain ⟨hn, hfits⟩ := (exists_top_eq_ok_iff tally).mp ⟨_, h⟩
  obtain rfl := Except.ok.inj ((top_of_fits hn hfits tally).symm.trans h)
  rw [List.pairwise_map]
  refine ((pairwise_descending _).sublist (List.take_sublist _ _)).imp fun {a b} hranks => ?_
  rw [ranksBelow_iff] at hranks
  dsimp only
  omega

/-- The first words of a ranking with their counts. -/
def leading (history words : List String) (n : Nat) : List (String × Nat) :=
  (words.take n).map fun word => (word, history.count word)

section Short

variable (hshort : history.length < UInt64.size)
include hshort

/-- Different words never tie, as no two of them occurred first in one place. -/
theorem Records.outranks (h : Records tally history) (ha : a ∈ tally.entries)
    (hb : b ∈ tally.entries) (hne : a.word ≠ b.word) (hranks : ranksBelow b a = true) :
    Outranks history a.word b.word := by
  have hfirst : history.idxOf a.word ≠ history.idxOf b.word :=
    fun heq => hne ((List.idxOf_inj (h.mem_entries_iff.mp ha).1).mp heq)
  rw [ranksBelow_iff, h.toNat_count hshort ha, h.toNat_count hshort hb,
    h.toNat_firstSeen hshort ha, h.toNat_firstSeen hshort hb] at hranks
  unfold Outranks
  omega

theorem isRanking_descending (h : Records tally history) :
    IsRanking history (wordsOf (descending tally.entries)) := by
  have hperm := descending_perm tally.entries
  refine ⟨?_, ?_⟩
  · intro word
    rw [← h.mem_wordsOf_iff]
    exact (hperm.map _).mem_iff
  · have hne : (descending tally.entries).Pairwise fun a b => a.word ≠ b.word :=
      List.pairwise_map.mp ((hperm.map _).nodup_iff.mpr h.nodup)
    apply List.pairwise_map.mpr
    refine (hne.and (pairwise_descending _)).imp_of_mem ?_
    rintro a b ha hb ⟨hword, hbelow⟩
    exact h.outranks hshort (hperm.mem_iff.mp ha) (hperm.mem_iff.mp hb) hword hbelow

theorem IsRanking.length_eq (hwords : IsRanking history words) (h : Records tally history) :
    words.length = tally.size := by
  rw [hwords.unique (isRanking_descending hshort h), wordsOf, List.length_map,
    (descending_perm _).length_eq]
  rfl

/-- The entries of a tally in any order are ranked by their words alone. -/
theorem top_eq_leading (h : Records tally history) (hwords : IsRanking history words) (hn : n ≠ 0)
    (hfits : BestOf.Fits rankedSize n) : tally.top n = .ok (leading history words n.toNat) := by
  rw [top_of_fits hn hfits, leading, hwords.unique (isRanking_descending hshort h), wordsOf,
    ← List.map_take, List.map_map]
  congr 1
  apply List.map_congr_left
  intro entry hmem
  have hentry := (descending_perm _).mem_iff.mp (List.mem_of_mem_take hmem)
  rw [h.toNat_count hshort hentry]
  rfl

theorem top_eq_take (h : Records tally history) (hwords : IsRanking history words) (hn : n ≠ 0)
    (hfits : BestOf.Fits rankedSize n) :
    tally.top n = .ok ((words.take (min n.toNat tally.size)).map fun word =>
      (word, history.count word)) := by
  rw [top_eq_leading hshort h hwords hn hfits, leading, ← hwords.length_eq hshort h,
    ← List.take_take, List.take_length]

end Short

/-- The first `n` words of the ranking of all words are returned with their counts, in whatever
order the map of entries is enumerated. -/
def RanksFirst (tally : Tally) (history : List String) (n : UInt64) : Prop :=
  ∃ words, IsRanking history words ∧ ∀ entries, entries.Perm tally.entries →
    top ⟨entries, tally.total⟩ n =
      .ok ((words.take (min n.toNat tally.size)).map fun word => (word, history.count word))

theorem Built.ranksFirst (h : Built tally history) (hshort : history.length < UInt64.size)
    (hn : n ≠ 0) (hfits : BestOf.Fits rankedSize n) : RanksFirst tally history n := by
  refine ⟨_, isRanking_descending hshort (.of_built h), ?_⟩
  intro entries hperm
  have hsize : size ⟨entries, tally.total⟩ = tally.size := hperm.length_eq
  rw [← hsize]
  exact top_eq_take hshort (.of_built (h.reorder hperm))
    (isRanking_descending hshort (.of_built h)) hn hfits

theorem RanksFirst.fits (h : RanksFirst tally history n) : BestOf.Fits rankedSize n := by
  obtain ⟨words, -, htop⟩ := h
  exact ((exists_top_eq_ok_iff _).mp ⟨_, htop _ (.refl _)⟩).2

end Top

end Tally

/-- For an empty text nothing is set aside. -/
theorem WordCounter.topWords_eq_iff {counter : WordCounter} {text : List Char} {n : UInt64} :
    counter.topWords text n = (counter.tally text).top n ↔
      n = 0 ∨ text ≠ [] ∨ BestOf.Fits Tally.rankedSize n := by
  by_cases hn : n = 0
  · subst hn
    simp [topWords, Tally.top_zero]
  · cases text with
    | cons c text => simp [topWords, hn]
    | nil =>
      by_cases hfits : BestOf.Fits Tally.rankedSize n
      · have hempty : (counter.tally []).entries = [] := rfl
        simp [topWords, Tally.top_of_fits hn hfits, hn, hfits, hempty, Tally.descending]
      · simp [topWords, Tally.top_of_not_fits hn hfits, hn, hfits]

namespace Tally

/-- The most frequent words of a tally are the first of its history's ranking, however its map of
entries is enumerated, and those of a text are those of its tally, if places for them and one more
may be set aside. Otherwise there are none. -/
theorem ranksFirst_iff_fits {tally : Tally} {history : List String} (h : Built tally history)
    (hshort : history.length < UInt64.size) (counter : WordCounter) (text : List Char)
    (n : UInt64) :
    tally.top 0 = .error (.error .zeroCount) ∧
      (n ≠ 0 → (RanksFirst tally history n ↔ BestOf.Fits rankedSize n) ∧
        (¬ BestOf.Fits rankedSize n → tally.top n = .error .capacityOverflow)) ∧
      (counter.topWords text n = (counter.tally text).top n ↔
        n = 0 ∨ text ≠ [] ∨ BestOf.Fits rankedSize n) := by
  refine ⟨top_zero tally, fun hn => ⟨⟨RanksFirst.fits, h.ranksFirst hshort hn⟩, ?_⟩,
    WordCounter.topWords_eq_iff⟩
  intro hfits
  exact top_of_not_fits hn hfits tally

/-- The letters of two documents, with the entries of their tally enumerated backwards. -/
theorem ranksFirst_of_letters :
    ∃ tally, (letters.tally ['b', 'a', 'c']).merge (letters.tally ['a', 'b']) = tally ∧
      tally.size = 3 ∧ RanksFirst tally ["b", "a", "c", "a", "b"] 2 ∧
      top ⟨tally.entries.reverse, tally.total⟩ 2 = .ok [("b", 2), ("a", 2)] ∧
      letters.topWords [] 2 = (letters.tally []).top 2 := by
  have hwords : letters.words ['b', 'a', 'c'] ++ letters.words ['a', 'b'] =
      ["b", "a", "c", "a", "b"] := by
    decide +kernel
  have hbuilt := (built_tally letters ['b', 'a', 'c']).merge (built_tally letters ['a', 'b'])
  rw [hwords] at hbuilt
  obtain ⟨-, hranks, htopWords⟩ := ranksFirst_iff_fits hbuilt (by decide) letters [] 2
  refine ⟨_, rfl, by decide +kernel, (hranks (by decide)).1.mpr (by decide), by decide +kernel, ?_⟩
  exact htopWords.mpr (.inr (.inr (by decide)))

/-- Not even the only word is returned if 10^18 words are asked for. -/
theorem not_ranksFirst_of_vast :
    Built (add {} "a") ["a"] ∧ ¬ RanksFirst (add {} "a") ["a"] 1000000000000000000 ∧
      (add {} "a").top 1000000000000000000 = .error .capacityOverflow ∧
      letters.topWords [] 1000000000000000000 = .ok [] ∧
      (letters.tally []).top 1000000000000000000 = .error .capacityOverflow := by
  have hn : (1000000000000000000 : UInt64) ≠ 0 := by decide
  have hfits : ¬ BestOf.Fits rankedSize 1000000000000000000 := by decide
  exact ⟨.add "a" .empty, fun h => hfits h.fits, top_of_not_fits hn hfits _, rfl,
    top_of_not_fits hn hfits _⟩

end Tally
end BoundaryRules
