import BoundaryRules.Tally
import Mathlib.Algebra.BigOperators.Group.List.Lemmas
import Mathlib.Algebra.GroupWithZero.Nat
import Mathlib.Data.List.Dedup
import Mathlib.Data.List.Forall2

/-! Tallies read as summaries of a history, the list of all words counted. What a tally holds is
determined by its history, however it was put together and in whatever order its map of entries is
enumerated. Its numbers are those of the history up to multiples of 2^64, so they are exact only for
histories that are shorter than that. -/
namespace BoundaryRules

/-- The entry with so many more occurrences. -/
def TallyEntry.raise (entry : TallyEntry) (count : UInt64) : TallyEntry :=
  { entry with count := entry.count + count }

/-- The entry as it is after `offset` other occurrences. -/
def TallyEntry.shift (entry : TallyEntry) (offset : UInt64) : TallyEntry :=
  { entry with firstSeen := offset + entry.firstSeen }

namespace Tally

/-- The entry of a word in a map of entries. -/
def entryOf? (entries : List TallyEntry) (word : String) : Option TallyEntry :=
  entries.find? (·.word = word)

def wordsOf (entries : List TallyEntry) : List String := entries.map (·.word)

section Entries

variable {entries more : List TallyEntry} {entry : TallyEntry} {word : String}

@[simp] theorem entryOf?_nil : entryOf? [] word = none := rfl

theorem entryOf?_cons :
    entryOf? (entry :: entries) word =
      if entry.word = word then some entry else entryOf? entries word := by
  by_cases h : entry.word = word <;> simp [entryOf?, h]

theorem entryOf?_eq_none_iff : entryOf? entries word = none ↔ word ∉ wordsOf entries := by
  simp [entryOf?, wordsOf]

theorem entryOf?_eq_some_iff (hnodup : (wordsOf entries).Nodup) :
    entryOf? entries word = some entry ↔ entry ∈ entries ∧ entry.word = word := by
  induction entries with
  | nil => simp
  | cons first entries ih =>
    obtain ⟨hfirst, hnodup⟩ := List.nodup_cons.mp hnodup
    rw [entryOf?_cons, List.mem_cons]
    split
    next heq =>
      constructor
      · intro h
        obtain rfl := Option.some.inj h
        exact ⟨.inl rfl, heq⟩
      · rintro ⟨rfl | hmem, hword⟩
        · rfl
        · exact absurd (List.mem_map.mpr ⟨entry, hmem, hword.trans heq.symm⟩) hfirst
    next hne =>
      rw [ih hnodup]
      constructor
      · rintro ⟨hmem, hword⟩
        exact ⟨.inr hmem, hword⟩
      · rintro ⟨rfl | hmem, hword⟩
        · exact absurd hword hne
        · exact ⟨hmem, hword⟩

theorem entryOf?_eq_of_perm (hperm : more.Perm entries) (hnodup : (wordsOf entries).Nodup) :
    entryOf? more word = entryOf? entries word := by
  have hmore : (wordsOf more).Nodup := (hperm.map _).nodup_iff.mpr hnodup
  ext entry
  rw [entryOf?_eq_some_iff hmore, entryOf?_eq_some_iff hnodup, hperm.mem_iff]

theorem wordsOf_addTo :
    wordsOf (addTo entries entry) =
      if entry.word ∈ wordsOf entries then wordsOf entries
      else wordsOf entries ++ [entry.word] := by
  induction entries with
  | nil => rfl
  | cons first entries ih =>
    rw [addTo]
    split
    next heq => simp [wordsOf, heq]
    next hne =>
      have hmem : entry.word ∈ wordsOf (first :: entries) ↔ entry.word ∈ wordsOf entries := by
        simp [wordsOf, Ne.symm hne]
      change first.word :: wordsOf (addTo entries entry) = _
      rw [ih]
      simp only [hmem]
      split <;> rfl

theorem nodup_wordsOf_addTo (hnodup : (wordsOf entries).Nodup) :
    (wordsOf (addTo entries entry)).Nodup := by
  rw [wordsOf_addTo]
  split
  next => exact hnodup
  next hnot =>
    rw [← List.concat_eq_append]
    exact hnodup.concat hnot

theorem entryOf?_addTo :
    entryOf? (addTo entries entry) word =
      if entry.word = word then
        some ((entryOf? entries word).elim entry (·.raise entry.count))
      else entryOf? entries word := by
  induction entries with
  | nil => rw [addTo, entryOf?_cons, entryOf?_nil, Option.elim_none]
  | cons first entries ih =>
    rw [addTo]
    split
    next heq =>
      rw [entryOf?_cons, entryOf?_cons, ← heq]
      by_cases hword : first.word = word
      · rw [if_pos hword, if_pos hword, if_pos hword]
        rfl
      · rw [if_neg hword, if_neg hword, if_neg hword]
    next hne =>
      rw [entryOf?_cons, entryOf?_cons, ih]
      split
      next hfirst => rw [if_neg fun heq => hne (hfirst.trans heq.symm)]
      next => rfl

/-- What merging does to the entry of a word. -/
def merged (ours theirs : Option TallyEntry) : Option TallyEntry :=
  theirs.elim ours fun entry => some (ours.elim entry (·.raise entry.count))

/-- Entries are added word by word, so it does not matter in which order. -/
theorem entryOf?_foldl_addTo (hnodup : (wordsOf more).Nodup) :
    entryOf? (more.foldl addTo entries) word =
      merged (entryOf? entries word) (entryOf? more word) := by
  induction more generalizing entries with
  | nil => rfl
  | cons entry more ih =>
    obtain ⟨hentry, hnodup⟩ := List.nodup_cons.mp hnodup
    rw [List.foldl_cons, ih hnodup, entryOf?_addTo, entryOf?_cons]
    split
    next heq =>
      have hnone : entryOf? more word = none := entryOf?_eq_none_iff.mpr (heq ▸ hentry)
      rw [hnone]
      rfl
    next => rfl

theorem nodup_wordsOf_foldl_addTo (hnodup : (wordsOf entries).Nodup) :
    (wordsOf (more.foldl addTo entries)).Nodup := by
  induction more generalizing entries with
  | nil => exact hnodup
  | cons entry more ih => exact ih (nodup_wordsOf_addTo hnodup)

theorem wordsOf_map_shift (offset : UInt64) :
    wordsOf (entries.map (·.shift offset)) = wordsOf entries := by
  simp [wordsOf, TallyEntry.shift, Function.comp_def]

theorem entryOf?_map_shift (offset : UInt64) :
    entryOf? (entries.map (·.shift offset)) word = (entryOf? entries word).map (·.shift offset) :=
  List.find?_map ..

end Entries

/-- The entry that a history gives a word. -/
def expected? (history : List String) (word : String) : Option TallyEntry :=
  if word ∈ history then some ⟨word, .ofNat (history.count word), .ofNat (history.idxOf word)⟩
  else none

/-- The words of a second history are counted behind those of the first. -/
theorem expected?_append (history later : List String) (word : String) :
    expected? (history ++ later) word =
      merged (expected? history word)
        ((expected? later word).map (·.shift (.ofNat history.length))) := by
  by_cases hold : word ∈ history
  · rw [expected?, List.idxOf_append_of_mem hold, List.count_append]
    by_cases hnew : word ∈ later
    · simp [expected?, merged, hold, hnew, TallyEntry.raise, TallyEntry.shift, UInt64.ofNat_add]
    · simp [expected?, merged, hold, hnew, List.count_eq_zero_of_not_mem hnew]
  · rw [expected?, List.idxOf_append_of_notMem hold, List.count_append,
      List.count_eq_zero_of_not_mem hold]
    by_cases hnew : word ∈ later <;>
      simp [expected?, merged, hold, hnew, TallyEntry.shift, UInt64.ofNat_add]

/-- A tally holds what its history gives, one entry for each word. -/
structure Records (tally : Tally) (history : List String) : Prop where
  nodup : (wordsOf tally.entries).Nodup
  entryOf?_eq : ∀ word, entryOf? tally.entries word = expected? history word
  length_eq : tally.total = .ofNat history.length

/-- The tallies that can be put together, each with its history. The entries are those of a map,
so they may be enumerated in any order. -/
inductive Built : Tally → List String → Prop
  | empty : Built {} []
  | add {tally history} (word : String) (built : Built tally history) :
      Built (tally.add word) (history ++ [word])
  | tallyInto {tally history} (counter : WordCounter) (text : List Char)
      (built : Built tally history) :
      Built (counter.tallyInto text tally) (history ++ counter.words text)
  | merge {tally other history later} (built : Built tally history) (next : Built other later) :
      Built (tally.merge other) (history ++ later)
  | reorder {tally history entries} (perm : entries.Perm tally.entries)
      (built : Built tally history) : Built ⟨entries, tally.total⟩ history

namespace Records

variable {tally other : Tally} {history later : List String} {word : String}
  {entry : TallyEntry}

theorem empty : Records {} [] where
  nodup := List.nodup_nil
  entryOf?_eq _ := rfl
  length_eq := rfl

theorem merge (h : Records tally history) (hlater : Records other later) :
    Records (tally.merge other) (history ++ later) := by
  have hentries : (tally.merge other).entries =
      (other.entries.map (·.shift tally.total)).foldl addTo tally.entries := by
    rw [List.foldl_map]
    rfl
  refine ⟨?_, ?_, ?_⟩
  · rw [hentries]
    exact nodup_wordsOf_foldl_addTo h.nodup
  · intro word
    rw [hentries, entryOf?_foldl_addTo ((wordsOf_map_shift _).symm ▸ hlater.nodup),
      entryOf?_map_shift, h.entryOf?_eq, hlater.entryOf?_eq, h.length_eq, expected?_append]
  · change tally.total + other.total = _
    rw [h.length_eq, hlater.length_eq, List.length_append, UInt64.ofNat_add]

/-- Counting one occurrence is merging a tally of one word. -/
theorem add (h : Records tally history) (word : String) :
    Records (tally.add word) (history ++ [word]) := by
  have hone : Records ⟨[⟨word, 1, 0⟩], 1⟩ [word] := by
    refine ⟨List.nodup_singleton word, ?_, rfl⟩
    intro w
    rw [entryOf?_cons, expected?]
    by_cases hw : word = w <;> simp [hw, eq_comm]
  have hmerge : tally.add word = tally.merge ⟨[⟨word, 1, 0⟩], 1⟩ := by
    simp [Tally.add, Tally.merge]
  rw [hmerge]
  exact h.merge hone

theorem addAll (h : Records tally history) (words : List String) :
    Records (tally.addAll words) (history ++ words) := by
  induction words generalizing tally history with
  | nil => rwa [List.append_nil]
  | cons word words ih =>
    rw [← List.singleton_append, ← List.append_assoc]
    exact ih (h.add word)

theorem reorder {entries : List TallyEntry} (hperm : entries.Perm tally.entries)
    (h : Records tally history) : Records ⟨entries, tally.total⟩ history where
  nodup := (hperm.map _).nodup_iff.mpr h.nodup
  entryOf?_eq word := (entryOf?_eq_of_perm hperm h.nodup).trans (h.entryOf?_eq word)
  length_eq := h.length_eq

theorem of_built (h : Built tally history) : Records tally history := by
  induction h with
  | empty => exact empty
  | add word _ ih => exact ih.add word
  | tallyInto counter text _ ih => exact ih.addAll (counter.words text)
  | merge _ _ ih ihnext => exact ih.merge ihnext
  | reorder perm _ ih => exact ih.reorder perm

theorem mem_entries_iff (h : Records tally history) :
    entry ∈ tally.entries ↔
      entry.word ∈ history ∧ entry =
        ⟨entry.word, .ofNat (history.count entry.word), .ofNat (history.idxOf entry.word)⟩ := by
  have hfind : entryOf? tally.entries entry.word = some entry ↔ _ := entryOf?_eq_some_iff h.nodup
  rw [h.entryOf?_eq, expected?, and_iff_left rfl] at hfind
  rw [← hfind]
  split
  next hmem => simp [hmem, eq_comm]
  next hmem => simp [hmem]

theorem mem_wordsOf_iff (h : Records tally history) :
    word ∈ wordsOf tally.entries ↔ word ∈ history := by
  rw [← not_iff_not, ← entryOf?_eq_none_iff, h.entryOf?_eq, expected?]
  split <;> simp [*]

/-- The words that have an entry are the different words of the history. -/
theorem wordsOf_perm_dedup (h : Records tally history) :
    (wordsOf tally.entries).Perm history.dedup := by
  rw [List.perm_ext_iff_of_nodup h.nodup history.nodup_dedup]
  intro word
  rw [h.mem_wordsOf_iff, List.mem_dedup]

theorem count_eq (h : Records tally history) (word : String) :
    tally.count word = .ofNat (history.count word) := by
  change ((entryOf? tally.entries word).map (·.count)).getD 0 = _
  rw [h.entryOf?_eq, expected?]
  split
  next => rfl
  next hnot => rw [List.count_eq_zero_of_not_mem hnot]; rfl

theorem size_eq (h : Records tally history) : tally.size = history.dedup.length := by
  rw [← h.wordsOf_perm_dedup.length_eq, wordsOf, List.length_map]
  rfl

section Short

variable (hshort : history.length < UInt64.size)
include hshort

theorem toNat_count (h : Records tally history) (hmem : entry ∈ tally.entries) :
    entry.count.toNat = history.count entry.word := by
  rw [(h.mem_entries_iff.mp hmem).2]
  exact UInt64.toNat_ofNat_of_lt' (List.count_le_length.trans_lt hshort)

theorem toNat_firstSeen (h : Records tally history) (hmem : entry ∈ tally.entries) :
    entry.firstSeen.toNat = history.idxOf entry.word := by
  rw [(h.mem_entries_iff.mp hmem).2]
  exact UInt64.toNat_ofNat_of_lt' (List.idxOf_le_length.trans_lt hshort)

theorem toNat_total (h : Records tally history) : tally.total.toNat = history.length := by
  rw [h.length_eq, UInt64.toNat_ofNat_of_lt' hshort]

theorem sum_count_eq (h : Records tally history) :
    (tally.entries.map (·.count.toNat)).sum = tally.total.toNat := by
  have hcounts : tally.entries.map (·.count.toNat) =
      (wordsOf tally.entries).map history.count := by
    rw [wordsOf, List.map_map]
    exact List.map_congr_left fun entry hmem => h.toNat_count hshort hmem
  rw [hcounts, (h.wordsOf_perm_dedup.map _).sum_eq, List.sum_map_count_dedup_eq_length,
    h.toNat_total hshort]

theorem firstSeen_eq (h : Records tally history) (hmem : entry ∈ tally.entries) :
    history.idxOf? entry.word = some entry.firstSeen.toNat := by
  rw [h.toNat_firstSeen hshort hmem]
  have hword := (h.mem_entries_iff.mp hmem).1
  exact List.findIdx?_eq_some_iff_findIdx_eq.mpr ⟨List.idxOf_lt_length_of_mem hword, rfl⟩

theorem nodup_firstSeen (h : Records tally history) :
    (tally.entries.map (·.firstSeen)).Nodup := by
  refine List.Nodup.map_on ?_ (.of_map _ h.nodup)
  intro a ha b hb heq
  have hword : a.word = b.word := by
    rw [← List.idxOf_inj (h.mem_entries_iff.mp ha).1, ← h.toNat_firstSeen hshort ha,
      ← h.toNat_firstSeen hshort hb, heq]
  rw [(h.mem_entries_iff.mp ha).2, (h.mem_entries_iff.mp hb).2, hword]

end Short

end Records

/-- Tallies that are equal as maps. -/
structure Same (tally other : Tally) : Prop where
  entries_perm : tally.entries.Perm other.entries
  total_eq : tally.total = other.total

section Same

variable {tally other : Tally} {history : List String} {counter : WordCounter}
  {documents : List (List Char)} {tallies : List Tally}

theorem Same.refl (tally : Tally) : Same tally tally := ⟨.refl _, rfl⟩

theorem Records.same (h : Records tally history) (hother : Records other history) :
    Same tally other where
  entries_perm := by
    rw [List.perm_ext_iff_of_nodup (.of_map _ h.nodup) (.of_map _ hother.nodup)]
    intro entry
    rw [h.mem_entries_iff, hother.mem_entries_iff]
  total_eq := h.length_eq.trans hother.length_eq.symm

/-- A history has only one tally. -/
theorem Built.same (h : Built tally history) (hother : Built other history) : Same tally other :=
  (Records.of_built h).same (Records.of_built hother)

theorem Built.of_same (h : Built other history) (hsame : Same tally other) :
    Built tally history := by
  obtain ⟨entries, total⟩ := tally
  obtain rfl : total = other.total := hsame.total_eq
  exact .reorder hsame.entries_perm h

theorem built_tally (counter : WordCounter) (text : List Char) :
    Built (counter.tally text) (counter.words text) :=
  .tallyInto counter text .empty

/-- Merging the tallies of documents counts their words one document after the other. -/
theorem built_foldl_merge
    (hdocuments : List.Forall₂ (fun tally text => Same tally (counter.tally text))
      tallies documents)
    (h : Built tally history) :
    Built (tallies.foldl merge tally) (history ++ documents.flatMap counter.words) := by
  induction hdocuments generalizing tally history with
  | nil => simpa using h
  | @cons document text _ _ hsame _ ih =>
    have hdocument : Built document (counter.words text) := (built_tally counter text).of_same hsame
    simpa using ih (h.merge hdocument)

theorem built_foldl_tallyInto (h : Built tally history) :
    Built (documents.foldl (fun tally text => counter.tallyInto text tally) tally)
      (history ++ documents.flatMap counter.words) := by
  induction documents generalizing tally history with
  | nil => simpa using h
  | cons text documents ih => simpa using ih (h.tallyInto counter text)

/-- Merging the tallies of documents and counting one document after the other have one history. -/
theorem exists_built_documents
    (hdocuments : List.Forall₂ (fun tally text => Same tally (counter.tally text))
      tallies documents)
    (h : Built tally history) (hother : Built other history) :
    ∃ whole, Built (tallies.foldl merge tally) whole ∧
      Built (documents.foldl (fun tally text => counter.tallyInto text tally) other) whole :=
  ⟨_, built_foldl_merge hdocuments h, built_foldl_tallyInto hother⟩

end Same

/-- What a tally tells of its history. -/
structure Summarizes (tally : Tally) (history : List String) : Prop where
  count_eq : ∀ word, (tally.count word).toNat = history.count word
  total_eq : tally.total.toNat = history.length
  sum_count_eq : (tally.entries.map (·.count.toNat)).sum = tally.total.toNat
  size_eq : tally.size = history.dedup.length
  firstSeen_eq : ∀ entry ∈ tally.entries, history.idxOf? entry.word = some entry.firstSeen.toNat
  nodup_firstSeen : (tally.entries.map (·.firstSeen)).Nodup

theorem Records.summarizes {tally : Tally} {history : List String} (h : Records tally history)
    (hshort : history.length < UInt64.size) : Summarizes tally history where
  count_eq word := by
    rw [h.count_eq, UInt64.toNat_ofNat_of_lt' (List.count_le_length.trans_lt hshort)]
  total_eq := h.toNat_total hshort
  sum_count_eq := h.sum_count_eq hshort
  size_eq := h.size_eq
  firstSeen_eq _ hmem := h.firstSeen_eq hshort hmem
  nodup_firstSeen := h.nodup_firstSeen hshort

/-- A tally is determined by its history, of which it tells all if that is shorter than 2^64 words.
Hence tallies may be merged in any grouping, and those of single documents give the tally of
all. -/
theorem determined_by_history :
    (∀ tally history, Built tally history →
      Records tally history ∧ (history.length < UInt64.size → Summarizes tally history)) ∧
      (∀ a b c first second third, Built a first → Built b second → Built c third →
        Same ((a.merge b).merge c) (a.merge (b.merge c))) ∧
      ∀ (counter : WordCounter) documents tallies,
        List.Forall₂ (fun tally text => Same tally (counter.tally text)) tallies documents →
          Same (tallies.foldl merge {})
            (documents.foldl (fun tally text => counter.tallyInto text tally) {}) := by
  refine ⟨fun _ _ h => ⟨.of_built h, (Records.of_built h).summarizes⟩, ?_, ?_⟩
  · intro a b c first second third ha hb hc
    have hleft := (ha.merge hb).merge hc
    rw [List.append_assoc] at hleft
    exact hleft.same (ha.merge (hb.merge hc))
  · intro counter documents tallies hdocuments
    obtain ⟨whole, hmerged, hcounted⟩ := exists_built_documents hdocuments .empty .empty
    exact hmerged.same hcounted

/-- A counter of single characters. -/
def letters : WordCounter := ⟨⟨.ofCollected ClassIndex.builtIns, [], []⟩, .all⟩

/-- A tally merged with itself, and those of two documents. -/
theorem determined_by_history_of_letters :
    letters.words ['b', 'a'] = ["b", "a"] ∧
      Summarizes ((letters.tally ['b', 'a']).merge (letters.tally ['b', 'a']))
        ["b", "a", "b", "a"] ∧
      Same (((letters.tally ['b', 'a']).merge (letters.tally ['a'])).merge {})
        ((letters.tally ['b', 'a']).merge ((letters.tally ['a']).merge {})) ∧
      Same ([letters.tally ['b', 'a'], letters.tally ['a']].foldl merge {})
        (letters.tallyInto ['a'] (letters.tallyInto ['b', 'a'] {})) := by
  have hwords : letters.words ['b', 'a'] = ["b", "a"] := by decide +kernel
  have hpair : Built (letters.tally ['b', 'a']) ["b", "a"] := hwords ▸ built_tally letters _
  have hone : Built (letters.tally ['a']) (letters.words ['a']) := built_tally letters ['a']
  refine ⟨hwords, (determined_by_history.1 _ _ (hpair.merge hpair)).2 (by decide),
    determined_by_history.2.1 _ _ _ _ _ _ hpair hone .empty, ?_⟩
  exact determined_by_history.2.2 letters [['b', 'a'], ['a']] _
    (.cons (.refl _) (.cons (.refl _) .nil))

/-- A tally merged with itself so many times. -/
def doubled (tally : Tally) : Nat → Tally
  | 0 => tally
  | n + 1 => (tally.doubled n).merge (tally.doubled n)

theorem built_doubled (word : String) (n : Nat) :
    Built ((add {} word).doubled n) (List.replicate (2 ^ n) word) := by
  induction n with
  | zero => exact .add word .empty
  | succ n ih =>
    rw [Nat.pow_succ, Nat.mul_two, ← List.replicate_append_replicate]
    exact ih.merge ih

/-- One word and sixty-four merges are enough for a history that is not counted any more. -/
theorem not_summarizes_of_doubled :
    ∃ history, Built ((add {} "a").doubled 64) history ∧
      history.length = 18446744073709551616 ∧ ((add {} "a").doubled 64).total = 0 ∧
      ¬ Summarizes ((add {} "a").doubled 64) history := by
  have hbuilt := built_doubled "a" 64
  have hlength : (List.replicate (2 ^ 64) "a").length = 18446744073709551616 :=
    List.length_replicate
  have htotal : ((add {} "a").doubled 64).total = 0 := by
    rw [(Records.of_built hbuilt).length_eq, hlength]
    rfl
  refine ⟨_, hbuilt, hlength, htotal, fun hsummarizes => ?_⟩
  have := hsummarizes.total_eq
  rw [htotal, hlength] at this
  cases this

end Tally
end BoundaryRules
