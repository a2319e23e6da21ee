import BoundaryRules.Proofs.CommandRuns
import BoundaryRules.Proofs.JsonReports
import BoundaryRules.Proofs.PlainReports

/-! Counting agrees with splitting. The words that a count ranks are the segments that a split of
the same inputs reports, however many workers tally them and whichever worker is done first, as long
as places for so many words can be set aside. -/
namespace BoundaryRules

/-- Workers hand in what they make of inputs in the order of these, whichever of them is done first,
and enumerate all entries of a tally. -/
structure Workers.Reliable (workers : Workers) : Prop where
  collect_eq : ∀ threads task sources tallies,
    List.Forall₂ (fun source tally => task source = .ok tally) sources tallies →
      workers.collect threads task sources = .ok tallies
  enumerate_perm : ∀ source? entries, (workers.enumerate source? entries).Perm entries

theorem Workers.reliable_alone : Workers.alone.Reliable where
  collect_eq _ _ _ _ h := mapM_eq_ok_iff.mpr h
  enumerate_perm _ _ := .refl _

/-- A split and a valid count of the same inputs, with the same grammar and of the same kind of
segments in their own spelling. -/
structure CountCommand.Counts (count : CountCommand) (split : SplitCommand) : Prop where
  inputs_eq : count.inputs = split.inputs
  grammar_eq : count.grammar = split.grammar
  allSegments_eq : count.allSegments = !split.wordsOnly
  lowercase_eq : count.lowercase = false
  top_ne_zero : count.top ≠ 0
  threads_ne_zero : count.threads ≠ some 0

section Split

variable {split : SplitCommand} {count : CountCommand} {libraries : Libraries}
  {surroundings : Surroundings} {segmenter : Segmenter} {sources : List Input}
  {texts : List (List Char)} {made : FileTree}

/-- The filter of a count lets through what the split reports. -/
theorem CountCommand.Counts.apply_filter (h : count.Counts split) (segment : Segment) :
    count.settings.filter.apply segment.text =
      if split.reports segment then some segment.text else none := by
  unfold settings Settings.filter SplitCommand.reports
  rw [h.allSegments_eq, h.lowercase_eq, Bool.not_not]
  cases split.wordsOnly with
  | false => rfl
  | true =>
    simp only [if_true, Bool.not_true, Bool.false_or, WordFilter.words, Bool.false_and]
    by_cases hletter : segment.text.toList.head?.any Unicode.isLetterOrNumber <;> simp [hletter]

theorem CountCommand.Counts.words_eq (h : count.Counts split) (ruleset : Ruleset)
    (text : List Char) :
    WordCounter.words ⟨ruleset, count.settings.filter⟩ text =
      ((ruleset.segments text).filter split.reports).map (·.text) := by
  rw [WordCounter.words, Ruleset.words, List.filterMap_map, ← List.filterMap_eq_map,
    List.filterMap_filter]
  exact List.filterMap_congr fun segment _ => h.apply_filter segment

namespace SplitCommand

/-- What a split emits of inputs that can be read, in the order of the inputs. -/
structure Emits (split : SplitCommand) (libraries : Libraries) (surroundings : Surroundings)
    (sources : List Input) (segmenter : Segmenter) (emitted : List (String × Segment)) : Prop where
  eq_flatten : ∃ texts, surroundings.Reads sources texts ∧
    emitted = (List.zipWith (split.reportsOf segmenter) sources texts).flatten
  /-- The split delivers its report of them if there is room for it, and if it does not write into
  its inputs. -/
  run_eq : surroundings.room? = none → ∀ made, split.target.create surroundings.files = .ok made →
    split.Spares surroundings made sources (split.layOut emitted none) →
    split.run libraries surroundings =
      split.target.deliver surroundings made (split.layOut emitted none) none
  hasLines : split.target.format = .plain →
    HasLines (split.layOut emitted none).toList
      (emitted.map fun entry => Escape.visible entry.2.text.toList)
  isReport : split.target.format = .json →
    Json.IsReport (split.layOut emitted none).toList (emitted.map Json.segmentMembers)

theorem emits_flatten
    (hsources : Input.resolveWith (libraries.glob surroundings.files) surroundings.files
      split.inputs = .ok sources)
    (hsegmenter : Settings.prepare { grammar := .ofPath split.grammar } libraries.describe
      surroundings.files = .ok segmenter)
    (htexts : surroundings.Reads sources texts) :
    split.Emits libraries surroundings sources segmenter
      (List.zipWith (split.reportsOf segmenter) sources texts).flatten where
  eq_flatten := ⟨texts, htexts, rfl⟩
  run_eq hroom made hmade hspared :=
    Ready.run_eq_of_spares ⟨hsources, hsegmenter, hmade⟩ hroom htexts hspared
  hasLines hplain := by
    rw [layOut, hplain]
    have hlines := Plain.hasLines_segmentLines
      ((List.zipWith (split.reportsOf segmenter) sources texts).flatten.map (·.2.text))
    rwa [List.map_map] at hlines
  isReport hjson := by
    rw [layOut, hjson]
    exact Json.isReport_ofSegments _

end SplitCommand

/-- The segments that a split reports are the words that the count finds in the same texts. -/
theorem CountCommand.Counts.map_text_eq (h : count.Counts split)
    (htexts : surroundings.Reads sources texts) :
    (List.zipWith (split.reportsOf segmenter) sources texts).flatten.map (·.2.text) =
      texts.flatMap (Segmenter.counter ⟨count.settings, segmenter.ruleset⟩).words := by
  have hwords : (Segmenter.counter ⟨count.settings, segmenter.ruleset⟩).words =
      fun text => (split.reported segmenter text).map (·.text) :=
    funext (h.words_eq segmenter.ruleset)
  rw [hwords, ← List.map_flatMap, ← SplitCommand.map_snd_reports htexts, List.map_map]
  rfl

end Split

section Count

variable {split : SplitCommand} {count : CountCommand} {libraries : Libraries}
  {workers : Workers} {surroundings : Surroundings} {segmenter : Segmenter} {sources : List Input}
  {texts : List (List Char)} {words : List String}

theorem Workers.Reliable.same_reorder (h : workers.Reliable) (source? : Option Input)
    (tally : Tally) : (workers.reorder source? tally).Same tally :=
  ⟨h.enumerate_perm source? tally.entries, rfl⟩

theorem Workers.tally_eq {source : Input} {text : List Char}
    (htext : surroundings.read surroundings.files source = .ok text) :
    workers.tally segmenter surroundings source =
      .ok (workers.reorder (some source) (segmenter.tally text)) := by
  rw [tally, htext]
  rfl

/-- Workers tally the words of all texts. -/
theorem Workers.Reliable.exists_tallies (h : workers.Reliable) (threads : UInt64)
    (htexts : surroundings.Reads sources texts) :
    ∃ tallies, workers.collect threads (workers.tally segmenter surroundings) sources =
        .ok tallies ∧
      Tally.Built (workers.merge tallies) (texts.flatMap segmenter.counter.words) := by
  -- Tallies stand between inputs and texts: each is what a worker makes of its input, and up to the
  -- order of its entries the tally of the text.
  have htallies : ∃ tallies,
      List.Forall₂ (fun source tally => workers.tally segmenter surroundings source = .ok tally)
        sources tallies ∧
      List.Forall₂ (fun tally text => tally.Same (segmenter.counter.tally text)) tallies texts := by
    induction htexts with
    | nil => exact ⟨[], .nil, .nil⟩
    | @cons source text _ _ htext _ ih =>
      obtain ⟨tallies, hsources, htexts⟩ := ih
      exact ⟨_, .cons (tally_eq htext) hsources, .cons (h.same_reorder _ _) htexts⟩
  obtain ⟨tallies, hsources, htexts⟩ := htallies
  refine ⟨tallies, h.collect_eq _ _ _ _ hsources, ?_⟩
  exact (Tally.built_foldl_merge htexts .empty).of_same (h.same_reorder none _)

/-- What a count ranks of words: the first of them by count and then by position. -/
structure CountCommand.Ranks (count : CountCommand) (libraries : Libraries)
    (surroundings : Surroundings) (words : List String) (counted : List (String × Nat)) : Prop where
  eq_leading : ∃ ranking, Tally.IsRanking words ranking ∧
    counted = Tally.leading words ranking count.top.toNat
  counts_eq : count.counts libraries surroundings = .ok counted
  run_eq : ∀ made, count.target.create surroundings.files = .ok made →
    count.run libraries surroundings =
      count.target.deliver surroundings made (count.layOut counted) none
  hasLines : count.target.format = .plain →
    ∃ written, HasLines (count.layOut counted).toList written ∧
      List.Forall₂ (Plain.IsCountLine (Plain.countWidth counted)) counted written
  isReport : count.target.format = .json →
    Json.IsReport (count.layOut counted).toList (counted.map Json.countMembers)

/-- A count of words that were tallied has them ranked, or runs out of capacity. -/
theorem CountCommand.ranks_iff_fits_of_built {tally : Tally} (hbuilt : Tally.Built tally words)
    (hshort : words.length < UInt64.size) (htop : count.top ≠ 0)
    (hcounts : count.counts libraries surroundings = (tally.top count.top).mapError .ofHalt) :
    ((∃ counted, count.Ranks libraries surroundings words counted) ↔
      BestOf.Fits Tally.rankedSize count.top) ∧
    (¬ BestOf.Fits Tally.rankedSize count.top →
      count.run libraries surroundings = .fail surroundings.files .capacityOverflow) := by
  have hrecords := Tally.Records.of_built hbuilt
  have hranking := Tally.isRanking_descending hshort hrecords
  refine ⟨⟨?_, ?_⟩, ?_⟩
  · rintro ⟨counted, h⟩
    have hranked := mapError_eq_ok_iff.mp (hcounts.symm.trans h.counts_eq)
    exact ((Tally.exists_top_eq_ok_iff tally).mp ⟨counted, hranked⟩).2
  · intro hfits
    have hranked := Tally.top_eq_leading hshort hrecords hranking htop hfits
    rw [hranked] at hcounts
    refine ⟨_, ⟨_, hranking, rfl⟩, hcounts, fun made => run_eq hcounts, ?_, ?_⟩
    · intro hplain
      rw [layOut, hplain]
      exact Plain.exists_countLines (Tally.pairwise_of_top hranked)
    · intro hjson
      rw [layOut, hjson]
      exact Json.isReport_ofCounts _
  · intro hfits
    apply run_of_counts_eq_error
    rw [hcounts, Tally.top_of_not_fits htop hfits]
    rfl

/-- A count ranks what a split of the same readable inputs emits, just if places for the words to
rank and one more may be set aside. Otherwise it panics. -/
theorem CountCommand.Counts.agrees_iff_fits (h : count.Counts split)
    (hworkers : libraries.workers.Reliable)
    (hstart : libraries.workers.start (count.threadsOf libraries.workers) = .ok ())
    (hsources : Input.resolveWith (libraries.glob surroundings.files) surroundings.files
      split.inputs = .ok sources)
    (hsegmenter : Settings.prepare { grammar := .ofPath split.grammar } libraries.describe
      surroundings.files = .ok segmenter)
    (hreadable : ∀ source ∈ sources, ∃ text,
      surroundings.read surroundings.files source = .ok text) :
    ∃ emitted, split.Emits libraries surroundings sources segmenter emitted ∧
      (emitted.length < UInt64.size →
        ((∃ counted,
            count.Ranks libraries surroundings (emitted.map (·.2.text)) counted) ↔
          BestOf.Fits Tally.rankedSize count.top) ∧
        (¬ BestOf.Fits Tally.rankedSize count.top →
          count.run libraries surroundings = .fail surroundings.files .capacityOverflow)) := by
  obtain ⟨texts, htexts⟩ := exists_mapM_eq_ok_iff.mpr hreadable
  rw [mapM_eq_ok_iff] at htexts
  refine ⟨_, SplitCommand.emits_flatten hsources hsegmenter htexts, fun hshort => ?_⟩
  have hprepare : count.settings.prepare libraries.describe surroundings.files =
      .ok ⟨count.settings, segmenter.ruleset⟩ :=
    Settings.prepare_of_grammar_eq hsegmenter (congrArg GrammarSource.ofPath h.grammar_eq)
  obtain ⟨tallies, hcollect, hbuilt⟩ :=
    hworkers.exists_tallies (count.threadsOf libraries.workers) htexts
  have hcounts := CountCommand.countsOf_eq h.top_ne_zero h.threads_ne_zero hprepare hstart hcollect
  rw [← hsources, ← h.inputs_eq] at hcounts
  rw [← h.map_text_eq htexts] at hbuilt
  exact CountCommand.ranks_iff_fits_of_built hbuilt (by rwa [List.length_map]) h.top_ne_zero hcounts

end Count

/-! Two files of words, and a grammar that keeps small letters together. The last file is tallied
first, and the words of a tally are enumerated from the last to the first. -/
namespace Question

def surroundings : Surroundings where
  files := .ofFiles [
    ("letters.toml", ("[metadata]\nname = 'letters'\n[sources]\nclasses = 'classes'\n" ++
      "rules = 'rules'\n").toUTF8.toList),
    ("classes", "61..7A ; LETTER".toUTF8.toList),
    ("rules", "WORD LETTER × LETTER".toUTF8.toList),
    ("first.txt", "to be or".toUTF8.toList),
    ("second.txt", "not to be".toUTF8.toList)]

def backwards : Workers where
  available := 1
  start _ := .ok ()
  collect _ task sources := (sources.reverse.mapM task).map List.reverse
  enumerate _ entries := entries.reverse

theorem reliable_backwards : backwards.Reliable where
  collect_eq _ _ _ _ h :=
    map_eq_ok_iff.mpr ⟨_, mapM_eq_ok_iff.mpr (List.forall₂_reverse_iff.mpr h),
      List.reverse_reverse _⟩
  enumerate_perm _ _ := List.reverse_perm _

def libraries : Libraries := { Libraries.standard with workers := backwards }

def split : SplitCommand := ⟨["*.txt"], true, some "letters.toml", {}⟩

def count : CountCommand := ⟨["*.txt"], 2, false, false, some 3, some "letters.toml", {}⟩

def sources : List Input := [.file "first.txt", .file "second.txt"]

/-- Of the words that occur twice the first one is first. -/
theorem agrees_of_question :
    ∃ segmenter emitted,
      split.Emits libraries surroundings sources segmenter emitted ∧
        count.Ranks libraries surroundings (emitted.map (·.2.text)) [("to", 2), ("be", 2)] ∧
        split.run libraries surroundings = .succeed surroundings.files
          (Plain.segmentLines ["to", "be", "or", "not", "to", "be"]) ∧
        count.run libraries surroundings = .succeed surroundings.files
          (Plain.countLines [("to", 2), ("be", 2)]) := by
  have hkind : count.Counts split := ⟨rfl, rfl, rfl, rfl, by decide, by decide⟩
  have hsources : Input.resolveWith (libraries.glob surroundings.files) surroundings.files
      split.inputs = .ok sources := by
    decide +kernel
  have htexts : sources.mapM (surroundings.read surroundings.files) =
      .ok ["to be or".toList, "not to be".toList] := by
    decide +kernel
  have hcounts : count.counts libraries surroundings = .ok [("to", 2), ("be", 2)] := by
    decide +kernel
  have hwords : (Settings.prepare { grammar := .ofPath split.grammar } libraries.describe
      surroundings.files).map (fun segmenter =>
        (List.zipWith (split.reportsOf segmenter) sources
          ["to be or".toList, "not to be".toList]).flatten.map (·.2.text)) =
      .ok ["to", "be", "or", "not", "to", "be"] := by
    decide +kernel
  obtain ⟨segmenter, hsegmenter, hwords⟩ := map_eq_ok_iff.mp hwords
  obtain ⟨emitted, hemits, hranks⟩ := hkind.agrees_iff_fits reliable_backwards rfl hsources
    hsegmenter (exists_mapM_eq_ok_iff.mp ⟨_, htexts⟩)
  obtain ⟨texts, hreads, rfl⟩ := hemits.eq_flatten
  obtain rfl := Except.ok.inj (htexts.symm.trans (mapM_eq_ok_iff.mpr hreads))
  have hshort := congrArg List.length hwords
  rw [List.length_map] at hshort
  obtain ⟨counted, hranks⟩ := (hranks (hshort ▸ by decide)).1.mpr (by decide)
  obtain rfl := Except.ok.inj (hcounts.symm.trans hranks.counts_eq)
  refine ⟨segmenter, _, hemits, hranks, ?_, hranks.run_eq _ rfl⟩
  rw [hemits.run_eq rfl _ rfl fun _ _ _ _ => rfl, ← hwords]
  rfl

def vast : CountCommand := { count with top := 1000000000000000000 }

/-- The same count panics if 10^18 words are asked for. -/
theorem not_ranks_of_vast :
    vast.Counts split ∧
      (∀ words counted, ¬ vast.Ranks libraries surroundings words counted) ∧
      vast.run libraries surroundings = .fail surroundings.files .capacityOverflow := by
  have hcounts : vast.counts libraries surroundings = .error .capacityOverflow := by
    decide +kernel
  refine ⟨⟨rfl, rfl, rfl, rfl, by decide, by decide⟩, ?_,
    CountCommand.run_of_counts_eq_error hcounts⟩
  intro words counted h
  cases hcounts.symm.trans h.counts_eq

end Question
end BoundaryRules
