import BoundaryRules.Proofs.CommandRuns
import BoundaryRules.Proofs.FilePlaces

/-! Output files of commands that fail. A count makes its output file when nothing but the room for
its report can be wanting any more. A split makes it before it reads its inputs, so if one of them
cannot be read, the file has been emptied and holds what was reported before. -/
namespace BoundaryRules

section Run

variable {libraries : Libraries} {surroundings : Surroundings} {command : Command}
  {count : CountCommand} {split : SplitCommand} {made : FileTree} {path report other : String}
  {failure : Failure}

/-- A command makes its output file, and this is what it reports, up to its end or to where it
fails. -/
inductive Command.Writes (libraries : Libraries) (surroundings : Surroundings) :
    Command → String → Prop where
  | split {split : SplitCommand} {sources : List Input} {segmenter : Segmenter} {made : FileTree}
      {emitted : List (String × Segment)} {stopped : Option Failure}
      (hready : split.Ready libraries surroundings sources segmenter made)
      (hcollect : split.collectInto segmenter surroundings made sources = (emitted, stopped)) :
      Writes libraries surroundings (.split split) (split.layOut emitted stopped)
  | count {count : CountCommand} {counted : List (String × Nat)} {made : FileTree}
      (hcounts : count.counts libraries surroundings = .ok counted)
      (hmade : count.target.create surroundings.files = .ok made) :
      Writes libraries surroundings (.count count) (count.layOut counted)

/-- In an output file that was made there is as much of the report as there is room for. -/
theorem Target.node_deliver {target : Target} (hpath : target.file = some path)
    (hmade : target.create surroundings.files = .ok made) (report : String)
    (failure : Option Failure) :
    (target.deliver surroundings made report failure).files.node path =
      .ok (.file (surroundings.taken report.toUTF8.toList)) := by
  simp only [create, hpath, mapError_eq_ok_iff] at hmade
  obtain ⟨hwritable, rfl⟩ := FileTree.writable_of_write hmade
  simpa only [deliver, hpath] using (hwritable.put []).node_put _

namespace Command

theorem Writes.node_output (h : command.Writes libraries surroundings report)
    (hpath : command.outputFile? = some path) :
    (command.runWith libraries surroundings).files.node path =
      .ok (.file (surroundings.taken report.toUTF8.toList)) := by
  cases h with
  | split hready hcollect =>
    rw [runWith, hready.run_eq hcollect]
    exact Target.node_deliver hpath hready.create_eq _ _
  | count hcounts hmade =>
    rw [runWith, CountCommand.run_eq hcounts hmade]
    exact Target.node_deliver hpath hmade _ _

/-- What a command writes is determined. -/
theorem Writes.unique (h : command.Writes libraries surroundings report)
    (hother : command.Writes libraries surroundings other) : report = other := by
  cases h with
  | split hready hcollect =>
    obtain ⟨hready', hcollect'⟩ := hother
    obtain ⟨rfl, rfl, rfl⟩ := hready.unique hready'
    obtain ⟨rfl, rfl⟩ := Prod.mk.inj (hcollect.symm.trans hcollect')
    rfl
  | count hcounts hmade =>
    obtain ⟨⟩ | ⟨hcounts', -⟩ := hother
    rw [Except.ok.inj (hcounts.symm.trans hcounts')]

/-- A command that does not come to write its output file leaves all files as they were. -/
theorem files_of_not_writes (h : ∀ report, ¬ command.Writes libraries surroundings report) :
    (command.runWith libraries surroundings).files = surroundings.files := by
  cases command with
  | split split =>
    rcases split.run_eq_fail_or_ready libraries surroundings with
      ⟨failure, hrun, -⟩ | ⟨sources, segmenter, made, hready⟩
    · rw [runWith, hrun]
      rfl
    · exact absurd (.split hready rfl) (h _)
  | count count =>
    rw [runWith]
    cases hcounts : count.counts libraries surroundings with
    | error failure => rw [CountCommand.run_of_counts_eq_error hcounts]; rfl
    | ok counted =>
      cases hmade : count.target.create surroundings.files with
      | error failure => rw [CountCommand.run_of_create_eq_error hcounts hmade]; rfl
      | ok made => exact absurd (.count hcounts hmade) (h _)
  | validate grammar => unfold runWith runValidate; dsimp only; split <;> rfl
  | listClasses grammar => unfold runWith runList; dsimp only; split <;> rfl
  | listRules grammar => unfold runWith runList; dsimp only; split <;> rfl
  | listFormats => rfl

/-- A count that writes fails only if there is no room for its report. -/
theorem Writes.refusal?_eq (h : (Command.count count).Writes libraries surroundings report)
    (hfailure : (Command.runWith libraries (.count count) surroundings).failure = some failure) :
    surroundings.refusal? report.toUTF8.toList.length = some failure := by
  obtain ⟨⟩ | ⟨hcounts, hmade⟩ := h
  rw [runWith, CountCommand.run_eq hcounts hmade] at hfailure
  rw [← hfailure]
  unfold Target.deliver
  split <;> rfl

/-- A command that fails leaves what its output file held, unless it had come to write it and the
file did not happen to hold what was written. A count has then failed for want of room. -/
theorem node_output_eq_iff (hpath : command.outputFile? = some path)
    (hfailure : (command.runWith libraries surroundings).failure = some failure) :
    ((command.runWith libraries surroundings).files.node path = surroundings.files.node path ↔
      ∀ report, command.Writes libraries surroundings report →
        surroundings.files.node path =
          .ok (.file (surroundings.taken report.toUTF8.toList))) ∧
    ((∀ report, ¬ command.Writes libraries surroundings report) →
      (command.runWith libraries surroundings).files = surroundings.files) ∧
    ∀ count report, command = .count count → command.Writes libraries surroundings report →
      surroundings.refusal? report.toUTF8.toList.length = some failure := by
  refine ⟨⟨?_, ?_⟩, files_of_not_writes, ?_⟩
  · intro hsame report hwrites
    rw [← hsame, hwrites.node_output hpath]
  · intro hheld
    by_cases hwrites : ∃ report, command.Writes libraries surroundings report
    · obtain ⟨report, hwrites⟩ := hwrites
      rw [hwrites.node_output hpath, hheld report hwrites]
    · rw [files_of_not_writes (not_exists.mp hwrites)]
  · rintro count report rfl hwrites
    exact hwrites.refusal?_eq hfailure

end Command

end Run

/-! A file of words and one that is no text, with an output file that was there before. -/
namespace Interruption

def surroundings : Surroundings where
  files := .ofFiles [
    ("letters.toml", ("[metadata]\nname = 'letters'\n[sources]\nclasses = 'classes'\n" ++
      "rules = 'rules'\n").toUTF8.toList),
    ("classes", "61..7A ; LETTER".toUTF8.toList),
    ("rules", "WORD LETTER × LETTER".toUTF8.toList),
    ("first.txt", "to be".toUTF8.toList),
    ("second.txt", [0xFF]),
    ("out", "old".toUTF8.toList)]

def failure : Failure := .unreadable "second.txt" .notText

def count : CountCommand :=
  ⟨["*.txt"], 2, false, false, none, some "letters.toml", { file := some "out" }⟩

def split : SplitCommand := ⟨["*.txt"], true, some "letters.toml", { file := some "out" }⟩

theorem node_output_eq_of_count :
    (Command.run (.count count) surroundings).failure = some failure ∧
      (Command.run (.count count) surroundings).files.node "out" =
        surroundings.files.node "out" := by
  have hfailure : (Command.run (.count count) surroundings).failure = some failure := by
    decide +kernel
  have hcounts : count.counts .standard surroundings = .error failure := by decide +kernel
  refine ⟨hfailure, (Command.node_output_eq_iff rfl hfailure).1.mpr ?_⟩
  rintro report (⟨⟩ | ⟨hcounted, -⟩)
  cases hcounts.symm.trans hcounted

/-- The file was emptied, and the words of the first input are in it. -/
theorem node_output_ne_of_split :
    (Command.run (.split split) surroundings).failure = some failure ∧
      (Command.run (.split split) surroundings).files.read "out" =
        .ok "to\nbe\n".toUTF8.toList ∧
      (Command.run (.split split) surroundings).files.node "out" ≠
        surroundings.files.node "out" := by
  have hfailure : (Command.run (.split split) surroundings).failure = some failure := by
    decide +kernel
  have hafter : (Command.run (.split split) surroundings).files.read "out" =
      .ok "to\nbe\n".toUTF8.toList := by
    decide +kernel
  have hbefore : surroundings.files.read "out" = .ok "old".toUTF8.toList := by decide +kernel
  refine ⟨hfailure, hafter, fun hsame => ?_⟩
  rw [(FileTree.read_eq_ok_iff.mp hafter).2, (FileTree.read_eq_ok_iff.mp hbefore).2] at hsame
  have hcontent := Node.file.inj (Except.ok.inj hsame)
  revert hcontent
  decide +kernel

end Interruption
end BoundaryRules
