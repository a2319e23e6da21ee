import BoundaryRules.Command.Run
import BoundaryRules.Proofs.Traversal

/-! Runs of commands, by what they need at each point. A split resolves its inputs, loads the
grammar and makes its output file before it reads an input, and what it has written when it reads
one is a front of its report. A count makes its output file last. -/
namespace BoundaryRules

section Settings

variable {settings other : Settings} {reader : Description.Reader} {files : FileTree}
  {segmenter : Segmenter}

theorem Settings.prepare_eq_ok_iff :
    settings.prepare reader files = .ok segmenter ↔
      settings.grammar ≠ .file "" ∧
        Segmenter.loadGrammar reader files settings.grammar = .ok segmenter.ruleset ∧
        segmenter.settings = settings := by
  unfold prepare Segmenter.make check
  obtain ⟨own, ruleset⟩ := segmenter
  split
  next hempty => simp [hempty, Except.mapError]
  next hnamed =>
    change Except.mapError _ _ = _ ↔ _
    rw [mapError_eq_ok_iff, bind_eq_ok_iff]
    constructor
    · rintro ⟨loaded, hload, heq⟩
      cases heq
      exact ⟨hnamed, hload, rfl⟩
    · rintro ⟨-, hload, rfl⟩
      exact ⟨ruleset, hload, rfl⟩

/-- What else is set does not matter for the ruleset. -/
theorem Settings.prepare_of_grammar_eq (h : settings.prepare reader files = .ok segmenter)
    (hgrammar : other.grammar = settings.grammar) :
    other.prepare reader files = .ok ⟨other, segmenter.ruleset⟩ := by
  obtain ⟨hnamed, hload, -⟩ := prepare_eq_ok_iff.mp h
  rw [← hgrammar] at hnamed hload
  exact prepare_eq_ok_iff.mpr ⟨hnamed, hload, rfl⟩

end Settings

/-- The inputs have these texts. -/
def Surroundings.Reads (surroundings : Surroundings) (sources : List Input)
    (texts : List (List Char)) : Prop :=
  List.Forall₂ (fun source text => surroundings.read surroundings.files source = .ok text)
    sources texts

namespace SplitCommand

section Sent

variable {split : SplitCommand} {segmenter : Segmenter} {sources : List Input}
  {texts : List (List Char)} {segments : List Segment} {buffer : Buffer} {report : String}

/-- What is sent on its way of segments. -/
def sentOf (split : SplitCommand) (segments : List Segment) : String :=
  match split.target.format with
  | .plain => Plain.segmentLines (segments.map (·.text))
  | .json => ""

theorem contents_sendOne (buffer : Buffer) (segment : Segment) :
    (split.sendOne buffer segment).contents =
      buffer.contents ++ Plain.segmentLine segment.text := by
  have hline : ((buffer.add (Plain.segmentText segment.text)).add "\n").contents =
      buffer.contents ++ Plain.segmentLine segment.text := by
    rw [Buffer.contents_add, Buffer.contents_add, String.append_assoc]
    rfl
  unfold sendOne
  split
  · rw [← hline, Buffer.contents, Buffer.flush, String.append_empty]
  · exact hline

/-- All that is sent comes in, however it is held back. -/
theorem contents_send (buffer : Buffer) (segments : List Segment) :
    (split.send buffer segments).contents = buffer.contents ++ split.sentOf segments := by
  unfold send sentOf
  cases split.target.format with
  | json => rw [String.append_empty]
  | plain =>
    induction segments generalizing buffer with
    | nil => rw [List.foldl_nil]; simp [Plain.segmentLines]
    | cons segment segments ih =>
      rw [List.foldl_cons, ih, contents_sendOne]
      simp [Plain.segmentLines, String.append_assoc]

theorem toList_sentOf_append (front back : List Segment) :
    (split.sentOf (front ++ back)).toList =
      (split.sentOf front).toList ++ (split.sentOf back).toList := by
  unfold sentOf
  cases split.target.format with
  | json => rfl
  | plain => simp [Plain.segmentLines, String.toList_join]

/-- The segments of a text that a split reports. -/
def reported (split : SplitCommand) (segmenter : Segmenter) (text : List Char) : List Segment :=
  (segmenter.segments text).filter split.reports

/-- What a split reports of an input. -/
def reportsOf (split : SplitCommand) (segmenter : Segmenter) (source : Input)
    (text : List Char) : List (String × Segment) :=
  (split.reported segmenter text).map (source.name, ·)

theorem map_snd_reports {R : Input → List Char → Prop} (h : List.Forall₂ R sources texts) :
    (List.zipWith (split.reportsOf segmenter) sources texts).flatten.map (·.2) =
      texts.flatMap (split.reported segmenter) := by
  induction h with
  | nil => rfl
  | cons _ _ ih =>
    rw [List.zipWith_cons_cons, List.flatten_cons, List.map_append, ih, List.flatMap_cons,
      reportsOf, List.map_map]
    exact congrArg (· ++ _) (List.map_id _)

/-- What is sent is a front of the report. -/
theorem sentOf_prefix (entries : List (String × Segment)) :
    (split.sentOf (entries.map (·.2))).toList <+: (split.layOut entries none).toList := by
  unfold sentOf layOut
  cases split.target.format with
  | json => exact List.nil_prefix
  | plain => rw [List.map_map]; exact List.prefix_refl _

/-- If all inputs can be read while the output file holds a front of the report, the split reports
segments of all of them. -/
theorem collect_eq {read : Buffer → Input → Except Failure (List Char)}
    (htexts : List.Forall₂ (fun source text => ∀ buffer : Buffer,
      buffer.contents.toList <+: report.toList → read buffer source = .ok text) sources texts)
    (hreport : buffer.contents.toList ++
      (split.sentOf (texts.flatMap (split.reported segmenter))).toList <+: report.toList) :
    split.collect segmenter read (fun _ => none) buffer sources =
      ((List.zipWith (split.reportsOf segmenter) sources texts).flatten, none) := by
  -- By inputs. What has come in before an input is read, with what is still to be sent, stays a
  -- front of the report, and so does what has come in alone, which is what the input is read under.
  induction htexts generalizing buffer with
  | nil => rfl
  | @cons source text _ texts htext _ ih =>
    have hsent : (split.send buffer (split.reported segmenter text)).contents.toList ++
        (split.sentOf (texts.flatMap (split.reported segmenter))).toList <+: report.toList := by
      rw [contents_send, String.toList_append, List.append_assoc, ← toList_sentOf_append]
      exact hreport
    rw [collect, htext buffer ((List.prefix_append _ _).trans hreport)]
    simp only
    rw [← reported, ih hsent]
    rfl

end Sent

variable {split : SplitCommand} {libraries : Libraries} {surroundings : Surroundings}
  {segmenter : Segmenter} {sources : List Input} {texts : List (List Char)} {made : FileTree}
  {emitted : List (String × Segment)} {failure : Option Failure}

/-- What a split has before it reads its inputs: their names, the grammar, and the output file made
anew. -/
structure Ready (split : SplitCommand) (libraries : Libraries) (surroundings : Surroundings)
    (sources : List Input) (segmenter : Segmenter) (made : FileTree) : Prop where
  resolve_eq :
    Input.resolveWith (libraries.glob surroundings.files) surroundings.files split.inputs =
      .ok sources
  prepare_eq :
    Settings.prepare { grammar := .ofPath split.grammar } libraries.describe surroundings.files =
      .ok segmenter
  create_eq : split.target.create surroundings.files = .ok made

theorem Ready.run_eq (h : split.Ready libraries surroundings sources segmenter made)
    (hcollect : split.collectInto segmenter surroundings made sources = (emitted, failure)) :
    split.run libraries surroundings =
      split.target.deliver surroundings made (split.layOut emitted failure) failure := by
  have hinputs : (Input.resolveWith (libraries.glob surroundings.files) surroundings.files
      split.inputs).mapError Failure.inputs = .ok sources :=
    mapError_eq_ok_iff.mpr h.resolve_eq
  rw [run, hinputs, h.prepare_eq, h.create_eq]
  exact congrArg (fun report : List (String × Segment) × Option Failure =>
    split.target.deliver surroundings made (split.layOut report.1 report.2) report.2) hcollect

/-- The inputs read as before while the output file holds a front of the report. -/
def Spares (split : SplitCommand) (surroundings : Surroundings) (made : FileTree)
    (sources : List Input) (report : String) : Prop :=
  ∀ source ∈ sources, ∀ buffer : Buffer, buffer.contents.toList <+: report.toList →
    surroundings.read (split.target.stage made buffer) source =
      surroundings.read surroundings.files source

/-- A split that has room for its report and does not write into its inputs. -/
theorem Ready.run_eq_of_spares (h : split.Ready libraries surroundings sources segmenter made)
    (hroom : surroundings.room? = none) (htexts : surroundings.Reads sources texts)
    (hspares : split.Spares surroundings made sources
      (split.layOut (List.zipWith (split.reportsOf segmenter) sources texts).flatten none)) :
    split.run libraries surroundings = split.target.deliver surroundings made
      (split.layOut (List.zipWith (split.reportsOf segmenter) sources texts).flatten none)
      none := by
  have hrefusal : surroundings.refusal? = fun _ => none := by
    funext bytes
    rw [Surroundings.refusal?, hroom]
  have hstaged := (List.forall₂_and_left _ _).mpr ⟨hspares, htexts⟩
  apply h.run_eq
  rw [collectInto, hrefusal]
  refine collect_eq (hstaged.imp fun source text hread buffer hbuffer =>
    (hread.1 buffer hbuffer).trans hread.2) ?_
  rw [← map_snd_reports htexts]
  exact sentOf_prefix _

/-- What a split has ready is determined. -/
theorem Ready.unique {others : List Input} {loaded : Segmenter} {files : FileTree}
    (h : split.Ready libraries surroundings sources segmenter made)
    (hother : split.Ready libraries surroundings others loaded files) :
    sources = others ∧ segmenter = loaded ∧ made = files :=
  ⟨Except.ok.inj (h.resolve_eq.symm.trans hother.resolve_eq),
    Except.ok.inj (h.prepare_eq.symm.trans hother.prepare_eq),
    Except.ok.inj (h.create_eq.symm.trans hother.create_eq)⟩

/-- A split fails before it writes anything, or it goes on to read its inputs. -/
theorem run_eq_fail_or_ready (split : SplitCommand) (libraries : Libraries)
    (surroundings : Surroundings) :
    (∃ failure, split.run libraries surroundings = .fail surroundings.files failure ∧
      ∀ sources segmenter made,
        ¬ split.Ready libraries surroundings sources segmenter made) ∨
    ∃ sources segmenter made, split.Ready libraries surroundings sources segmenter made := by
  cases hsources : Input.resolveWith (libraries.glob surroundings.files) surroundings.files
      split.inputs with
  | error fault =>
    refine .inl ⟨.inputs fault, ?_, fun _ _ _ hready => ?_⟩
    · simp [run, hsources, Except.mapError]
    · cases hsources.symm.trans hready.resolve_eq
  | ok sources =>
    cases hsegmenter : Settings.prepare { grammar := .ofPath split.grammar } libraries.describe
        surroundings.files with
    | error fault =>
      refine .inl ⟨fault, ?_, fun _ _ _ hready => ?_⟩
      · simp [run, hsources, hsegmenter, Except.mapError]
      · cases hsegmenter.symm.trans hready.prepare_eq
    | ok segmenter =>
      cases hmade : split.target.create surroundings.files with
      | error fault =>
        refine .inl ⟨fault, ?_, fun _ _ _ hready => ?_⟩
        · simp [run, hsources, hsegmenter, hmade, Except.mapError]
        · cases hmade.symm.trans hready.create_eq
      | ok made => exact .inr ⟨sources, segmenter, made, hsources, hsegmenter, hmade⟩

end SplitCommand

namespace CountCommand

variable {count : CountCommand} {libraries : Libraries} {reader : Description.Reader}
  {workers : Workers} {surroundings : Surroundings} {resolved : Except Input.Fault (List Input)}
  {sources : List Input} {segmenter : Segmenter} {tallies : List Tally} {made : FileTree}
  {counted : List (String × Nat)} {failure : Failure}

/-- With all that it needs a count ranks what the workers collect. -/
theorem countsOf_eq (htop : count.top ≠ 0) (hthreads : count.threads ≠ some 0)
    (hsegmenter : count.settings.prepare reader surroundings.files = .ok segmenter)
    (hstart : workers.start (count.threadsOf workers) = .ok ())
    (hcollect : workers.collect (count.threadsOf workers)
      (workers.tally segmenter surroundings) sources = .ok tallies) :
    count.countsOf reader workers surroundings (.ok sources) =
      ((workers.merge tallies).top count.top).mapError .ofHalt := by
  rw [countsOf, if_neg htop, if_neg hthreads]
  simp only [Except.mapError, hsegmenter, hstart, hcollect, ok_bind]

theorem run_eq (hcounts : count.counts libraries surroundings = .ok counted)
    (hmade : count.target.create surroundings.files = .ok made) :
    count.run libraries surroundings =
      count.target.deliver surroundings made (count.layOut counted) none := by
  rw [run, hcounts, ok_bind, hmade]
  rfl

theorem run_of_counts_eq_error (hcounts : count.counts libraries surroundings = .error failure) :
    count.run libraries surroundings = .fail surroundings.files failure := by
  rw [run, hcounts, error_bind]

theorem run_of_create_eq_error (hcounts : count.counts libraries surroundings = .ok counted)
    (hmade : count.target.create surroundings.files = .error failure) :
    count.run libraries surroundings = .fail surroundings.files failure := by
  rw [run, hcounts, ok_bind, hmade]
  rfl

end CountCommand
end BoundaryRules
