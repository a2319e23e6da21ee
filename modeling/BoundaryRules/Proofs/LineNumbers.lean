import BoundaryRules.Proofs.Leniency
import BoundaryRules.Proofs.RecordText

/-! Texts read line by line. Each reading has the number of its line, and none depends on what
stands in other lines. -/
namespace BoundaryRules

section Lines

variable {before after front line run rest text : List Char} {n : Nat}

/-- What may stand behind a line: nothing, or a line feed. A carriage return in front of the line
feed is not of the line. -/
inductive EndsLine (line : List Char) : List Char → Prop where
  | nothing (hne : line ≠ []) : EndsLine line []
  | lineFeed (hreturn : line.getLast? ≠ some '\r') (rest : List Char) : EndsLine line ('\n' :: rest)
  | returnLineFeed (rest : List Char) : EndsLine line ('\r' :: '\n' :: rest)

/-- Nothing, or a text that ends with a line feed. -/
def IsClosed (text : List Char) : Prop := ∀ c ∈ text.getLast?, c = '\n'

/-- The line has the number `n` in the text: it stands at the start or behind a line feed, and there
are `n - 1` line feeds before it. -/
structure LineAt (text : List Char) (n : Nat) (line : List Char) : Prop where
  exists_split : ∃ before after, text = before ++ (line ++ after) ∧ IsClosed before ∧
    before.count '\n' + 1 = n ∧ EndsLine line after
  not_mem : '\n' ∉ line

theorem isClosed_append_newline_iff : IsClosed (front ++ '\n' :: before) ↔ IsClosed before := by
  rw [IsClosed, IsClosed, List.getLast?_append_of_ne_nil _ (List.cons_ne_nil _ _),
    List.getLast?_cons]
  cases before.getLast? <;> simp

theorem IsClosed.eq_nil (h : IsClosed text) (hnot : '\n' ∉ text) : text = [] := by
  rw [← List.getLast?_eq_none_iff, Option.eq_none_iff_forall_ne_some]
  intro c hc
  exact hnot (h c hc ▸ List.mem_of_getLast? hc)

theorem linesFrom_of_not_mem (h : '\n' ∉ text) :
    linesFrom run text = if (run.reverse ++ text).isEmpty then [] else [run.reverse ++ text] := by
  induction text generalizing run with
  | nil => simp [linesFrom]
  | cons c text ih =>
    rw [List.mem_cons, not_or] at h
    rw [linesFrom, if_neg (Ne.symm h.1), ih h.2, List.reverse_cons, List.append_assoc,
      List.singleton_append]

/-- A text without line feeds is one line, unless it is empty. -/
theorem lines_of_not_mem (h : '\n' ∉ text) (hne : text ≠ []) : lines text = [text] := by
  rw [lines, linesFrom_of_not_mem h]
  simp [hne]

/-- The first line ends at the first line feed, and the others are those of the text behind it. -/
theorem lines_append_newline (h : '\n' ∉ front) :
    lines (front ++ '\n' :: rest) = finishLine front.reverse :: lines rest := by
  rw [lines, linesFrom_append_newline h, List.append_nil, lines]

theorem finishLine_reverse_eq_iff :
    finishLine front.reverse = line ↔ front = line ++ ['\r'] ∨
      front = line ∧ line.getLast? ≠ some '\r' := by
  by_cases hreturn : front.getLast? = some '\r'
  · obtain ⟨kept, rfl⟩ := List.getLast?_eq_some_iff.mp hreturn
    have hfinish : finishLine (kept ++ ['\r']).reverse = kept := by simp [finishLine]
    rw [hfinish, List.append_left_inj]
    constructor
    · exact .inl
    · rintro (heq | ⟨rfl, hnot⟩)
      · exact heq
      · exact absurd hreturn hnot
  · rw [finishLine_reverse hreturn]
    constructor
    · rintro rfl
      exact .inr ⟨rfl, hreturn⟩
    · rintro (rfl | ⟨heq, -⟩)
      · exact absurd (by simp) hreturn
      · exact heq

theorem not_lineAt_zero : ¬ LineAt text 0 line := by
  rintro ⟨⟨before, after, -, -, hcount, -⟩, -⟩
  exact Nat.succ_ne_zero _ hcount

theorem lineAt_iff_of_not_mem (h : '\n' ∉ text) :
    LineAt text n line ↔ n = 1 ∧ text = line ∧ text ≠ [] := by
  constructor
  · rintro ⟨⟨before, after, rfl, hclosed, hcount, hends⟩, -⟩
    simp only [List.mem_append, not_or] at h
    obtain rfl := hclosed.eq_nil h.1
    cases hends with
    | nothing hne => exact ⟨hcount.symm, by simp, by simpa using hne⟩
    | lineFeed => exact absurd List.mem_cons_self h.2.2
    | returnLineFeed => exact absurd (List.mem_cons_of_mem _ List.mem_cons_self) h.2.2
  · rintro ⟨rfl, rfl, hne⟩
    exact ⟨⟨[], [], by simp, nofun, rfl, .nothing hne⟩, h⟩

theorem newline_split_unique {front' rest' : List Char}
    (h : front ++ '\n' :: rest = front' ++ '\n' :: rest') (hfront : '\n' ∉ front)
    (hfront' : '\n' ∉ front') : front = front' ∧ rest = rest' := by
  rcases List.append_eq_append_iff.mp h with ⟨more, rfl, hmore⟩ | ⟨more, rfl, hmore⟩
  all_goals cases more <;> simp_all

/-- A line is all of the text up to the line feed behind it, less a carriage return. -/
theorem EndsLine.finishLine_eq (h : EndsLine line after) (hline : '\n' ∉ line)
    (hfront : '\n' ∉ front) (heq : line ++ after = front ++ '\n' :: rest) :
    finishLine front.reverse = line := by
  rw [finishLine_reverse_eq_iff]
  cases h with
  | nothing =>
    rw [List.append_nil] at heq
    exact absurd (heq ▸ List.mem_append_right front List.mem_cons_self) hline
  | lineFeed hreturn =>
    obtain ⟨rfl, -⟩ := newline_split_unique heq hline hfront
    exact .inr ⟨rfl, hreturn⟩
  | returnLineFeed =>
    have hreturn : '\n' ∉ line ++ ['\r'] := by simp [hline]
    rw [List.append_cons] at heq
    exact .inl (newline_split_unique heq hreturn hfront).1.symm

/-- The lines of a text that has a line feed: the first one, and those of the text behind it. -/
theorem lineAt_append_newline_iff (hfront : '\n' ∉ front) :
    LineAt (front ++ '\n' :: rest) n line ↔
      n = 1 ∧ finishLine front.reverse = line ∨ ∃ m, n = m + 1 ∧ LineAt rest m line := by
  have hcount : ∀ before : List Char,
      (front ++ '\n' :: before).count '\n' = before.count '\n' + 1 := by
    intro before
    rw [List.count_append, List.count_cons_self, List.count_eq_zero.mpr hfront, Nat.zero_add]
  constructor
  · rintro ⟨⟨before, after, heq, hclosed, rfl, hends⟩, hline⟩
    -- Line feeds before the line put it behind the first of them; without any it is the first line.
    by_cases hbefore : '\n' ∈ before
    · obtain ⟨first, before, rfl, hfirst⟩ := List.eq_append_cons_of_mem hbefore
      rw [List.append_assoc, List.cons_append] at heq
      obtain ⟨rfl, rfl⟩ := newline_split_unique heq hfront hfirst
      exact .inr ⟨_, congrArg (· + 1) (hcount before),
        ⟨before, after, rfl, isClosed_append_newline_iff.mp hclosed, rfl, hends⟩, hline⟩
    · obtain rfl := hclosed.eq_nil hbefore
      exact .inl ⟨rfl, hends.finishLine_eq hline hfront heq.symm⟩
  · rintro (⟨rfl, hfinish⟩ | ⟨m, rfl, ⟨before, after, rfl, hclosed, rfl, hends⟩, hline⟩)
    · rcases finishLine_reverse_eq_iff.mp hfinish with rfl | ⟨rfl, hreturn⟩
      · have hline : '\n' ∉ line := fun hmem => hfront (List.mem_append_left _ hmem)
        exact ⟨⟨[], _, by simp, nofun, rfl, .returnLineFeed rest⟩, hline⟩
      · exact ⟨⟨[], _, by simp, nofun, rfl, .lineFeed hreturn rest⟩, hfront⟩
    · refine ⟨⟨front ++ '\n' :: before, after, by simp, ?_, ?_, hends⟩, hline⟩
      · exact isClosed_append_newline_iff.mpr hclosed
      · rw [hcount]

theorem getElem?_lines_of_not_mem {i : Nat} (h : '\n' ∉ text) :
    (lines text)[i]? = some line ↔ LineAt text (i + 1) line := by
  rw [lineAt_iff_of_not_mem h]
  by_cases hnil : text = []
  · simp [hnil, lines, linesFrom]
  · cases i <;> simp [lines_of_not_mem h hnil, hnil]

/-- The lines are found, in their order. -/
theorem getElem?_lines_iff {i : Nat} : (lines text)[i]? = some line ↔ LineAt text (i + 1) line := by
  induction i generalizing text with
  | zero =>
    by_cases hfeed : '\n' ∈ text
    · obtain ⟨front, rest, rfl, hfront⟩ := List.eq_append_cons_of_mem hfeed
      rw [lines_append_newline hfront, lineAt_append_newline_iff hfront]
      simp [not_lineAt_zero]
    · exact getElem?_lines_of_not_mem hfeed
  | succ i ih =>
    by_cases hfeed : '\n' ∈ text
    · obtain ⟨front, rest, rfl, hfront⟩ := List.eq_append_cons_of_mem hfeed
      rw [lines_append_newline hfront, lineAt_append_newline_iff hfront, List.getElem?_cons_succ,
        ih]
      simp
    · exact getElem?_lines_of_not_mem hfeed

example : lines "a\r\n\nb\r".toList = ["a".toList, [], "b\r".toList] := by decide

/-- Lines end where a text ends that is closed, so that others may follow. -/
theorem lines_append (h : IsClosed text) (rest : List Char) :
    lines (text ++ rest) = lines text ++ lines rest := by
  have hfrom : ∀ front run : List Char, linesFrom run (front ++ '\n' :: rest) =
      linesFrom run (front ++ ['\n']) ++ lines rest := by
    intro front
    induction front with
    | nil => exact fun run => rfl
    | cons c front ih =>
      intro run
      rw [List.cons_append, List.cons_append, linesFrom, linesFrom]
      split
      · rw [ih, List.cons_append]
      · exact ih _
  rcases List.eq_nil_or_concat text with rfl | ⟨front, c, rfl⟩
  · rfl
  · rw [List.concat_eq_append] at h ⊢
    obtain rfl := h c (by simp)
    rw [List.append_assoc, List.singleton_append]
    exact hfrom front []

end Lines

section Readings

variable {ρ ε β : Type} {read : List Char → Except ρ β} {a b text : List Char}
  {readings : List (Nat × Except ε β)}

/-- What is read of each line that defines something, with the number of the line; a fault has the
line as it stands in the text. -/
def readEach (read : List Char → Except ρ β) (text : List Char) :
    List (Nat × Except (LineFault ρ) β) :=
  (definitionLines text).map fun (n, line) =>
    (n, (read line).mapError fun reason => ⟨String.ofList line, some n, reason⟩)

/-- The reading of a line that stands `k` lines further down. -/
def movedDown (k : Nat) : Nat × Except (LineFault ρ) β → Nat × Except (LineFault ρ) β :=
  fun (n, reading) => (n + k, reading.mapError fun fault =>
    { fault with number := fault.number.map (· + k) })

/-- What `readLines` reads of a text is what `read` reads of each of its lines, apart from those
that define nothing. -/
structure LineByLine (read : List Char → Except ρ β)
    (readLines : List Char → List (Nat × Except (LineFault ρ) β)) : Prop where
  mem_iff : ∀ text n reading, (n, reading) ∈ readLines text ↔
    ∃ line, LineAt text n line ∧ isIgnorable line = false ∧
      reading = (read line).mapError fun reason => ⟨String.ofList line, some n, reason⟩
  ascending : ∀ text, (readLines text).Pairwise (·.1 < ·.1)
  append : ∀ a b, IsClosed a →
    readLines (a ++ b) = readLines a ++ (readLines b).map (movedDown (lines a).length)

theorem mem_definitionLines_iff {n : Nat} {line : List Char} :
    (n, line) ∈ definitionLines text ↔ LineAt text n line ∧ isIgnorable line = false := by
  have hline : (line, n) ∈ (lines text).zipIdx 1 ↔ LineAt text n line := by
    rw [List.mk_mem_zipIdx_iff_le_and_getElem?_sub]
    cases n with
    | zero => simp [not_lineAt_zero]
    | succ i => simp [getElem?_lines_iff]
  rw [← hline, definitionLines, List.mem_map]
  constructor
  · rintro ⟨⟨line, n⟩, hmem, heq⟩
    obtain ⟨rfl, rfl⟩ := Prod.mk.inj heq
    simpa using List.mem_filter.mp hmem
  · rintro ⟨hmem, hdefines⟩
    exact ⟨(line, n), List.mem_filter.mpr ⟨hmem, by simp [hdefines]⟩, rfl⟩

theorem pairwise_definitionLines (text : List Char) :
    (definitionLines text).Pairwise (·.1 < ·.1) := by
  have hall : ((lines text).zipIdx 1).Pairwise (·.2 < ·.2) := by
    rw [← List.pairwise_map (f := Prod.snd), List.zipIdx_map_snd]
    exact List.pairwise_lt_range'
  exact List.pairwise_map.mpr (hall.filter _)

theorem definitionLines_append (h : IsClosed a) (b : List Char) :
    definitionLines (a ++ b) = definitionLines a ++
      (definitionLines b).map fun (n, line) => (n + (lines a).length, line) := by
  rw [definitionLines, lines_append h, List.zipIdx_append, Nat.add_comm 1,
    ← List.map_snd_add_zipIdx_eq_zipIdx, List.filter_append, List.map_append, List.filter_map,
    List.map_map, definitionLines, definitionLines, List.map_map]
  rfl

theorem lineByLine_readEach (read : List Char → Except ρ β) : LineByLine read (readEach read) where
  mem_iff text n reading := by
    simp only [readEach, List.mem_map, Prod.exists, Prod.mk.injEq, mem_definitionLines_iff]
    constructor
    · rintro ⟨n, line, ⟨hline, hdefines⟩, rfl, rfl⟩
      exact ⟨line, hline, hdefines, rfl⟩
    · rintro ⟨line, hline, hdefines, rfl⟩
      exact ⟨n, line, ⟨hline, hdefines⟩, rfl, rfl⟩
  ascending text := List.pairwise_map.mpr (pairwise_definitionLines text)
  append a b h := by
    have hmoved : ∀ k n line, movedDown k (n, (read line).mapError fun reason =>
        LineFault.mk (String.ofList line) (some n) reason) =
        (n + k, (read line).mapError fun reason => ⟨String.ofList line, some (n + k), reason⟩) := by
      intro k n line
      rw [movedDown]
      cases read line <;> rfl
    rw [readEach, definitionLines_append h, List.map_append, readEach, readEach, List.map_map,
      List.map_map]
    refine congrArg (_ ++ ·) (List.map_congr_left fun ⟨n, line⟩ _ => ?_)
    exact (hmoved _ n line).symm

/-- What all lines stand for, or the fault of the first that cannot be read. -/
def allOrFirstFault (readings : List (Nat × Except ε β)) : Except ε (List β) :=
  match faultsOf readings with
  | [] => .ok (goodsOf readings)
  | fault :: _ => .error fault

theorem mapM_snd_eq (readings : List (Nat × Except ε β)) :
    readings.mapM Prod.snd = allOrFirstFault readings := by
  induction readings with
  | nil => rfl
  | cons reading readings ih =>
    obtain ⟨n, fault | good⟩ := reading
    · rfl
    · rw [List.mapM_cons, ih, allOrFirstFault, allOrFirstFault, faultsOf, goodsOf]
      cases faultsOf readings <;> rfl

end Readings

namespace GrammarText

/-- Reads both texts as a whole and compiles what they define. -/
def loadAll (aliases : Aliases) (classText ruleText : List Char) : Except LoadFault Ruleset := do
  let classes ← (ClassRecord.readAll classText).mapError .record
  let index ← (ClassIndex.build classes).mapError .index
  let rules ← (RuleLine.readAll aliases ruleText).mapError .rule
  (Ruleset.compile index rules).mapError .unknownClass

theorem result_load_strict (aliases : Aliases) (classText ruleText : List Char) :
    (load aliases .strict classText ruleText).result = loadAll aliases classText ruleText := by
  simp only [load, loadRules, Mode.read, Mode.keep, loadAll, ClassRecord.readAll, RuleLine.readAll]
  cases (ClassRecord.readLines classText).mapM Prod.snd with
  | error fault => rfl
  | ok records =>
    simp only [Except.map, Except.mapError, ok_bind]
    cases ClassIndex.build (CharClass.mergeByName records) with
    | error fault => rfl
    | ok index =>
      simp only [ok_bind]
      cases (RuleLine.readLines aliases ruleText).mapM Prod.snd <;> rfl

/-- Lines are read each by itself, whatever lines stand around them, and a fault has the number and
the text of its line. A whole text is read as what its lines stand for, or fails with the fault of
the first line that cannot be read, and so does a strict load. -/
theorem lineByLine_readLines (aliases : Aliases) :
    LineByLine (RuleLine.read aliases) (RuleLine.readLines aliases) ∧
      LineByLine ClassRecord.read ClassRecord.readLines ∧
      (∀ text, RuleLine.readAll aliases text =
        (allOrFirstFault (RuleLine.readLines aliases text)).map List.flatten) ∧
      (∀ text, ClassRecord.readAll text =
        (allOrFirstFault (ClassRecord.readLines text)).map CharClass.mergeByName) ∧
      ∀ classText ruleText, (load aliases .strict classText ruleText).result =
        loadAll aliases classText ruleText := by
  refine ⟨lineByLine_readEach _, lineByLine_readEach _, fun text => ?_, fun text => ?_,
    result_load_strict aliases⟩
  · rw [RuleLine.readAll, mapM_snd_eq]
  · rw [ClassRecord.readAll, mapM_snd_eq]

end GrammarText
end BoundaryRules
