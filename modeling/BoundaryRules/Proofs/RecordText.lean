import BoundaryRules.Proofs.Merging
import BoundaryRules.Proofs.RecordFormat

/-! Classes written as records, one line for each range, and read back. -/
namespace BoundaryRules

namespace Hex

variable {c : Char} {n : Nat}

theorem isDigit_digit (h : n < 16) : isDigit (digit n) = true := by
  revert n
  decide

theorem digitValue_digit (h : n < 16) : digitValue (digit n) = n := by
  revert n
  decide

theorem value_append_singleton (front : List Char) (c : Char) :
    value (front ++ [c]) = value front * 16 + digitValue c := by
  rw [value, List.foldl_append]
  rfl

/-- Reading undoes writing. -/
theorem value_digits (n : Nat) : value (digits n) = n := by
  induction n using digits.induct with
  | case1 n h =>
    rw [digits, if_pos h]
    exact (Nat.zero_add _).trans (digitValue_digit h)
  | case2 n h ih =>
    rw [digits, if_neg h, value_append_singleton, ih, digitValue_digit (Nat.mod_lt n (by decide)),
      Nat.div_add_mod']

theorem exists_digit_of_mem_digits (h : c ∈ digits n) : ∃ m < 16, digit m = c := by
  induction n using digits.induct with
  | case1 n hn =>
    rw [digits, if_pos hn] at h
    exact ⟨n, hn, (List.mem_singleton.mp h).symm⟩
  | case2 n hn ih =>
    rw [digits, if_neg hn] at h
    rcases List.mem_append.mp h with hfront | hlast
    · exact ih hfront
    · exact ⟨n % 16, Nat.mod_lt n (by decide), (List.mem_singleton.mp hlast).symm⟩

theorem isDigit_of_mem_digits (h : c ∈ digits n) : isDigit c = true := by
  obtain ⟨m, hm, rfl⟩ := exists_digit_of_mem_digits h
  exact isDigit_digit hm

theorem digits_ne_nil (n : Nat) : digits n ≠ [] := by
  rw [digits]
  split
  · exact List.cons_ne_nil _ _
  · exact List.append_ne_nil_of_right_ne_nil _ (List.cons_ne_nil _ _)

/-- Zeros in front make no difference. -/
theorem value_padded (width n : Nat) : value (padded width n) = n := by
  have hzeros : ∀ k, value (List.replicate k '0' ++ digits n) = n := by
    intro k
    induction k with
    | zero => exact value_digits n
    | succ k ih => exact ih
  exact hzeros _

theorem isDigit_of_mem_padded {width : Nat} (h : c ∈ padded width n) : isDigit c = true := by
  rcases List.mem_append.mp h with hzero | hdigit
  · obtain rfl := List.eq_of_mem_replicate hzero
    decide
  · exact isDigit_of_mem_digits hdigit

theorem padded_ne_nil (width n : Nat) : padded width n ≠ [] :=
  List.append_ne_nil_of_right_ne_nil _ (digits_ne_nil n)

end Hex

section Lines

variable {line run text : List Char} {written : List (List Char)}

theorem linesFrom_append_newline (h : '\n' ∉ line) :
    linesFrom run (line ++ '\n' :: text) =
      finishLine (line.reverse ++ run) :: linesFrom [] text := by
  induction line generalizing run with
  | nil => rfl
  | cons c line ih =>
    rw [List.mem_cons, not_or] at h
    rw [List.cons_append, linesFrom, if_neg (Ne.symm h.1), ih h.2, List.reverse_cons,
      List.append_assoc, List.singleton_append]

theorem finishLine_reverse (h : line.getLast? ≠ some '\r') : finishLine line.reverse = line := by
  unfold finishLine
  split
  next front hfront =>
    rw [← List.head?_reverse, hfront] at h
    exact absurd rfl h
  next => exact List.reverse_reverse line

/-- Lines that are written one after the other are found again. -/
theorem lines_flatMap
    (h : ∀ line ∈ written, '\n' ∉ line ∧ line.getLast? ≠ some '\r') :
    lines (written.flatMap (· ++ ['\n'])) = written := by
  induction written with
  | nil => rfl
  | cons line written ih =>
    obtain ⟨hline, hwritten⟩ := List.forall_mem_cons.mp h
    rw [lines, List.flatMap_cons, List.append_assoc, List.singleton_append,
      linesFrom_append_newline hline.1, List.append_nil, finishLine_reverse hline.2]
    exact congrArg (line :: ·) (ih hwritten)

end Lines

namespace CharClass

variable {front classes : List CharClass} {cls record : CharClass}

theorem mergeInto_of_not_mem (h : record.name ∉ names front) :
    mergeInto front record = front ++ [record] := by
  induction front with
  | nil => rfl
  | cons cls front ih =>
    rw [names_cons, List.mem_cons, not_or] at h
    rw [mergeInto_cons, if_neg (Ne.symm h.1), ih h.2, List.cons_append]

theorem mergeInto_append_singleton (h : cls.name ∉ names front) (hname : cls.name = record.name) :
    mergeInto (front ++ [cls]) record = front ++ [cls.absorb record] := by
  induction front with
  | nil => rw [List.nil_append, mergeInto_cons, if_pos hname, List.nil_append]
  | cons other front ih =>
    rw [names_cons, List.mem_cons, not_or] at h
    rw [List.cons_append, mergeInto_cons, if_neg (fun heq => h.1 (hname.trans heq.symm)), ih h.2,
      List.cons_append]

/-- A class as records of one range each. -/
def records (cls : CharClass) : List CharClass := cls.ranges.map fun range => ⟨cls.name, [range]⟩

theorem foldl_mergeInto_ranges {name : String} (h : name ∉ names front)
    (found ranges : List CodepointRange) :
    (ranges.map fun range => CharClass.mk name [range]).foldl mergeInto (front ++ [⟨name, found⟩]) =
      front ++ [⟨name, found ++ ranges⟩] := by
  induction ranges generalizing found with
  | nil => rw [List.append_nil]; rfl
  | cons range ranges ih =>
    have hstep : mergeInto (front ++ [⟨name, found⟩]) ⟨name, [range]⟩ =
        front ++ [⟨name, found ++ [range]⟩] :=
      @mergeInto_append_singleton front ⟨name, found⟩ ⟨name, [range]⟩ h rfl
    rw [List.map_cons, List.foldl_cons, hstep, ih, List.append_assoc, List.singleton_append]

theorem foldl_mergeInto_records (h : cls.name ∉ names front) (hranges : cls.ranges ≠ []) :
    cls.records.foldl mergeInto front = front ++ [cls] := by
  obtain ⟨name, ranges⟩ := cls
  cases ranges with
  | nil => exact absurd rfl hranges
  | cons range ranges =>
    have hfirst : mergeInto front ⟨name, [range]⟩ = front ++ [⟨name, [range]⟩] :=
      mergeInto_of_not_mem h
    rw [records, List.map_cons, List.foldl_cons, hfirst]
    exact foldl_mergeInto_ranges h [range] ranges

/-- Merging the records of classes gives the classes. -/
theorem mergeByName_records (hnames : (names classes).Nodup)
    (hranges : ∀ cls ∈ classes, cls.ranges ≠ []) :
    mergeByName (classes.flatMap records) = classes := by
  -- What is merged so far is what stands before the classes to come.
  have hmore : ∀ front more : List CharClass, (names (front ++ more)).Nodup →
      (∀ cls ∈ more, cls.ranges ≠ []) →
      (more.flatMap records).foldl mergeInto front = front ++ more := by
    intro front more hnodup hranges
    induction more generalizing front with
    | nil => rw [List.append_nil]; rfl
    | cons cls more ih =>
      obtain ⟨hcls, hmore⟩ := List.forall_mem_cons.mp hranges
      have hnot : cls.name ∉ names front := by
        rw [names, List.map_append, List.nodup_append] at hnodup
        exact fun hmem => hnodup.2.2 _ hmem _ List.mem_cons_self rfl
      rw [List.flatMap_cons, List.foldl_append, foldl_mergeInto_records hnot hcls, ih,
        List.append_assoc, List.singleton_append]
      · rwa [List.append_assoc, List.singleton_append]
      · exact hmore
  exact hmore [] classes hnames hranges

end CharClass

namespace ClassRecord

variable {first last : List Char} {c : Char} {n : Nat} {name : String} {range : CodepointRange}
  {cls : CharClass}

/-- The line of one range. -/
def line (name : String) (range : CodepointRange) : List Char :=
  range.text.toList ++ " ; ".toList ++ name.toList

/-- The lines of a class. -/
def linesOf (cls : CharClass) : List (List Char) := cls.ranges.map (line cls.name)

/-- The text of classes, in order. -/
def write (classes : List CharClass) : List Char :=
  (classes.flatMap linesOf).flatMap (· ++ ['\n'])

/-- A class that can be written as records. -/
structure Writable (cls : CharClass) : Prop where
  name_ne_empty : cls.name ≠ ""
  normalized : normalizeName cls.name = cls.name
  name_chars : ∀ c ∈ cls.name.toList, isNameChar c = true
  ranges_ne_nil : cls.ranges ≠ []
  codepoints : ∀ range ∈ cls.ranges, range.last ≤ maxCodepoint

/-- The numeral after the dots of a range, if it is no single code point. -/
def lastNumeral (range : CodepointRange) : Option (List Char) :=
  if range.first = range.last then none else some (Hex.padded 4 range.last)

theorem isNumeral_padded (width n : Nat) : IsNumeral (Hex.padded width n) :=
  ⟨Hex.padded_ne_nil width n, fun _ => Hex.isDigit_of_mem_padded⟩

theorem text_toList (range : CodepointRange) :
    range.text.toList = Hex.padded 4 range.first ++
      if range.first = range.last then [] else '.' :: '.' :: Hex.padded 4 range.last := by
  rw [CodepointRange.text]
  split
  · rw [String.toList_ofList, List.append_nil]
  · simp

/-- A range is read as it is written. -/
theorem spellsRange_text (range : CodepointRange) :
    SpellsRange (range.text.toList ++ [' ']) (Hex.padded 4 range.first) (lastNumeral range) := by
  have hgap : IsGap [' '] := List.forall_mem_singleton.mpr rfl
  have hfirst := isNumeral_padded 4 range.first
  rw [text_toList, lastNumeral]
  split
  · rw [List.append_nil]
    exact .single (List.forall_mem_nil _) hfirst hgap
  · rw [List.append_assoc]
    exact .double (List.forall_mem_nil _) hfirst (isNumeral_padded 4 range.last) hgap

/-- Dots are all that a range is written with beside digits. -/
theorem eq_dot_of_mem_text (h : c ∈ range.text.toList) (hc : Hex.isDigit c = false) : c = '.' := by
  have hpadded : ∀ n, c ∉ Hex.padded 4 n := fun n hmem =>
    Bool.false_ne_true (hc.symm.trans (Hex.isDigit_of_mem_padded hmem))
  rw [text_toList, List.mem_append] at h
  have hrest := h.resolve_left (hpadded range.first)
  split at hrest
  · cases hrest
  · rw [List.mem_cons, List.mem_cons] at hrest
    rcases hrest with hdot | hdot | hlast
    · exact hdot
    · exact hdot
    · exact absurd hlast (hpadded range.last)

theorem codepoint_padded (h : n ≤ maxCodepoint) : codepoint (Hex.padded 4 n) = .ok n := by
  rw [codepoint, Hex.value_padded, if_pos h]

theorem toClass_padded (h : range.last ≤ maxCodepoint) (name : List Char) :
    Parts.toClass ⟨Hex.padded 4 range.first, lastNumeral range, name⟩ =
      .ok (.named (String.ofList name) [range]) := by
  obtain ⟨first, last, hle⟩ := range
  have hfirst : codepoint (Hex.padded 4 first) = .ok first := codepoint_padded (hle.trans h)
  have hlast : codepoint (Hex.padded 4 last) = .ok last := codepoint_padded h
  simp only [Parts.toClass, lastNumeral, hfirst, ok_bind]
  by_cases heq : first = last
  · subst heq
    simp
  · simp only [if_neg heq, hlast, ok_bind, dif_pos hle]

/-- A line of a range defines the class with this range alone. -/
theorem read_line (h : Writable cls) (hrange : range ∈ cls.ranges) :
    read (line cls.name range) = .ok ⟨cls.name, [range]⟩ := by
  have hname : IsName cls.name.toList :=
    ⟨fun hnil => h.name_ne_empty (String.toList_eq_nil_iff.mp hnil), h.name_chars⟩
  have hspells : SpellsName ([' '] ++ (cls.name.toList ++ [])) cls.name.toList :=
    .bare (List.forall_mem_singleton.mpr rfl) hname (List.forall_mem_nil _)
  have hline : line cls.name range =
      (range.text.toList ++ [' ']) ++ ';' :: ([' '] ++ (cls.name.toList ++ [])) := by
    rw [line, List.append_assoc, List.append_assoc, List.append_nil]
    rfl
  rw [hline, read_of_spells (.record (spellsRange_text range) hspells),
    toClass_padded (h.codepoints range hrange), CharClass.named, String.ofList_toList, h.normalized]

theorem isIgnorable_line (name : String) (range : CodepointRange) :
    isIgnorable (line name range) = false := by
  rw [isIgnorable, line, text_toList]
  cases hpadded : Hex.padded 4 range.first with
  | nil => exact absurd hpadded (Hex.padded_ne_nil _ _)
  | cons c more =>
    have hc : Hex.isDigit c = true :=
      Hex.isDigit_of_mem_padded (hpadded ▸ List.mem_cons_self)
    have hhash : c ≠ '#' := by
      rintro rfl
      exact absurd hc (by decide)
    simp [Unicode.isBlank, Hex.isWhiteSpace_of_isDigit hc, hhash]

/-- A written line has no line break in it. -/
theorem line_of_writable (h : Writable cls) (range : CodepointRange) :
    '\n' ∉ line cls.name range ∧ (line cls.name range).getLast? ≠ some '\r' := by
  have hname : cls.name.toList ≠ [] :=
    fun hnil => h.name_ne_empty (String.toList_eq_nil_iff.mp hnil)
  constructor
  · intro hmem
    rcases List.mem_append.mp hmem with hfront | hname
    · rcases List.mem_append.mp hfront with htext | hgap
      · exact absurd (eq_dot_of_mem_text htext (by decide)) (by decide)
      · exact absurd hgap (by decide)
    · exact absurd (h.name_chars _ hname) (by decide)
  · rw [line, List.getLast?_append_of_ne_nil _ hname]
    intro hlast
    exact absurd (h.name_chars _ (List.mem_of_getLast? hlast)) (by decide)

/-- A text whose lines all define something is read line by line. -/
theorem mapM_readLines {text : List Char} {found : List CharClass}
    (h : List.Forall₂ (fun line cls => isIgnorable line = false ∧ read line = .ok cls) (lines text)
      found) : (readLines text).mapM Prod.snd = .ok found := by
  rw [readLines, definitionLines, mapM_eq_ok_iff]
  revert h
  generalize lines text = written, 1 = start
  intro h
  induction h generalizing start with
  | nil => exact .nil
  | @cons line cls written found hline _ ih =>
    have hread : readLine (some start) line = .ok cls := mapError_eq_ok_iff.mpr hline.2
    rw [List.zipIdx_cons, List.filter_cons_of_pos (by simp [hline.1])]
    exact .cons hread (ih (start + 1))

/-- Classes with names of their own that are written as records are read back. -/
theorem readAll_write (classes : List CharClass) (hnames : (classes.map (·.name)).Nodup)
    (hwritable : ∀ cls ∈ classes, Writable cls) : readAll (write classes) = .ok classes := by
  have hlines : lines (write classes) = classes.flatMap linesOf := by
    refine lines_flatMap fun written hwritten => ?_
    obtain ⟨cls, hcls, hwritten⟩ := List.mem_flatMap.mp hwritten
    obtain ⟨range, -, rfl⟩ := List.mem_map.mp hwritten
    exact line_of_writable (hwritable cls hcls) range
  have hread : List.Forall₂ (fun line cls => isIgnorable line = false ∧ read line = .ok cls)
      (classes.flatMap linesOf) (classes.flatMap CharClass.records) := by
    clear hnames hlines
    induction classes with
    | nil => exact .nil
    | cons cls classes ih =>
      obtain ⟨hcls, hclasses⟩ := List.forall_mem_cons.mp hwritable
      rw [List.flatMap_cons, List.flatMap_cons]
      refine List.rel_append ?_ (ih hclasses)
      rw [linesOf, CharClass.records, List.forall₂_map_left_iff, List.forall₂_map_right_iff,
        List.forall₂_same]
      exact fun range hrange => ⟨isIgnorable_line _ range, read_line hcls hrange⟩
  rw [← hlines] at hread
  rw [readAll, mapM_readLines hread]
  exact congrArg Except.ok
    (CharClass.mergeByName_records hnames fun cls hcls => (hwritable cls hcls).ranges_ne_nil)

end ClassRecord

/-! A class in several records, and one up to the end of the code space. -/
namespace MarkRecords

def classes : List CharClass :=
  [⟨"MARK", [⟨0x300, 0x36F, by decide⟩, ⟨0x483, 0x487, by decide⟩, .single 0x5BF]⟩,
    ⟨"DERNIÈRE", [⟨0xE0100, 0x10FFFF, by decide⟩]⟩]

theorem readAll_write_classes :
    (classes.map (·.name)).Nodup ∧ (∀ cls ∈ classes, ClassRecord.Writable cls) ∧
      ClassRecord.write classes =
        "0300..036F ; MARK\n0483..0487 ; MARK\n05BF ; MARK\nE0100..10FFFF ; DERNIÈRE\n".toList ∧
      ClassRecord.readAll (ClassRecord.write classes) = .ok classes := by
  have hnames : (classes.map (·.name)).Nodup := by decide
  have hwritable : ∀ cls ∈ classes, ClassRecord.Writable cls := by
    refine List.forall_mem_cons.mpr ⟨?_, List.forall_mem_singleton.mpr ?_⟩ <;>
      exact ⟨by decide, by decide +kernel, List.all_eq_true.mp (by decide +kernel), by decide,
        by decide⟩
  exact ⟨hnames, hwritable, by decide +kernel,
    ClassRecord.readAll_write classes hnames hwritable⟩

end MarkRecords
end BoundaryRules
