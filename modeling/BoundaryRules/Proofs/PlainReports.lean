import BoundaryRules.Proofs.Ranking
import BoundaryRules.Proofs.RecordText
import BoundaryRules.Report.Layout

/-! Plain reports hold one entry on each line. Escapes keep an entry on its line, and counts are
aligned because no count is greater than the first one, whose width is that of the column. -/
namespace BoundaryRules

namespace Escape

variable {c d : Char} {text : List Char}

theorem isControl_of_isDigit (h : c.isDigit = true) : isControl c = false := by
  simp only [Char.isDigit, ge_iff_le, Bool.and_eq_true, decide_eq_true_eq,
    UInt32.le_iff_toNat_le] at h
  have hfirst : 48 ≤ c.toNat := h.1
  have hlast : c.toNat ≤ 57 := h.2
  simp only [isControl, Bool.or_eq_false_iff, Bool.and_eq_false_iff, decide_eq_false_iff_not]
  omega

theorem isControl_toLower_digit {n : Nat} (h : n < 16) :
    isControl (Hex.digit n).toLower = false := by
  revert n
  decide

theorem isControl_of_mem_unicode (h : d ∈ unicode c) : isControl d = false := by
  rw [unicode, List.mem_append, List.mem_append] at h
  rcases h with (hfront | hdigit) | hback
  · simp only [List.mem_cons, List.not_mem_nil, or_false] at hfront
    rcases hfront with rfl | rfl | rfl <;> rfl
  · obtain ⟨capital, hcapital, rfl⟩ := List.mem_map.mp hdigit
    obtain ⟨n, hn, rfl⟩ := Hex.exists_digit_of_mem_digits hcapital
    exact isControl_toLower_digit hn
  · obtain rfl := List.mem_singleton.mp hback
    decide

theorem isControl_of_mem_char (h : d ∈ char c) : isControl d = false := by
  have hshort : ∀ letter, isControl letter = false → d ∈ ['\\', letter] → isControl d = false := by
    intro letter hletter hmem
    rcases List.mem_pair.mp hmem with rfl | rfl
    · rfl
    · exact hletter
  unfold char at h
  split_ifs at h with htab hreturn hfeed hcontrol
  · exact hshort 't' rfl h
  · exact hshort 'r' rfl h
  · exact hshort 'n' rfl h
  · exact isControl_of_mem_unicode h
  · rw [List.mem_singleton.mp h]
    simpa using hcontrol

theorem char_of_isControl_eq_false (h : isControl c = false) : char c = [c] := by
  have hne : ∀ d, isControl d = true → c ≠ d := by
    rintro d hd rfl
    exact Bool.false_ne_true (h.symm.trans hd)
  rw [char, if_neg (hne _ rfl), if_neg (hne _ rfl), if_neg (hne _ rfl), h]
  rfl

theorem isControl_of_mem_visible (h : d ∈ visible text) : isControl d = false := by
  obtain ⟨c, -, hd⟩ := List.mem_flatMap.mp h
  exact isControl_of_mem_char hd

example : visible "a\t\x85\r\né".toList = "a\\t\\u\x7b85\x7d\\r\\né".toList := by decide +kernel

theorem visible_of_forall (h : ∀ c ∈ text, isControl c = false) : visible text = text := by
  induction text with
  | nil => rfl
  | cons c text ih =>
    obtain ⟨hc, htext⟩ := List.forall_mem_cons.mp h
    have hmore : text.flatMap char = text := ih htext
    rw [visible, List.flatMap_cons, char_of_isControl_eq_false hc, hmore, List.singleton_append]

/-- Only control characters are escaped. -/
theorem visible_eq_self_iff : visible text = text ↔ ∀ c ∈ text, isControl c = false := by
  refine ⟨fun heq c hc => ?_, visible_of_forall⟩
  rw [← heq] at hc
  exact isControl_of_mem_visible hc

theorem visible_visible (text : List Char) : visible (visible text) = visible text :=
  visible_of_forall fun _ => isControl_of_mem_visible

theorem not_mem_visible (h : isControl c = true) : c ∉ visible text :=
  fun hmem => Bool.false_ne_true ((isControl_of_mem_visible hmem).symm.trans h)

end Escape

/-- A text of lines that each end with a line feed. -/
structure HasLines (text : List Char) (written : List (List Char)) : Prop where
  eq_flatMap : text = written.flatMap (· ++ ['\n'])
  lines_eq : lines text = written
  count_eq : text.count '\n' = written.length

theorem hasLines_flatMap {written : List (List Char)}
    (h : ∀ line ∈ written, '\n' ∉ line ∧ '\r' ∉ line) :
    HasLines (written.flatMap (· ++ ['\n'])) written where
  eq_flatMap := rfl
  lines_eq :=
    lines_flatMap fun line hline => ⟨(h line hline).1, fun hlast =>
      (h line hline).2 (List.mem_of_getLast? hlast)⟩
  count_eq := by
    induction written with
    | nil => rfl
    | cons line written ih =>
      obtain ⟨hline, hwritten⟩ := List.forall_mem_cons.mp h
      rw [List.flatMap_cons, List.count_append, List.count_append,
        List.count_eq_zero_of_not_mem hline.1, ih hwritten, List.count_singleton_self,
        List.length_cons]
      omega

namespace Plain

variable {α : Type} {entries : List α} {counts : List (String × Nat)} {entry : String × Nat}

/-- A report of one line for each entry. -/
theorem hasLines_join {line : α → String} {content : α → List Char}
    (hline : ∀ entry, (line entry).toList = content entry ++ ['\n'])
    (hcontent : ∀ entry, '\n' ∉ content entry ∧ '\r' ∉ content entry) :
    HasLines (String.join (entries.map line)).toList (entries.map content) := by
  have htext : (String.join (entries.map line)).toList =
      (entries.map content).flatMap (· ++ ['\n']) := by
    rw [String.toList_join, List.flatMap_map, List.flatMap_map]
    exact List.flatMap_congr fun entry _ => hline entry
  rw [htext]
  refine hasLines_flatMap fun written hwritten => ?_
  obtain ⟨entry, -, rfl⟩ := List.mem_map.mp hwritten
  exact hcontent entry

theorem hasLines_segmentLines (segments : List String) :
    HasLines (segmentLines segments).toList
      (segments.map fun segment => Escape.visible segment.toList) := by
  refine hasLines_join (fun segment => ?_) fun segment =>
    ⟨Escape.not_mem_visible rfl, Escape.not_mem_visible rfl⟩
  rw [segmentLine, segmentText, String.toList_append, String.toList_ofList]
  rfl

/-- The line of a count without its line feed. -/
def countContent (width : Nat) (entry : String × Nat) : List Char :=
  List.replicate (width - (toString entry.2).length) ' ' ++ (toString entry.2).toList ++
    '\t' :: Escape.visible entry.1.toList

theorem toList_countLine (width : Nat) (entry : String × Nat) :
    (countLine width entry).toList = countContent width entry ++ ['\n'] := by
  simp [countLine, countContent, padLeft]

theorem toList_toString (n : Nat) : (toString n).toList = Nat.toDigits 10 n := by
  rw [Nat.toString_eq_ofList_toDigits, String.toList_ofList]

theorem length_toString (n : Nat) : (toString n).length = (Nat.toDigits 10 n).length := by
  rw [← String.length_toList, toList_toString]

/-- A numeral stands in no less room than that of a smaller number. -/
theorem length_toString_mono {m n : Nat} (h : m ≤ n) :
    (toString m).length ≤ (toString n).length := by
  rw [length_toString, length_toString]
  have hn := (Nat.length_toDigits_le_iff (by decide) Nat.length_toDigits_pos).mp
    (Nat.le_refl (Nat.toDigits 10 n).length)
  exact (Nat.length_toDigits_le_iff (by decide) Nat.length_toDigits_pos).mpr (h.trans_lt hn)

/-- Blanks and digits stand before the tab. -/
theorem isControl_of_mem_column {c : Char} {blanks n : Nat}
    (h : c ∈ List.replicate blanks ' ' ++ (toString n).toList) : Escape.isControl c = false := by
  rw [List.mem_append, toList_toString] at h
  rcases h with hblank | hdigit
  · obtain rfl := List.eq_of_mem_replicate hblank
    decide
  · exact Escape.isControl_of_isDigit (Nat.isDigit_of_mem_toDigits (by decide) (by decide) hdigit)

theorem not_mem_column {c : Char} (h : Escape.isControl c = true) (blanks n : Nat) :
    c ∉ List.replicate blanks ' ' ++ (toString n).toList :=
  fun hmem => Bool.false_ne_true ((isControl_of_mem_column hmem).symm.trans h)

theorem not_mem_countContent {c : Char} (h : Escape.isControl c = true) (htab : c ≠ '\t')
    (width : Nat) (entry : String × Nat) : c ∉ countContent width entry := by
  rw [countContent, List.mem_append, List.mem_cons]
  rintro (hcolumn | hmem | hword)
  · exact not_mem_column h _ _ hcolumn
  · exact htab hmem
  · exact Escape.not_mem_visible h hword

theorem hasLines_countLines (counts : List (String × Nat)) :
    HasLines (countLines counts).toList (counts.map (countContent (countWidth counts))) :=
  hasLines_join (toList_countLine _) fun entry =>
    ⟨not_mem_countContent rfl (by decide) _ entry, not_mem_countContent rfl (by decide) _ entry⟩

/-- A line with a count at the right of a column of some width, a tab and a word. -/
structure IsCountLine (width : Nat) (entry : String × Nat) (line : List Char) : Prop where
  aligned : ∃ blanks, line = List.replicate blanks ' ' ++ (toString entry.2).toList ++
    '\t' :: Escape.visible entry.1.toList
  idxOf_tab : line.idxOf '\t' = width
  count_tab : line.count '\t' = 1

theorem isCountLine_countContent {width : Nat} (h : (toString entry.2).length ≤ width) :
    IsCountLine width entry (countContent width entry) where
  aligned := ⟨_, rfl⟩
  idxOf_tab := by
    rw [countContent, List.idxOf_append_of_notMem (not_mem_column rfl _ _),
      List.idxOf_cons_self, List.length_append, List.length_replicate, String.length_toList]
    omega
  count_tab := by
    rw [countContent, List.count_append, List.count_cons_self,
      List.count_eq_zero_of_not_mem (not_mem_column rfl _ _),
      List.count_eq_zero_of_not_mem (Escape.not_mem_visible rfl)]

/-- The first count of a descending list is the widest. -/
theorem length_le_countWidth (h : counts.Pairwise fun a b => b.2 ≤ a.2) (hmem : entry ∈ counts) :
    (toString entry.2).length ≤ countWidth counts := by
  cases counts with
  | nil => cases hmem
  | cons first counts =>
    rcases List.mem_cons.mp hmem with rfl | hmore
    · exact Nat.le_refl _
    · exact length_toString_mono ((List.pairwise_cons.mp h).1 entry hmore)

/-- Descending counts stand on lines of their own, with their tabs in one column. -/
theorem exists_countLines (h : counts.Pairwise fun a b => b.2 ≤ a.2) :
    ∃ written, HasLines (countLines counts).toList written ∧
      List.Forall₂ (IsCountLine (countWidth counts)) counts written := by
  refine ⟨_, hasLines_countLines counts, ?_⟩
  rw [List.forall₂_map_right_iff, List.forall₂_same]
  exact fun entry hentry => isCountLine_countContent (length_le_countWidth h hentry)

/-- Segments stand on lines of their own with nothing but their control characters escaped, and the
most frequent words of any tally on lines of which all have their tab in one column. -/
theorem hasLines_reports :
    (∀ text, (∀ c ∈ Escape.visible text, Escape.isControl c = false) ∧
      (Escape.visible text = text ↔ ∀ c ∈ text, Escape.isControl c = false) ∧
      Escape.visible (Escape.visible text) = Escape.visible text) ∧
    (∀ segments, HasLines (segmentLines segments).toList
      (segments.map fun segment => Escape.visible segment.toList)) ∧
    ∀ (tally : Tally) n counts, tally.top n = .ok counts →
      ∃ written, HasLines (countLines counts).toList written ∧
        List.Forall₂ (IsCountLine (countWidth counts)) counts written := by
  refine ⟨fun text => ⟨fun _ => Escape.isControl_of_mem_visible, Escape.visible_eq_self_iff,
    Escape.visible_visible text⟩, hasLines_segmentLines, ?_⟩
  intro tally n counts htop
  exact exists_countLines (Tally.pairwise_of_top htop)

/-- A letter that occurs ten times, and a line end. -/
theorem hasLines_of_line_end :
    (Tally.addAll {} (List.replicate 10 "x" ++ ["\r\n"])).top 2 =
        .ok [("x", 10), ("\r\n", 1)] ∧
      countLines [("x", 10), ("\r\n", 1)] = "10\tx\n 1\t\\r\\n\n" ∧
      ∃ written, HasLines (countLines [("x", 10), ("\r\n", 1)]).toList written ∧
        List.Forall₂ (IsCountLine 2) [("x", 10), ("\r\n", 1)] written := by
  have htop : (Tally.addAll {} (List.replicate 10 "x" ++ ["\r\n"])).top 2 =
      .ok [("x", 10), ("\r\n", 1)] := by
    decide +kernel
  exact ⟨htop, by decide +kernel, hasLines_reports.2.2 _ _ _ htop⟩

end Plain
end BoundaryRules
