import BoundaryRules.Proofs.RecordLines
import BoundaryRules.Proofs.Traversal

/-! The record format. A line is read as a record just if it is written in the format, with numerals
of code points and the first not above the last; otherwise the fault tells what is not so. -/
namespace BoundaryRules

/-- A list is its longest front of elements with `p`, and a rest that does not begin with one. -/
theorem exists_longest_front {α : Type} (p : α → Bool) (l : List α) :
    ∃ front rest, l = front ++ rest ∧ (∀ a ∈ front, p a = true) ∧
      ∀ a ∈ rest.head?, p a = false := by
  refine ⟨l.takeWhile p, l.dropWhile p, List.takeWhile_append_dropWhile.symm,
    fun a ha => List.mem_takeWhile_imp ha, fun a ha => ?_⟩
  have hnot := List.head?_dropWhile_not p l
  rwa [ha] at hnot

namespace Hex

theorem isWhiteSpace_of_isDigit {c : Char} (h : isDigit c = true) :
    Unicode.isWhiteSpace c = false := by
  have hascii : ∀ n < 0x80, isDigit (Char.ofNat n) = true →
      Unicode.isWhiteSpace (Char.ofNat n) = false := by
    decide
  have hc : c.toNat < 0x80 := by
    simp only [isDigit, Bool.or_eq_true, Bool.and_eq_true, decide_eq_true_eq, Char.le_def,
      UInt32.le_iff_toNat_le] at h
    have hnat : c.val.toNat = c.toNat := rfl
    rcases h with (⟨-, h⟩ | ⟨-, h⟩) | ⟨-, h⟩ <;>
      exact Nat.lt_of_le_of_lt (hnat ▸ h) (by decide)
  have := hascii c.toNat hc
  rw [Char.ofNat_toNat] at this
  exact this h

end Hex

namespace ClassRecord

/-- White space, or nothing. -/
def IsGap (gap : List Char) : Prop := ∀ c ∈ gap, Unicode.isWhiteSpace c = true

def IsNumeral (numeral : List Char) : Prop := numeral ≠ [] ∧ ∀ c ∈ numeral, Hex.isDigit c = true

def IsName (name : List Char) : Prop := name ≠ [] ∧ ∀ c ∈ name, isNameChar c = true

/-- One numeral, or two with two dots between them. -/
inductive SpellsRange : List Char → List Char → Option (List Char) → Prop where
  | single {lead first gap : List Char} (hlead : IsGap lead) (hfirst : IsNumeral first)
      (hgap : IsGap gap) : SpellsRange (lead ++ (first ++ gap)) first none
  | double {lead first last gap : List Char} (hlead : IsGap lead) (hfirst : IsNumeral first)
      (hlast : IsNumeral last) (hgap : IsGap gap) :
      SpellsRange (lead ++ (first ++ '.' :: '.' :: (last ++ gap))) first (some last)

/-- A name, and behind it nothing or a comment that is the rest of the line. -/
inductive SpellsName : List Char → List Char → Prop where
  | bare {lead name gap : List Char} (hlead : IsGap lead) (hname : IsName name) (hgap : IsGap gap) :
      SpellsName (lead ++ (name ++ gap)) name
  | commented {lead name gap comment : List Char} (hlead : IsGap lead) (hname : IsName name)
      (hgap : IsGap gap) (hcomment : '\n' ∉ comment) :
      SpellsName (lead ++ (name ++ (gap ++ '#' :: comment))) name

/-- The line is written `HEX[..HEX] ; NAME [# comment]` with these parts. -/
inductive Spells : List Char → Parts → Prop where
  | record {range rest first name : List Char} {last : Option (List Char)}
      (hrange : SpellsRange range first last) (hname : SpellsName rest name) :
      Spells (range ++ ';' :: rest) ⟨first, last, name⟩

variable {line range rest gap text name first : List Char} {last : Option (List Char)}
  {parts : Parts} {cls : CharClass} {c : Char}

theorem IsGap.isDigit_head? (h : IsGap gap) : ∀ c ∈ gap.head?, Hex.isDigit c = false := by
  intro c hc
  refine Bool.eq_false_iff.mpr fun hdigit => Bool.false_ne_true ?_
  rw [← Hex.isWhiteSpace_of_isDigit hdigit, h c (List.mem_of_head? hc)]

theorem IsNumeral.isWhiteSpace_head? (h : IsNumeral first) (rest : List Char) :
    ∀ c ∈ (first ++ rest).head?, Unicode.isWhiteSpace c = false := by
  intro c hc
  rw [List.head?_append_of_ne_nil _ h.1] at hc
  exact Hex.isWhiteSpace_of_isDigit (h.2 c (List.mem_of_head? hc))

theorem isBlank_iff : Unicode.isBlank gap = true ↔ IsGap gap := List.all_eq_true

/-- The first numeral ends where something else stands. -/
theorem splitRange?_append {lead : List Char} (hlead : IsGap lead) (hfirst : IsNumeral first)
    (hrest : ∀ c ∈ rest.head?, Hex.isDigit c = false) :
    splitRange? (lead ++ (first ++ rest)) =
      if Unicode.isBlank (splitLast rest).2 then some (first, (splitLast rest).1) else none := by
  have hempty : first.isEmpty = false := List.isEmpty_eq_false_iff.mpr hfirst.1
  have hgap : ((splitLast rest).2.dropWhile Unicode.isWhiteSpace).isEmpty = true ↔
      Unicode.isBlank (splitLast rest).2 = true := by
    rw [List.isEmpty_iff, List.dropWhile_eq_nil_iff, isBlank_iff, IsGap]
  simp only [splitRange?, dropWhile_append_of_stop hlead (hfirst.isWhiteSpace_head? rest),
    takeWhile_append_of_stop hfirst.2 hrest, dropWhile_append_of_stop hfirst.2 hrest, hempty,
    Bool.false_eq_true, if_false, if_congr hgap rfl rfl]

theorem splitLast_dots (hlast : IsNumeral text) (hrest : ∀ c ∈ rest.head?, Hex.isDigit c = false) :
    splitLast ('.' :: '.' :: (text ++ rest)) = (some text, rest) := by
  have hempty : text.isEmpty = false := List.isEmpty_eq_false_iff.mpr hlast.1
  simp only [splitLast, takeWhile_append_of_stop hlast.2 hrest,
    dropWhile_append_of_stop hlast.2 hrest, hempty, Bool.false_eq_true, if_false]

/-- The dots are taken with the numeral behind them, or left where they stand. -/
theorem splitLast_cases (text : List Char) :
    splitLast text = (none, text) ∨ ∃ last rest, IsNumeral last ∧
      text = '.' :: '.' :: (last ++ rest) ∧ splitLast text = (some last, rest) := by
  by_cases hdots : ∃ after, text = '.' :: '.' :: after
  · obtain ⟨after, rfl⟩ := hdots
    obtain ⟨last, rest, rfl, hlast, hrest⟩ := exists_longest_front Hex.isDigit after
    by_cases hne : last = []
    · subst hne
      have hnone : ([] ++ rest).takeWhile Hex.isDigit = [] := takeWhile_append_of_stop hlast hrest
      exact .inl (by simp only [splitLast, hnone, List.isEmpty_nil, if_true])
    · exact .inr ⟨last, rest, ⟨hne, hlast⟩, rfl, splitLast_dots ⟨hne, hlast⟩ hrest⟩
  · exact .inl (splitLast_of_not_dots fun after h => hdots ⟨after, h⟩)

theorem splitRange?_eq_some_iff :
    splitRange? range = some (first, last) ↔ SpellsRange range first last := by
  constructor
  · intro h
    obtain ⟨lead, text, rfl, hlead, htext⟩ := exists_longest_front Unicode.isWhiteSpace range
    obtain ⟨numeral, rest, rfl, hnumeral, hrest⟩ := exists_longest_front Hex.isDigit text
    have hne : numeral ≠ [] := by
      rintro rfl
      simp only [splitRange?, dropWhile_append_of_stop hlead htext,
        takeWhile_append_of_stop hnumeral hrest, List.isEmpty_nil, if_true] at h
      cases h
    rw [splitRange?_append hlead ⟨hne, hnumeral⟩ hrest] at h
    split at h
    next hblank =>
      obtain ⟨rfl, rfl⟩ := Prod.mk.inj (Option.some.inj h)
      rcases splitLast_cases rest with hnone | ⟨last, gap, hlast, rfl, hsome⟩
      · rw [hnone] at hblank ⊢
        exact .single hlead ⟨hne, hnumeral⟩ (isBlank_iff.mp hblank)
      · rw [hsome] at hblank ⊢
        exact .double hlead ⟨hne, hnumeral⟩ hlast (isBlank_iff.mp hblank)
    next => cases h
  · intro h
    cases h with
    | @single lead first gap hlead hfirst hgap =>
      -- Dots are no white space, so behind the only numeral none are taken.
      have hdots : ∀ after, gap ≠ '.' :: '.' :: after := by
        rintro after rfl
        exact absurd (hgap '.' List.mem_cons_self) (by decide)
      rw [splitRange?_append hlead hfirst hgap.isDigit_head?, splitLast_of_not_dots hdots,
        if_pos (isBlank_iff.mpr hgap)]
    | @double lead first last gap hlead hfirst hlast hgap =>
      have hdot : ∀ c ∈ ('.' :: '.' :: (last ++ gap)).head?, Hex.isDigit c = false := by
        rintro c ⟨⟩
        decide
      rw [splitRange?_append hlead hfirst hdot, splitLast_dots hlast hgap.isDigit_head?,
        if_pos (isBlank_iff.mpr hgap)]

/-- What may follow a name: white space, and a comment up to the end of the line. -/
theorem endsRecord_iff :
    endsRecord rest = true ↔ IsGap rest ∨
      ∃ gap comment, rest = gap ++ '#' :: comment ∧ IsGap gap ∧ '\n' ∉ comment := by
  have hhash : Unicode.isWhiteSpace '#' = false := by decide
  constructor
  · obtain ⟨gap, text, rfl, hgap, htext⟩ := exists_longest_front Unicode.isWhiteSpace rest
    intro h
    rw [endsRecord, dropWhile_append_of_stop hgap htext] at h
    split at h
    next => exact .inl (by rwa [List.append_nil])
    next comment => exact .inr ⟨gap, comment, rfl, hgap, by simpa using h⟩
    next => cases h
  · rintro (hgap | ⟨gap, comment, rfl, hgap, hcomment⟩)
    · rw [endsRecord, List.dropWhile_eq_nil_iff.mpr hgap]
    · rw [endsRecord, dropWhile_append_cons_of_neg hhash, List.dropWhile_eq_nil_iff.mpr hgap,
        List.nil_append]
      simpa using hcomment

/-- A name ends where the rest of the line may stand. -/
theorem isNameChar_of_endsRecord (h : endsRecord rest = true) :
    ∀ c ∈ rest.head?, isNameChar c = false := by
  have hwhite : ∀ c, Unicode.isWhiteSpace c = true → isNameChar c = false := by
    intro c hc
    rw [isNameChar, hc, Bool.not_true, Bool.false_and, Bool.false_and]
  intro c hc
  rcases endsRecord_iff.mp h with hgap | ⟨gap, comment, rfl, hgap, -⟩
  · exact hwhite c (hgap c (List.mem_of_head? hc))
  · cases gap with
    | nil =>
      obtain rfl := Option.some.inj hc
      decide
    | cons d gap =>
      obtain rfl := Option.some.inj hc
      exact hwhite d (hgap d List.mem_cons_self)

theorem spellsName_iff : SpellsName text name ↔
    ∃ lead rest, text = lead ++ (name ++ rest) ∧ IsGap lead ∧ IsName name ∧
      endsRecord rest = true := by
  constructor
  · intro h
    cases h with
    | bare hlead hname hgap => exact ⟨_, _, rfl, hlead, hname, endsRecord_iff.mpr (.inl hgap)⟩
    | commented hlead hname hgap hcomment =>
      exact ⟨_, _, rfl, hlead, hname, endsRecord_iff.mpr (.inr ⟨_, _, rfl, hgap, hcomment⟩)⟩
  · rintro ⟨lead, rest, rfl, hlead, hname, hend⟩
    rcases endsRecord_iff.mp hend with hgap | ⟨gap, comment, rfl, hgap, hcomment⟩
    · exact .bare hlead hname hgap
    · exact .commented hlead hname hgap hcomment

theorem splitName?_eq_some_iff : splitName? text = some name ↔ SpellsName text name := by
  rw [spellsName_iff]
  constructor
  · intro h
    obtain ⟨lead, text, rfl, hlead, htext⟩ := exists_longest_front Unicode.isWhiteSpace text
    obtain ⟨found, rest, rfl, hfound, hrest⟩ := exists_longest_front isNameChar text
    have hne : found ≠ [] := by
      rintro rfl
      simp only [splitName?, dropWhile_append_of_stop hlead htext,
        takeWhile_append_of_stop hfound hrest, List.isEmpty_nil, if_true] at h
      cases h
    rw [splitName?_append hlead hne hfound hrest] at h
    split at h
    next hend =>
      obtain rfl := Option.some.inj h
      exact ⟨lead, rest, rfl, hlead, ⟨hne, hfound⟩, hend⟩
    next => cases h
  · rintro ⟨lead, rest, rfl, hlead, hname, hend⟩
    rw [splitName?_append hlead hname.1 hname.2 (isNameChar_of_endsRecord hend), if_pos hend]

theorem SpellsRange.semicolon_not_mem (h : SpellsRange range first last) : ';' ∉ range := by
  have hgap : ∀ {gap}, IsGap gap → ';' ∉ gap := fun hgap hmem =>
    absurd (hgap _ hmem) (by decide)
  have hnumeral : ∀ {numeral}, IsNumeral numeral → ';' ∉ numeral := fun hnumeral hmem =>
    absurd (hnumeral.2 _ hmem) (by decide)
  cases h with
  | single hlead hfirst hbefore => simp [hgap hlead, hnumeral hfirst, hgap hbefore]
  | double hlead hfirst hlast hbefore =>
    simp [hgap hlead, hnumeral hfirst, hnumeral hlast, hgap hbefore]

/-- A line is split only at a semicolon. -/
theorem semicolon_mem_of_split? (h : split? line = some parts) : ';' ∈ line := by
  simp only [split?] at h
  split at h
  next => cases h
  next =>
    split at h
    next rest hrest =>
      have hmem : ';' ∈ (splitLast ((line.dropWhile Unicode.isWhiteSpace).dropWhile
          Hex.isDigit)).2 :=
        (List.dropWhile_sublist _).subset (hrest ▸ List.mem_cons_self)
      exact (List.dropWhile_sublist _).subset ((List.dropWhile_sublist _).subset
        (mem_of_mem_splitLast hmem))
    next => cases h

/-- A line is split just if it is written in the format, into the parts it is written with. -/
theorem split?_eq_some_iff : split? line = some parts ↔ Spells line parts := by
  constructor
  · intro h
    obtain ⟨range, rest, rfl, hrange⟩ := List.eq_append_cons_of_mem (semicolon_mem_of_split? h)
    rw [split?_append_semicolon hrange] at h
    obtain ⟨⟨first, last⟩, hends, h⟩ := Option.bind_eq_some_iff.mp h
    obtain ⟨name, hname, rfl⟩ := Option.map_eq_some_iff.mp h
    exact .record (splitRange?_eq_some_iff.mp hends) (splitName?_eq_some_iff.mp hname)
  · rintro ⟨hrange, hname⟩
    rw [split?_append_semicolon hrange.semicolon_not_mem, splitRange?_eq_some_iff.mpr hrange,
      splitName?_eq_some_iff.mpr hname]
    rfl

/-- The numeral of the last code point: the only one, if there is no other. -/
def Parts.upper (parts : Parts) : List Char := parts.last.getD parts.first

/-- What a line defines: the class of the code points from one numeral to the other. -/
inductive Defines (line : List Char) : CharClass → Prop where
  | range {parts : Parts} (h : Spells line parts)
      (hle : Hex.value parts.first ≤ Hex.value parts.upper)
      (hupper : Hex.value parts.upper ≤ 0x10FFFF) :
    Defines line ⟨normalizeName (String.ofList parts.name), [⟨_, _, hle⟩]⟩

/-- What is wrong with a line: its form, or a numeral that is of no code point, the first before the
second, or the order of the two. -/
inductive Faulty (line : List Char) : Reason → Prop where
  | shape (h : ∀ parts, ¬ Spells line parts) : Faulty line .shape
  | first {parts : Parts} (h : Spells line parts) (hout : 0x10FFFF < Hex.value parts.first) :
    Faulty line (.outOfRange (String.ofList parts.first))
  | upper {parts : Parts} (h : Spells line parts) (hfirst : Hex.value parts.first ≤ 0x10FFFF)
      (hout : 0x10FFFF < Hex.value parts.upper) :
    Faulty line (.outOfRange (String.ofList parts.upper))
  | inverted {parts : Parts} (h : Spells line parts) (hfirst : Hex.value parts.first ≤ 0x10FFFF)
      (hlt : Hex.value parts.upper < Hex.value parts.first) :
    Faulty line (.inverted (Hex.value parts.first) (Hex.value parts.upper))

theorem defines_or_faulty (line : List Char) :
    (∃ cls, Defines line cls) ∨ ∃ reason, Faulty line reason := by
  by_cases hspells : ∃ parts, Spells line parts
  · obtain ⟨parts, hparts⟩ := hspells
    rcases Nat.lt_or_ge 0x10FFFF (Hex.value parts.first) with hout | hfirst
    · exact .inr ⟨_, .first hparts hout⟩
    rcases Nat.lt_or_ge 0x10FFFF (Hex.value parts.upper) with hout | hupper
    · exact .inr ⟨_, .upper hparts hfirst hout⟩
    rcases Nat.lt_or_ge (Hex.value parts.upper) (Hex.value parts.first) with hlt | hle
    · exact .inr ⟨_, .inverted hparts hfirst hlt⟩
    · exact .inl ⟨_, .range hparts hle hupper⟩
  · exact .inr ⟨_, .shape fun parts hparts => hspells ⟨parts, hparts⟩⟩

theorem codepoint_of_le {numeral : List Char} (h : Hex.value numeral ≤ 0x10FFFF) :
    codepoint numeral = .ok (Hex.value numeral) := if_pos h

theorem codepoint_of_lt {numeral : List Char} (h : 0x10FFFF < Hex.value numeral) :
    codepoint numeral = .error (.outOfRange (String.ofList numeral)) := if_neg (Nat.not_le_of_lt h)

theorem read_of_spells (h : Spells line parts) : read line = parts.toClass := by
  rw [read, split?_eq_some_iff.mpr h]

theorem toClass_of_first_le (h : Hex.value parts.first ≤ 0x10FFFF) :
    parts.toClass = codepoint parts.upper >>= fun last =>
      if hle : Hex.value parts.first ≤ last then
        .ok (.named (String.ofList parts.name) [⟨_, last, hle⟩])
      else .error (.inverted (Hex.value parts.first) last) := by
  obtain ⟨first, last, name⟩ := parts
  cases last with
  | none => simp only [Parts.toClass, Parts.upper, Option.getD_none, codepoint_of_le h, ok_bind]
  | some last =>
    simp only [Parts.toClass, Parts.upper, Option.getD_some, codepoint_of_le h, ok_bind]

theorem read_of_defines (h : Defines line cls) : read line = .ok cls := by
  obtain ⟨hspells, hle, hupper⟩ := h
  rw [read_of_spells hspells, toClass_of_first_le (hle.trans hupper), codepoint_of_le hupper,
    ok_bind, dif_pos hle, CharClass.named]

theorem read_of_faulty {reason : Reason} (h : Faulty line reason) : read line = .error reason := by
  cases h with
  | shape h =>
    have hnone : split? line = none := Option.eq_none_iff_forall_ne_some.mpr fun parts hparts =>
      h parts (split?_eq_some_iff.mp hparts)
    rw [read, hnone]
  | first h hout => rw [read_of_spells h, Parts.toClass, codepoint_of_lt hout, error_bind]
  | upper h hfirst hout =>
    rw [read_of_spells h, toClass_of_first_le hfirst, codepoint_of_lt hout, error_bind]
  | inverted h hfirst hlt =>
    rw [read_of_spells h, toClass_of_first_le hfirst, codepoint_of_le (hlt.le.trans hfirst),
      ok_bind, dif_neg (Nat.not_le_of_lt hlt)]

theorem read_eq_ok_iff : read line = .ok cls ↔ Defines line cls := by
  refine ⟨fun h => ?_, read_of_defines⟩
  rcases defines_or_faulty line with ⟨found, hfound⟩ | ⟨reason, hreason⟩
  · obtain rfl := Except.ok.inj ((read_of_defines hfound).symm.trans h)
    exact hfound
  · cases (read_of_faulty hreason).symm.trans h

theorem read_eq_error_iff {reason : Reason} : read line = .error reason ↔ Faulty line reason := by
  refine ⟨fun h => ?_, read_of_faulty⟩
  rcases defines_or_faulty line with ⟨found, hfound⟩ | ⟨other, hother⟩
  · cases (read_of_defines hfound).symm.trans h
  · obtain rfl := Except.error.inj ((read_of_faulty hother).symm.trans h)
    exact hother

/-- A line is read just if it is written in the format with the numerals of a range of code points,
and then it defines the class of that range. The fault of any other line has the line as it is, and
tells what is wrong with it. -/
theorem readLine_iff_defines (number : Option Nat) (line : List Char) :
    (∀ cls, readLine number line = .ok cls ↔ Defines line cls) ∧
      ∀ fault, readLine number line = .error fault ↔
        fault.line = String.ofList line ∧ fault.number = number ∧ Faulty line fault.reason := by
  constructor
  · intro cls
    rw [readLine, mapError_eq_ok_iff, read_eq_ok_iff]
  · rintro ⟨text, position, reason⟩
    simp only [readLine, mapError_eq_error_iff, read_eq_error_iff, LineFault.mk.injEq]
    constructor
    · rintro ⟨_, hfaulty, rfl, rfl, rfl⟩
      exact ⟨rfl, rfl, hfaulty⟩
    · rintro ⟨rfl, rfl, hfaulty⟩
      exact ⟨reason, hfaulty, rfl, rfl, rfl⟩

example : read " 41..5a;\tlatin # A to Z".toList =
    .ok ⟨"LATIN", [⟨0x41, 0x5A, by decide⟩]⟩ := by decide +kernel

end ClassRecord
end BoundaryRules
