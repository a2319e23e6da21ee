import BoundaryRules.Proofs.RecordFormat

/-! The pattern of records as a regular expression. A line is split just if it matches the pattern,
and its parts are what the groups of the pattern hold. -/
namespace BoundaryRules

/-- Sets of characters as patterns write them. -/
inductive CharSet where
  | single (c : Char)
  | white
  | ranges (ends : List (Char × Char))
  /-- Neither white space nor one of these. -/
  | others (excluded : List Char)
  | notNewline
deriving DecidableEq, Repr

namespace CharSet

/-- Whether a character is one of the set. -/
def mem (set : CharSet) (c : Char) : Bool :=
  match set with
  | single d => c == d
  | white => Unicode.isWhiteSpace c
  | ranges ends => ends.any fun (first, last) => first ≤ c && c ≤ last
  | others excluded => !Unicode.isWhiteSpace c && !excluded.contains c
  | notNewline => c != '\n'

/-- The set as patterns write it. -/
def text : CharSet → String
  | single c => if c = '.' then "\\." else String.ofList [c]
  | white => "\\s"
  | ranges ends =>
    "[" ++ String.ofList (ends.flatMap fun (first, last) => [first, '-', last]) ++ "]"
  | others excluded => "[^\\s" ++ String.ofList excluded ++ "]"
  | notNewline => "."

end CharSet

/-- Regular expressions with groups, of which only sets of characters are repeated. -/
inductive Regex where
  | one (set : CharSet)
  | star (set : CharSet)
  | plus (set : CharSet)
  | empty
  | seq (first second : Regex)
  | optional (body : Regex)
  | group (body : Regex)
deriving DecidableEq, Repr

namespace Regex

/-- The number of groups. -/
def groups : Regex → Nat
  | seq first second => first.groups + second.groups
  | optional body => body.groups
  | group body => body.groups + 1
  | _ => 0

def text : Regex → String
  | one set => set.text
  | star set => set.text ++ "*"
  | plus set => set.text ++ "+"
  | empty => ""
  | seq first second => first.text ++ second.text
  | optional body => "(?:" ++ body.text ++ ")?"
  | group body => "(" ++ body.text ++ ")"

def sequence (parts : List Regex) : Regex := parts.foldr seq empty

/-- A whole text matches, with what each group holds if it took part. -/
inductive Matches : Regex → List Char → List (Option (List Char)) → Prop where
  | one {set : CharSet} {c : Char} (h : set.mem c = true) : Matches (one set) [c] []
  | star {set : CharSet} {text : List Char} (h : ∀ c ∈ text, set.mem c = true) :
      Matches (star set) text []
  | plus {set : CharSet} {text : List Char} (hne : text ≠ []) (h : ∀ c ∈ text, set.mem c = true) :
      Matches (plus set) text []
  | empty : Matches empty [] []
  | seq {first second : Regex} {front back : List Char} {held more : List (Option (List Char))}
      (hfirst : Matches first front held) (hsecond : Matches second back more) :
      Matches (seq first second) (front ++ back) (held ++ more)
  | present {body : Regex} {text : List Char} {held : List (Option (List Char))}
      (h : Matches body text held) : Matches (optional body) text held
  | absent {body : Regex} : Matches (optional body) [] (List.replicate body.groups none)
  | group {body : Regex} {text : List Char} {held : List (Option (List Char))}
      (h : Matches body text held) : Matches (group body) text (some text :: held)

variable {set : CharSet} {first second body : Regex} {parts : List Regex} {text : List Char}
  {held : List (Option (List Char))}

theorem matches_one_iff :
    Matches (one set) text held ↔ (∃ c, text = [c] ∧ set.mem c = true) ∧ held = [] := by
  constructor
  · intro h
    cases h with
    | one h => exact ⟨⟨_, rfl, h⟩, rfl⟩
  · rintro ⟨⟨c, rfl, h⟩, rfl⟩
    exact .one h

theorem matches_star_iff :
    Matches (star set) text held ↔ (∀ c ∈ text, set.mem c = true) ∧ held = [] := by
  constructor
  · intro h
    cases h with
    | star h => exact ⟨h, rfl⟩
  · rintro ⟨h, rfl⟩
    exact .star h

theorem matches_plus_iff :
    Matches (plus set) text held ↔
      (text ≠ [] ∧ ∀ c ∈ text, set.mem c = true) ∧ held = [] := by
  constructor
  · intro h
    cases h with
    | plus hne h => exact ⟨⟨hne, h⟩, rfl⟩
  · rintro ⟨⟨hne, h⟩, rfl⟩
    exact .plus hne h

theorem matches_empty_iff : Matches empty text held ↔ text = [] ∧ held = [] := by
  constructor
  · intro h
    cases h with
    | empty => exact ⟨rfl, rfl⟩
  · rintro ⟨rfl, rfl⟩
    exact .empty

theorem matches_seq_iff :
    Matches (seq first second) text held ↔ ∃ front back own more,
      Matches first front own ∧ Matches second back more ∧ text = front ++ back ∧
        held = own ++ more := by
  constructor
  · intro h
    cases h with
    | seq hfirst hsecond => exact ⟨_, _, _, _, hfirst, hsecond, rfl, rfl⟩
  · rintro ⟨front, back, own, more, hfirst, hsecond, rfl, rfl⟩
    exact .seq hfirst hsecond

theorem matches_optional_iff :
    Matches (optional body) text held ↔
      Matches body text held ∨ text = [] ∧ held = List.replicate body.groups none := by
  constructor
  · intro h
    cases h with
    | present h => exact .inl h
    | absent => exact .inr ⟨rfl, rfl⟩
  · rintro (h | ⟨rfl, rfl⟩)
    · exact .present h
    · exact .absent

theorem matches_group_iff :
    Matches (group body) text held ↔
      ∃ more, Matches body text more ∧ held = some text :: more := by
  constructor
  · intro h
    cases h with
    | group h => exact ⟨_, h, rfl⟩
  · rintro ⟨more, h, rfl⟩
    exact .group h

end Regex

namespace ClassRecord

def hexDigits : CharSet := .ranges [('0', '9'), ('A', 'F'), ('a', 'f')]

def lastPattern : Regex :=
  .optional (.sequence [.one (.single '.'), .one (.single '.'), .group (.plus hexDigits)])

def commentPattern : Regex := .optional (.sequence [.one (.single '#'), .star .notNewline])

def rangePattern : Regex :=
  .sequence [.star .white, .group (.plus hexDigits), lastPattern, .star .white]

def namePattern : Regex :=
  .sequence [.star .white, .group (.plus (.others [';', '#'])), .star .white, commentPattern]

/-- The pattern of a whole record. -/
def recordPattern : Regex := .sequence [rangePattern, .one (.single ';'), namePattern]

theorem text_recordPattern :
    "^" ++ recordPattern.text ++ "$" =
      "^\\s*([0-9A-Fa-f]+)(?:\\.\\.([0-9A-Fa-f]+))?\\s*;\\s*([^\\s;#]+)\\s*(?:#.*)?$" := by
  decide +kernel

/-- The parts of a record as the groups hold them. -/
def Parts.held (parts : Parts) : List (Option (List Char)) :=
  [some parts.first, parts.last, some parts.name]

variable {line text first name : List Char} {last : Option (List Char)}
  {held : List (Option (List Char))} {c : Char}

theorem mem_hexDigits : hexDigits.mem c = Hex.isDigit c := by
  simp [hexDigits, CharSet.mem, Hex.isDigit, Bool.or_assoc]

theorem mem_others : (CharSet.others [';', '#']).mem c = isNameChar c := by
  rw [Bool.eq_iff_iff]
  simp [CharSet.mem, isNameChar, and_assoc]

theorem matches_gap_iff : Regex.Matches (.star .white) text held ↔ IsGap text ∧ held = [] :=
  Regex.matches_star_iff

theorem matches_numeral_iff :
    Regex.Matches (.group (.plus hexDigits)) text held ↔ IsNumeral text ∧ held = [some text] := by
  simp [Regex.matches_group_iff, Regex.matches_plus_iff, mem_hexDigits, IsNumeral]

theorem matches_name_iff :
    Regex.Matches (.group (.plus (.others [';', '#']))) text held ↔
      IsName text ∧ held = [some text] := by
  simp [Regex.matches_group_iff, Regex.matches_plus_iff, mem_others, IsName]

theorem matches_single_iff :
    Regex.Matches (.one (.single c)) text held ↔ text = [c] ∧ held = [] := by
  simp [Regex.matches_one_iff, CharSet.mem]

theorem matches_lastPattern_iff :
    Regex.Matches lastPattern text held ↔
      (∃ last, IsNumeral last ∧ text = '.' :: '.' :: last ∧ held = [some last]) ∨
        text = [] ∧ held = [none] := by
  simp [lastPattern, Regex.matches_optional_iff, Regex.sequence, Regex.matches_seq_iff,
    Regex.matches_empty_iff, matches_single_iff, matches_numeral_iff, Regex.groups]

theorem matches_commentPattern_iff :
    Regex.Matches commentPattern text held ↔
      (∃ comment, (∀ c ∈ comment, c ≠ '\n') ∧ text = '#' :: comment ∧ held = []) ∨
        text = [] ∧ held = [] := by
  simp [commentPattern, Regex.matches_optional_iff, Regex.sequence, Regex.matches_seq_iff,
    Regex.matches_empty_iff, matches_single_iff, Regex.matches_star_iff, Regex.groups, CharSet.mem]

theorem matches_rangePattern {lead dots gap : List Char} (hlead : IsGap lead)
    (hfirst : IsNumeral first) (hlast : Regex.Matches lastPattern dots [last]) (hgap : IsGap gap) :
    Regex.Matches rangePattern (lead ++ (first ++ (dots ++ gap))) [some first, last] := by
  have h := Regex.Matches.seq (matches_gap_iff.mpr ⟨hlead, rfl⟩)
    (.seq (matches_numeral_iff.mpr ⟨hfirst, rfl⟩)
      (.seq hlast (.seq (matches_gap_iff.mpr ⟨hgap, rfl⟩) .empty)))
  rwa [List.append_nil] at h

theorem matches_rangePattern_iff :
    Regex.Matches rangePattern text held ↔
      ∃ first last, SpellsRange text first last ∧ held = [some first, last] := by
  constructor
  · intro h
    simp only [rangePattern, Regex.sequence, List.foldr_cons, List.foldr_nil,
      Regex.matches_seq_iff, Regex.matches_empty_iff, matches_gap_iff, matches_numeral_iff,
      matches_lastPattern_iff] at h
    obtain ⟨lead, _, _, _, ⟨hlead, rfl⟩, ⟨first, _, _, _, ⟨hfirst, rfl⟩, ⟨_, _, _, _, hlast,
      ⟨gap, _, _, _, ⟨hgap, rfl⟩, ⟨rfl, rfl⟩, rfl, rfl⟩, rfl, rfl⟩, rfl, rfl⟩, rfl, rfl⟩ := h
    rcases hlast with ⟨last, hlast, rfl, rfl⟩ | ⟨rfl, rfl⟩
    · have hspells := SpellsRange.double hlead hfirst hlast hgap
      exact ⟨first, some last, by simpa using hspells, rfl⟩
    · have hspells := SpellsRange.single hlead hfirst hgap
      exact ⟨first, none, by simpa using hspells, rfl⟩
  · rintro ⟨first, last, hspells, rfl⟩
    cases hspells with
    | single hlead hfirst hgap =>
      exact matches_rangePattern hlead hfirst (matches_lastPattern_iff.mpr (.inr ⟨rfl, rfl⟩)) hgap
    | double hlead hfirst hlast hgap =>
      exact matches_rangePattern hlead hfirst
        (matches_lastPattern_iff.mpr (.inl ⟨_, hlast, rfl, rfl⟩)) hgap

theorem matches_namePattern {lead gap comment : List Char} (hlead : IsGap lead)
    (hname : IsName name) (hgap : IsGap gap) (hcomment : Regex.Matches commentPattern comment []) :
    Regex.Matches namePattern (lead ++ (name ++ (gap ++ comment))) [some name] := by
  have h := Regex.Matches.seq (matches_gap_iff.mpr ⟨hlead, rfl⟩)
    (.seq (matches_name_iff.mpr ⟨hname, rfl⟩)
      (.seq (matches_gap_iff.mpr ⟨hgap, rfl⟩) (.seq hcomment .empty)))
  rwa [List.append_nil] at h

theorem matches_namePattern_iff :
    Regex.Matches namePattern text held ↔ ∃ name, SpellsName text name ∧ held = [some name] := by
  constructor
  · intro h
    simp only [namePattern, Regex.sequence, List.foldr_cons, List.foldr_nil,
      Regex.matches_seq_iff, Regex.matches_empty_iff, matches_gap_iff, matches_name_iff,
      matches_commentPattern_iff] at h
    obtain ⟨lead, _, _, _, ⟨hlead, rfl⟩, ⟨name, _, _, _, ⟨hname, rfl⟩, ⟨gap, _, _, _, ⟨hgap, rfl⟩,
      ⟨_, _, _, _, hcomment, ⟨rfl, rfl⟩, rfl, rfl⟩, rfl, rfl⟩, rfl, rfl⟩, rfl, rfl⟩ := h
    rcases hcomment with ⟨comment, hcomment, rfl, rfl⟩ | ⟨rfl, rfl⟩
    · have hspells := SpellsName.commented hlead hname hgap fun hmem => hcomment _ hmem rfl
      exact ⟨name, by simpa using hspells, rfl⟩
    · have hspells := SpellsName.bare hlead hname hgap
      exact ⟨name, by simpa using hspells, rfl⟩
  · rintro ⟨name, hspells, rfl⟩
    cases hspells with
    | @bare lead _ gap hlead hname hgap =>
      have h := matches_namePattern hlead hname hgap
        (matches_commentPattern_iff.mpr (.inr ⟨rfl, rfl⟩))
      rwa [List.append_nil] at h
    | commented hlead hname hgap hcomment =>
      refine matches_namePattern hlead hname hgap (matches_commentPattern_iff.mpr (.inl ?_))
      exact ⟨_, fun c hc heq => hcomment (heq ▸ hc), rfl, rfl⟩

/-- A line is split just if it matches the pattern, into the parts that the groups hold. -/
theorem matches_recordPattern_iff {line : List Char} :
    Regex.Matches recordPattern line held ↔
      ∃ parts, split? line = some parts ∧ held = parts.held := by
  simp only [split?_eq_some_iff]
  constructor
  · intro h
    simp only [recordPattern, Regex.sequence, List.foldr_cons, List.foldr_nil,
      Regex.matches_seq_iff, Regex.matches_empty_iff, matches_rangePattern_iff,
      matches_single_iff, matches_namePattern_iff] at h
    obtain ⟨range, _, _, _, ⟨first, last, hrange, rfl⟩, ⟨_, _, _, _, ⟨rfl, rfl⟩, ⟨rest, _, _, _,
      ⟨name, hname, rfl⟩, ⟨rfl, rfl⟩, rfl, rfl⟩, rfl, rfl⟩, rfl, rfl⟩ := h
    have hspells := Spells.record hrange hname
    exact ⟨⟨first, last, name⟩, by simpa using hspells, rfl⟩
  · rintro ⟨parts, ⟨hrange, hname⟩, rfl⟩
    have hsemicolon : Regex.Matches (.one (.single ';')) [';'] [] :=
      matches_single_iff.mpr ⟨rfl, rfl⟩
    have h := Regex.Matches.seq (matches_rangePattern_iff.mpr ⟨_, _, hrange, rfl⟩)
      (.seq hsemicolon (.seq (matches_namePattern_iff.mpr ⟨_, hname, rfl⟩) .empty))
    rwa [List.append_nil] at h

end ClassRecord
end BoundaryRules
