import BoundaryRules.Proofs.Spelling
import Mathlib.Data.List.Basic

/-! The tokens of a line hold all of its text but white space: each name is a longest run of name
characters, and only white space that stands between two names makes a difference. -/
namespace BoundaryRules.Token

variable {token : Token} {tokens before after : List Token} {name : String} {c : Char}
  {line text : List Char}

/-- The characters that are tokens of their own. -/
def reserved : List Char := ['(', ')', '|', '÷', '×', '→', '*']

/-- A name is not empty and has no white space and no reserved characters. -/
def IsProperName (name : String) : Prop :=
  name ≠ "" ∧ ∀ c ∈ name.toList, Unicode.isWhiteSpace c = false ∧ c ∉ reserved

theorem ofReserved?_eq_none_iff : ofReserved? c = none ↔ c ∉ reserved := by
  constructor
  · intro h hmem
    simp only [reserved, List.mem_cons, List.not_mem_nil, or_false] at hmem
    rcases hmem with rfl | rfl | rfl | rfl | rfl | rfl | rfl <;> cases h
  · intro h
    unfold ofReserved?
    split
    case h_8 => rfl
    all_goals exact absurd (by decide) h

theorem isNameChar_iff_not_mem :
    IsNameChar c ↔ Unicode.isWhiteSpace c = false ∧ c ∉ reserved := by
  rw [isNameChar_iff, ofReserved?_eq_none_iff]

theorem isProperName_iff : IsProperName name ↔ name ≠ "" ∧ ∀ c ∈ name.toList, IsNameChar c := by
  simp only [IsProperName, isNameChar_iff_not_mem]

/-- A name has name characters only, so a text that does not start with one has something else in
front of a name. -/
theorem IsProperName.ne_nil_of_head? {front back : List Char} (h : IsProperName name)
    (hhead : ∀ c ∈ (front ++ (name.toList ++ back)).head?, ¬ IsNameChar c) : front ≠ [] := by
  rintro rfl
  obtain ⟨hne, hchars⟩ := isProperName_iff.mp h
  obtain ⟨d, run, hrun⟩ := List.exists_cons_of_ne_nil (mt String.toList_eq_nil_iff.mp hne)
  rw [hrun] at hhead hchars
  exact hhead d rfl (hchars d List.mem_cons_self)

theorem not_isNameChar_getLast?_cons (hc : ¬ IsNameChar c)
    (hlast : ∀ d ∈ text.getLast?, ¬ IsNameChar d) : ∀ d ∈ (c :: text).getLast?, ¬ IsNameChar d := by
  cases text with
  | nil => simpa using hc
  | cons d text => rwa [List.getLast?_cons_cons]

theorem IsMark.exists_eq_singleton (h : token.IsMark) : ∃ c, token.text = String.singleton c := by
  cases token with
  | name name => exact absurd rfl (h name)
  | leftParen => exact ⟨'(', rfl⟩
  | rightParen => exact ⟨')', rfl⟩
  | bar => exact ⟨'|', rfl⟩
  | operator action => exact ⟨action.symbol, rfl⟩
  | star => exact ⟨'*', rfl⟩

namespace Spells

theorem isProperName (h : Spells tokens line) (hmem : .name name ∈ tokens) :
    IsProperName name := by
  induction h with
  | nil => cases hmem
  | space _ _ ih => exact ih hmem
  | mark hmark _ _ ih =>
    rcases List.mem_cons.mp hmem with rfl | hmem
    · exact absurd rfl (hmark name)
    · exact ih hmem
  | name hne hname _ _ ih =>
    rcases List.mem_cons.mp hmem with heq | hmem
    · obtain rfl := Token.name.inj heq
      exact isProperName_iff.mpr ⟨hne, hname⟩
    · exact ih hmem

/-- Nothing is lost but white space. -/
theorem flatMap_text (h : Spells tokens line) :
    tokens.flatMap (·.text.toList) = line.filter fun c => !Unicode.isWhiteSpace c := by
  induction h with
  | nil => rfl
  | space hwhite _ ih => rw [ih, List.filter_cons_of_neg (by simp [hwhite])]
  | @mark tokens text token c hmark htext _ ih =>
    have hwhite : Unicode.isWhiteSpace c = false := by
      rw [← Bool.not_eq_true]
      intro hwhite
      cases (ofReserved?_of_isWhiteSpace hwhite).symm.trans
        (ofReserved?_eq_some_iff.mpr ⟨hmark, htext⟩)
    rw [List.flatMap_cons, ih, htext, String.toList_singleton,
      List.filter_cons_of_pos (by simp [hwhite])]
    rfl
  | @name tokens text name _ hname _ _ ih =>
    have hkept : (name.toList.filter fun c => !Unicode.isWhiteSpace c) = name.toList :=
      List.filter_eq_self.mpr fun c hc => by simp [(hname c hc).1]
    rw [List.flatMap_cons, ih, List.filter_append, hkept]
    rfl

theorem isWhiteSpace_of_nil (h : Spells [] line) : ∀ c ∈ line, Unicode.isWhiteSpace c = true := by
  have hfilter := List.filter_eq_nil_iff.mp h.flatMap_text.symm
  intro c hc
  simpa using hfilter c hc

/-- What stands before a name and after it spells the tokens there, and neither goes on with it. -/
theorem exists_around (h : Spells (before ++ .name name :: after) line) :
    ∃ front back, line = front ++ (name.toList ++ back) ∧ Spells before front ∧ Spells after back ∧
      (∀ c ∈ front.getLast?, ¬ IsNameChar c) ∧ ∀ c ∈ back.head?, ¬ IsNameChar c := by
  generalize htokens : before ++ .name name :: after = tokens at h
  induction h generalizing before with
  | nil => simp at htokens
  | @space tokens text c hwhite h ih =>
    obtain ⟨front, back, rfl, hbefore, hafter, hlast, hhead⟩ := ih htokens
    have hc : ¬ IsNameChar c := fun hc => Bool.false_ne_true (hc.1.symm.trans hwhite)
    exact ⟨c :: front, back, rfl, .space hwhite hbefore, hafter,
      not_isNameChar_getLast?_cons hc hlast, hhead⟩
  | @mark tokens text token c hmark htext h ih =>
    cases before with
    | nil =>
      obtain ⟨rfl, -⟩ := List.cons_eq_cons.mp htokens
      exact absurd rfl (hmark name)
    | cons first before =>
      obtain ⟨rfl, rfl⟩ := List.cons_eq_cons.mp htokens
      obtain ⟨front, back, rfl, hbefore, hafter, hlast, hhead⟩ := ih rfl
      have hc : ¬ IsNameChar c := fun hc => hc.2 first hmark htext
      exact ⟨c :: front, back, rfl, .mark hmark htext hbefore, hafter,
        not_isNameChar_getLast?_cons hc hlast, hhead⟩
  | @name tokens text other hne hname hend h ih =>
    cases before with
    | nil =>
      obtain ⟨heq, rfl⟩ := List.cons_eq_cons.mp htokens
      obtain rfl := Token.name.inj heq
      exact ⟨[], text, rfl, .nil, h, nofun, hend⟩
    | cons first before =>
      obtain ⟨rfl, rfl⟩ := List.cons_eq_cons.mp htokens
      obtain ⟨front, back, rfl, hbefore, hafter, hlast, hhead⟩ := ih rfl
      have hproper : IsProperName name := h.isProperName (by simp)
      have hfront := hproper.ne_nil_of_head? hend
      refine ⟨other.toList ++ front, back, by simp, .name hne hname ?_ hbefore, hafter, ?_, hhead⟩
      · rwa [List.head?_append_of_ne_nil _ hfront] at hend
      · rwa [List.getLast?_append_of_ne_nil _ hfront]

/-- White space separates two names in a row. -/
theorem exists_gap {first second : String}
    (h : Spells (before ++ .name first :: .name second :: after) line) :
    ∃ front gap back, line = front ++ (first.toList ++ (gap ++ (second.toList ++ back))) ∧
      Spells before front ∧ Spells after back ∧ gap ≠ [] ∧
      ∀ c ∈ gap, Unicode.isWhiteSpace c = true := by
  rw [List.append_cons] at h
  obtain ⟨text, back, rfl, hbefore, hafter, hlast, -⟩ := h.exists_around
  have hproper : IsProperName first := hbefore.isProperName (by simp)
  have hchars := (isProperName_iff.mp hproper).2
  obtain ⟨front, gap, rfl, hfront, hgap, -, -⟩ := hbefore.exists_around
  refine ⟨front, gap, back, by simp, hfront, hafter, ?_, hgap.isWhiteSpace_of_nil⟩
  rintro rfl
  have hfirst : first.toList ≠ [] := mt String.toList_eq_nil_iff.mp hproper.1
  rw [List.append_nil, List.getLast?_append_of_ne_nil _ hfirst] at hlast
  exact hlast _ (List.getLast?_eq_some_getLast hfirst) (hchars _ (List.getLast_mem hfirst))

theorem cons (htoken : ∀ name, token = .name name → IsProperName name)
    (hend : ∀ c ∈ text.head?, ¬ IsNameChar c) (h : Spells tokens text) :
    Spells (token :: tokens) (token.text.toList ++ text) := by
  by_cases hmark : token.IsMark
  · obtain ⟨c, hc⟩ := hmark.exists_eq_singleton
    rw [hc, String.toList_singleton]
    exact .mark hmark hc h
  · simp only [IsMark, not_forall, not_not] at hmark
    obtain ⟨name, rfl⟩ := hmark
    obtain ⟨hne, hname⟩ := isProperName_iff.mp (htoken name rfl)
    exact .name hne hname hend h

/-- Tokens may be written with a space between any two of them. -/
theorem intercalate (h : ∀ name, .name name ∈ tokens → IsProperName name) :
    Spells tokens ([' '].intercalate (tokens.map (·.text.toList))) := by
  have hspace : Unicode.isWhiteSpace ' ' = true := by decide
  induction tokens with
  | nil => exact .nil
  | cons token tokens ih =>
    have htoken : ∀ name, token = .name name → IsProperName name :=
      fun name heq => h name (heq ▸ List.mem_cons_self)
    have hmore := ih fun name hmem => h name (List.mem_cons_of_mem _ hmem)
    cases tokens with
    | nil =>
      have hlast : Spells [token] (token.text.toList ++ []) := .cons htoken nofun .nil
      simpa using hlast
    | cons next tokens =>
      have hend : ∀ c ∈ (' ' :: [' '].intercalate
          ((next :: tokens).map (·.text.toList))).head?, ¬ IsNameChar c := by
        rintro c hc
        obtain rfl := Option.some.inj hc
        exact fun hname => Bool.false_ne_true (hname.1.symm.trans hspace)
      have hcons := Spells.cons htoken hend (.space hspace hmore)
      rwa [List.map_cons, List.map_cons, List.intercalate_cons_cons, List.append_assoc]

end Spells

/-- How a line and its tokens hang together. -/
structure Tokenizes (line : List Char) (tokens : List Token) : Prop where
  flatMap_text : tokens.flatMap (·.text.toList) = line.filter fun c => !Unicode.isWhiteSpace c
  isProperName : ∀ name, .name name ∈ tokens → IsProperName name
  longest : ∀ before name after, tokens = before ++ .name name :: after →
    ∃ front back, line = front ++ (name.toList ++ back) ∧ scan front = before ∧ scan back = after ∧
      (∀ c ∈ front.getLast?, Unicode.isWhiteSpace c = true ∨ c ∈ reserved) ∧
      ∀ c ∈ back.head?, Unicode.isWhiteSpace c = true ∨ c ∈ reserved
  separated : ∀ before first second after,
    tokens = before ++ .name first :: .name second :: after →
    ∃ front gap back, line = front ++ (first.toList ++ (gap ++ (second.toList ++ back))) ∧
      scan front = before ∧ scan back = after ∧ gap ≠ [] ∧
      ∀ c ∈ gap, Unicode.isWhiteSpace c = true
  scan_spaced : scan ([' '].intercalate (tokens.map (·.text.toList))) = tokens

/-- The tokens of a line have all of its text apart from white space. Names are as long as they can
be, so that two in a row stand apart, and the tokens with single spaces between them are read as the
same tokens. -/
theorem tokenizes_scan (line : List Char) : Tokenizes line (scan line) := by
  have hspells : Spells (scan line) line := scan_eq_iff.mp rfl
  have hend : ∀ c, ¬ IsNameChar c → Unicode.isWhiteSpace c = true ∨ c ∈ reserved := by
    intro c hc
    rw [isNameChar_iff_not_mem] at hc
    by_cases hwhite : Unicode.isWhiteSpace c = true
    · exact .inl hwhite
    · exact .inr (by_contra fun hmem => hc ⟨Bool.not_eq_true _ ▸ hwhite, hmem⟩)
  refine
    { flatMap_text := hspells.flatMap_text
      isProperName := fun name => hspells.isProperName
      longest := fun before name after htokens => ?_
      separated := fun before first second after htokens => ?_
      scan_spaced := scan_of_spells (.intercalate fun name => hspells.isProperName) }
  · obtain ⟨front, back, hline, hbefore, hafter, hlast, hhead⟩ := (htokens ▸ hspells).exists_around
    exact ⟨front, back, hline, scan_of_spells hbefore, scan_of_spells hafter,
      fun c hc => hend c (hlast c hc), fun c hc => hend c (hhead c hc)⟩
  · obtain ⟨front, gap, back, hline, hbefore, hafter, hgap⟩ := (htokens ▸ hspells).exists_gap
    exact ⟨front, gap, back, hline, scan_of_spells hbefore, scan_of_spells hafter, hgap⟩

example : scan "a(b  |c)÷ d*".toList = [.name "a", .leftParen, .name "b", .bar, .name "c",
    .rightParen, .operator .cut, .name "d", .star] := by decide

end BoundaryRules.Token
