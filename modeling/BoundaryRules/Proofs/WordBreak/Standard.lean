import BoundaryRules.Proofs.WordBreak.Classes
import Mathlib.Data.List.ProdSigma
import Mathlib.Data.List.Sections

/-! Word boundaries as the rules define them, over the classes of the characters. The rules are
taken in order, and the contexts of those that join are compared with the classes that are left
once the ignored ones are deleted. -/
namespace BoundaryRules.WordBreak

/-- WB3a and WB3b: there is a boundary on both sides of these. -/
def isLineBreak (w : WordBreak) : Bool := w = cr || w = lf || w = newline

/-- WB4: these belong to the character before them. -/
def isIgnored (w : WordBreak) : Bool := w = extend || w = format

/-- A rule against a boundary. Each place of a context is of one of several classes. -/
structure JoiningRule where
  left : List (List WordBreak)
  right : List (List WordBreak)

def ahLetter : List WordBreak := [aLetter, hebrewLetter]

def midNumLetQ : List WordBreak := [midNumLet, singleQuote]

/-- WB5 to WB13c. -/
def joiningRules : List JoiningRule := [
  ⟨[ahLetter], [ahLetter]⟩,
  ⟨[ahLetter], [midLetter :: midNumLetQ, ahLetter]⟩,
  ⟨[ahLetter, midLetter :: midNumLetQ], [ahLetter]⟩,
  ⟨[[hebrewLetter]], [[singleQuote]]⟩,
  ⟨[[hebrewLetter]], [[doubleQuote], [hebrewLetter]]⟩,
  ⟨[[hebrewLetter], [doubleQuote]], [[hebrewLetter]]⟩,
  ⟨[[numeric]], [[numeric]]⟩,
  ⟨[ahLetter], [[numeric]]⟩,
  ⟨[[numeric]], [ahLetter]⟩,
  ⟨[[numeric], midNum :: midNumLetQ], [[numeric]]⟩,
  ⟨[[numeric]], [midNum :: midNumLetQ, [numeric]]⟩,
  ⟨[[katakana]], [[katakana]]⟩,
  ⟨[ahLetter ++ [numeric, katakana, extendNumLet]], [[extendNumLet]]⟩,
  ⟨[[extendNumLet]], [ahLetter ++ [numeric, katakana]]⟩,
  ⟨[[regionalIndicator]], [[regionalIndicator]]⟩]

/-- Whether the classes next to a boundary are those of a context, the nearest first. -/
def meetsSide : List (List WordBreak) → List WordBreak → Bool
  | [], _ => true
  | classes :: context, w :: side => classes.contains w && meetsSide context side
  | _ :: _, [] => false

/-- Whether some rule joins what stands before a boundary, the nearest class first, to what stands
after it. -/
def joins (before after : List WordBreak) : Bool :=
  joiningRules.any fun rule => meetsSide rule.left.reverse before && meetsSide rule.right after

/-- What is left of a text, or of the part of it that stands after `previous`, without the ignored
characters that follow a character other than a line break. -/
def remaining (previous : Option WordBreak) : List WordBreak → List WordBreak
  | [] => []
  | w :: text =>
    if w.isIgnored && previous.any (!·.isLineBreak) then remaining (some w) text
    else w :: remaining (some w) text

/-- The classes before boundary `i` that are left, the nearest first. -/
def before (text : List WordBreak) (i : Nat) : List WordBreak :=
  (remaining none (text.take i)).reverse

/-- The classes after boundary `i` that are left. -/
def after (text : List WordBreak) (i : Nat) : List WordBreak :=
  remaining (text.take i).getLast? (text.drop i)

/-- Whether a word ends at boundary `i`. -/
def breaksAt (text : List WordBreak) (i : Nat) : Bool :=
  match (text.take i).getLast?, text[i]? with
  | some v, some w =>
    if v = cr ∧ w = lf then false
    else if v.isLineBreak || w.isLineBreak then true
    else if w.isIgnored then false
    else !joins (before text i) (after text i)
  | _, _ => true

/-- The rules against a boundary with one class for each place, WB3 among them. -/
def definiteRules : List (List WordBreak × List WordBreak) :=
  ([cr], [lf]) :: joiningRules.flatMap fun rule => rule.left.sections ×ˢ rule.right.sections

/-- Those of them with `v` and `w` next to the boundary. -/
def rulesBetween (v w : WordBreak) : List (List WordBreak × List WordBreak) :=
  definiteRules.filter fun rule => rule.1.getLast? = some v ∧ rule.2.head? = some w

section Rules

variable {v w : WordBreak} {rule : List WordBreak × List WordBreak}

theorem isIgnored_of_mem_definiteRules :
    ∀ rule ∈ definiteRules, ∀ w ∈ rule.1 ++ rule.2, w.isIgnored = false := by
  decide +kernel

theorem ne_nil_of_mem_definiteRules : ∀ rule ∈ definiteRules, rule.1 ≠ [] ∧ rule.2 ≠ [] := by
  decide +kernel

theorem mem_rulesBetween :
    rule ∈ rulesBetween v w ↔
      rule ∈ definiteRules ∧ rule.1.getLast? = some v ∧ rule.2.head? = some w := by
  rw [rulesBetween, List.mem_filter, decide_eq_true_eq]

theorem meetsSide_iff {context : List (List WordBreak)} {side : List WordBreak} :
    meetsSide context side = true ↔ ∃ classes ∈ context.sections, classes <+: side := by
  simp only [List.mem_sections]
  induction context generalizing side with
  | nil => simp [meetsSide]
  | cons classes context ih =>
    cases side with
    | nil => simp [meetsSide]
    | cons w side =>
      rw [meetsSide, Bool.and_eq_true, ih, List.contains_iff_mem]
      constructor
      · rintro ⟨hw, ws, hws, hfront⟩
        exact ⟨w :: ws, .cons hw hws, List.cons_prefix_cons.mpr ⟨rfl, hfront⟩⟩
      · rintro ⟨_, hws, hfront⟩
        obtain ⟨v, ws, hv, hrest, rfl⟩ := List.forall₂_cons_right_iff.mp hws
        obtain ⟨rfl, hside⟩ := List.cons_prefix_cons.mp hfront
        exact ⟨hv, ws, hrest, hside⟩

theorem mem_sections_reverse {context : List (List WordBreak)} {classes : List WordBreak} :
    classes ∈ context.reverse.sections ↔ classes.reverse ∈ context.sections := by
  rw [List.mem_sections, List.mem_sections, ← List.forall₂_reverse_iff, List.reverse_reverse]

/-- A rule joins if it does with some choice of classes. -/
theorem joins_iff {before after : List WordBreak} (hline : before.head? ≠ some cr) :
    joins before after = true ↔
      ∃ rule ∈ definiteRules, rule.1.reverse <+: before ∧ rule.2 <+: after := by
  simp only [joins, List.any_eq_true, Bool.and_eq_true, meetsSide_iff, mem_sections_reverse]
  constructor
  · rintro ⟨rule, hrule, ⟨left, hleft, hbefore⟩, ⟨right, hright, hafter⟩⟩
    refine ⟨(left.reverse, right), List.mem_cons_of_mem _ ?_, by simpa using hbefore, hafter⟩
    exact List.mem_flatMap.mpr ⟨rule, hrule, List.mem_product.mpr ⟨hleft, hright⟩⟩
  · rintro ⟨rule, hrule, hbefore, hafter⟩
    rcases List.mem_cons.mp hrule with rfl | hrule
    · obtain ⟨rest, rfl⟩ := hbefore
      exact absurd rfl hline
    · obtain ⟨source, hsource, hmem⟩ := List.mem_flatMap.mp hrule
      obtain ⟨hleft, hright⟩ := List.mem_product.mp hmem
      exact ⟨source, hsource, ⟨_, by simpa using hleft, hbefore⟩, ⟨_, hright, hafter⟩⟩

end Rules

section Remaining

variable {previous : Option WordBreak} {s t text : List WordBreak} {v w : WordBreak} {i : Nat}

theorem remaining_append :
    remaining previous (s ++ t) = remaining previous s ++ remaining (s.getLast?.or previous) t := by
  induction s generalizing previous with
  | nil => rfl
  | cons w s ih =>
    have hlast : (w :: s).getLast?.or previous = s.getLast?.or (some w) := by
      cases s <;> simp [List.getLast?_cons]
    rw [List.cons_append, remaining, remaining, ih, hlast]
    split <;> rfl

theorem remaining_of_not_ignored (h : ∀ w ∈ s, w.isIgnored = false) : remaining previous s = s := by
  induction s generalizing previous with
  | nil => rfl
  | cons w s ih =>
    obtain ⟨hw, hs⟩ := List.forall_mem_cons.mp h
    rw [remaining, hw, ih hs]
    rfl

/-- Classes that are not ignored are left where they stand next to each other. -/
theorem prefix_remaining (hs : ∀ w ∈ s, w.isIgnored = false) (h : s <+: t) :
    s <+: remaining previous t := by
  obtain ⟨rest, rfl⟩ := h
  rw [remaining_append, remaining_of_not_ignored hs]
  exact List.prefix_append _ _

theorem suffix_remaining (hs : ∀ w ∈ s, w.isIgnored = false) (h : s <:+ t) :
    s <:+ remaining previous t := by
  obtain ⟨rest, rfl⟩ := h
  rw [remaining_append, remaining_of_not_ignored hs]
  exact List.suffix_append _ _

theorem before_succ (h : text[i]? = some w) :
    before text (i + 1) =
      if w.isIgnored && (text.take i).getLast?.any (!·.isLineBreak) then before text i
      else w :: before text i := by
  rw [before, List.take_add_one, h, Option.toList_some, remaining_append, Option.or_none,
    List.reverse_append, before, remaining]
  split <;> rfl

theorem getLast?_take_succ (h : text[i]? = some w) : (text.take (i + 1)).getLast? = some w := by
  rw [List.take_add_one, h, Option.toList_some, List.getLast?_concat]

theorem isLineBreak_of_isIgnored (h : w.isIgnored = true) : w.isLineBreak = false := by
  cases w <;> revert h <;> decide

theorem isIgnored_of_isLineBreak (h : w.isLineBreak = true) : w.isIgnored = false := by
  cases w <;> revert h <;> decide

/-- The nearest class that is left before a boundary is that of the character next to it, unless
this is ignored, and a line break only with it. -/
theorem exists_head?_before (hpos : 0 < i) (hle : i ≤ text.length) :
    ∃ v w, (text.take i).getLast? = some v ∧ (before text i).head? = some w ∧
      (v.isIgnored = false → w = v) ∧ w.isLineBreak = v.isLineBreak := by
  induction i with
  | zero => contradiction
  | succ i ih =>
    have hw := List.getElem?_eq_getElem (show i < text.length by omega)
    generalize text[i] = w at hw
    refine ⟨w, ?_⟩
    rw [getLast?_take_succ hw, before_succ hw]
    split
    next hdeleted =>
      obtain ⟨hignored, hkept⟩ := Bool.and_eq_true_iff.mp hdeleted
      have hi : 0 < i := by
        rcases Nat.eq_zero_or_pos i with rfl | hi
        · simp at hkept
        · exact hi
      obtain ⟨v, u, hv, hu, -, hline⟩ := ih hi (by omega)
      refine ⟨u, rfl, hu, fun hnot => absurd hignored (by simp [hnot]), ?_⟩
      rw [hline, isLineBreak_of_isIgnored hignored]
      simpa [hv] using hkept
    next => exact ⟨w, rfl, rfl, fun _ => rfl, rfl⟩

/-- A boundary inside a text: `u` and `w` are the classes next to it, and `v` is the nearest class
before it that is left. -/
structure Interior (text : List WordBreak) (i : Nat) (u v w : WordBreak) : Prop where
  last : (text.take i).getLast? = some u
  nearest : (before text i).head? = some v
  next : text[i]? = some w
  eq_of_not_ignored : u.isIgnored = false → v = u
  isLineBreak_eq : v.isLineBreak = u.isLineBreak

theorem exists_interior (hpos : 0 < i) (hlt : i < text.length) :
    ∃ u v w, Interior text i u v w := by
  obtain ⟨u, v, hu, hv, heq, hline⟩ := exists_head?_before hpos (Nat.le_of_lt hlt)
  exact ⟨u, v, text[i], hu, hv, List.getElem?_eq_getElem hlt, heq, hline⟩

namespace Interior

variable {u : WordBreak}

theorem eq_cr_iff (h : Interior text i u v w) : u = cr ↔ v = cr := by
  constructor
  · rintro rfl
    exact h.eq_of_not_ignored rfl
  · rintro rfl
    exact (h.eq_of_not_ignored (isIgnored_of_isLineBreak h.isLineBreak_eq.symm)).symm

theorem head?_take_reverse (h : Interior text i u v w) : (text.take i).reverse.head? = some u := by
  rw [List.head?_reverse, h.last]

theorem head?_drop (h : Interior text i u v w) : (text.drop i).head? = some w := by
  rw [List.head?_drop, h.next]

/-- The rules in order, by the nearest class that is left. -/
theorem breaksAt_eq_false_iff (h : Interior text i u v w) :
    breaksAt text i = false ↔
      (v = cr ∧ w = lf) ∨ (v.isLineBreak = false ∧ w.isLineBreak = false ∧
        (w.isIgnored = true ∨ joins (before text i) (after text i) = true)) := by
  have hbreaks : breaksAt text i =
      if u = cr ∧ w = lf then false else if u.isLineBreak || w.isLineBreak then true
      else if w.isIgnored then false else !joins (before text i) (after text i) := by
    rw [breaksAt, h.last, h.next]
  rw [hbreaks, h.isLineBreak_eq, ← h.eq_cr_iff]
  by_cases hcrlf : u = cr ∧ w = lf
  · rw [if_pos hcrlf]
    exact iff_of_true rfl (.inl hcrlf)
  · rw [if_neg hcrlf]
    cases u.isLineBreak <;> cases w.isLineBreak <;> cases w.isIgnored <;> simp [hcrlf]

private theorem head?_eq_of_front {s t : List WordBreak} (hs : s ≠ []) (h : s <+: t) :
    s.head? = t.head? := by
  obtain ⟨rest, rfl⟩ := h
  exact (List.head?_append_of_ne_nil _ hs).symm

/-- Whether some rule with `v` and `w` next to the boundary has its contexts there. -/
theorem joins_take_drop_iff (h : Interior text i u v w) (hline : v.isLineBreak = false) :
    joins (text.take i).reverse (text.drop i) = true ↔
      ∃ rule ∈ rulesBetween v w,
        rule.1.reverse <+: (text.take i).reverse ∧ rule.2 <+: text.drop i := by
  have hcr : (text.take i).reverse.head? ≠ some cr := by
    rw [h.head?_take_reverse]
    rintro ⟨⟩
    rw [h.isLineBreak_eq] at hline
    contradiction
  rw [joins_iff hcr]
  constructor
  · rintro ⟨rule, hrule, hbehind, hahead⟩
    obtain ⟨hleft, hright⟩ := ne_nil_of_mem_definiteRules rule hrule
    have hu : rule.1.getLast? = some u := by
      rw [← List.head?_reverse, head?_eq_of_front (by simpa using hleft) hbehind,
        h.head?_take_reverse]
    have hignored : u.isIgnored = false :=
      isIgnored_of_mem_definiteRules rule hrule u
        (List.mem_append_left _ (List.mem_of_getLast? hu))
    refine ⟨rule, mem_rulesBetween.mpr ⟨hrule, ?_, ?_⟩, hbehind, hahead⟩
    · rw [hu, h.eq_of_not_ignored hignored]
    · rw [head?_eq_of_front hright hahead, h.head?_drop]
  · rintro ⟨rule, hrule, hfound⟩
    exact ⟨rule, (mem_rulesBetween.mp hrule).1, hfound⟩

/-- Contexts that are found next to a boundary are found there in what is left as well. -/
theorem joins_of_joins (h : Interior text i u v w) (hline : v.isLineBreak = false)
    (hjoins : joins (text.take i).reverse (text.drop i) = true) :
    joins (before text i) (after text i) = true := by
  obtain ⟨rule, hrule, hbehind, hahead⟩ := (h.joins_take_drop_iff hline).mp hjoins
  have hdefinite := (mem_rulesBetween.mp hrule).1
  have hignored := isIgnored_of_mem_definiteRules rule hdefinite
  have hcr : (before text i).head? ≠ some cr := by
    rw [h.nearest]
    rintro ⟨⟩
    contradiction
  refine (joins_iff hcr).mpr ⟨rule, hdefinite, ?_, ?_⟩
  · rw [before, List.reverse_prefix]
    exact suffix_remaining (fun w hw => hignored w (List.mem_append_left _ hw))
      (List.reverse_prefix.mp hbehind)
  · exact prefix_remaining (fun w hw => hignored w (List.mem_append_right _ hw)) hahead

end Interior

end Remaining

end BoundaryRules.WordBreak
