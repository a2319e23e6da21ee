import BoundaryRules.ClassRecord
import Mathlib.Data.List.TakeWhile

/-! Lines of the record format. A range stands before the first semicolon and a name behind it, and
each of them is read by itself. -/
namespace BoundaryRules

section Runs

variable {α : Type} {p : α → Bool} {a : α}

theorem takeWhile_append_cons_of_neg (h : p a = false) (front rest : List α) :
    (front ++ a :: rest).takeWhile p = front.takeWhile p := by
  induction front with
  | nil => simp [h]
  | cons b front ih => rw [List.cons_append, List.takeWhile_cons, List.takeWhile_cons, ih]

theorem dropWhile_append_cons_of_neg (h : p a = false) (front rest : List α) :
    (front ++ a :: rest).dropWhile p = front.dropWhile p ++ a :: rest := by
  induction front with
  | nil => simp [h]
  | cons b front ih =>
    rw [List.cons_append, List.dropWhile_cons, List.dropWhile_cons, ih]
    split <;> rfl

variable {front rest : List α}

theorem takeWhile_append_of_stop (hfront : ∀ a ∈ front, p a = true)
    (hstop : ∀ a ∈ rest.head?, p a = false) : (front ++ rest).takeWhile p = front := by
  rw [List.takeWhile_append_of_pos hfront]
  cases rest with
  | nil => simp
  | cons a rest => simp [hstop a rfl]

theorem dropWhile_append_of_stop (hfront : ∀ a ∈ front, p a = true)
    (hstop : ∀ a ∈ rest.head?, p a = false) : (front ++ rest).dropWhile p = rest := by
  rw [List.dropWhile_append_of_pos hfront]
  cases rest with
  | nil => rfl
  | cons a rest => simp [hstop a rfl]

end Runs

namespace ClassRecord

variable {range gap name rest : List Char}

/-- The ends of a range as written, if nothing but white space stands around them. -/
def splitRange? (range : List Char) : Option (List Char × Option (List Char)) :=
  let range := range.dropWhile Unicode.isWhiteSpace
  let first := range.takeWhile Hex.isDigit
  if first.isEmpty then none
  else
    let (last, rest) := splitLast (range.dropWhile Hex.isDigit)
    if (rest.dropWhile Unicode.isWhiteSpace).isEmpty then some (first, last) else none

/-- Whether nothing but white space and a comment is left of a line. -/
def endsRecord (rest : List Char) : Bool :=
  match rest.dropWhile Unicode.isWhiteSpace with
  | [] => true
  | '#' :: comment => !comment.contains '\n'
  | _ => false

theorem splitLast_of_not_dots (h : ∀ after, range ≠ '.' :: '.' :: after) :
    splitLast range = (none, range) := by
  unfold splitLast
  split
  next after => exact absurd rfl (h after)
  next => rfl

theorem splitLast_append_semicolon (range rest : List Char) :
    splitLast (range ++ ';' :: rest) =
      ((splitLast range).1, (splitLast range).2 ++ ';' :: rest) := by
  have hdigit : Hex.isDigit ';' = false := by decide
  by_cases hdots : ∃ after, range = '.' :: '.' :: after
  · obtain ⟨after, rfl⟩ := hdots
    simp only [List.cons_append, splitLast, takeWhile_append_cons_of_neg hdigit,
      dropWhile_append_cons_of_neg hdigit]
    split <;> rfl
  · have hnot : ∀ after, range ≠ '.' :: '.' :: after := fun after h => hdots ⟨after, h⟩
    have hmore : ∀ after, range ++ ';' :: rest ≠ '.' :: '.' :: after := by
      intro after h
      match range, h with
      | [], h => simp at h
      | [c], h => simp at h
      | c :: d :: more, h =>
        simp only [List.cons_append, List.cons.injEq] at h
        exact hnot more (by rw [h.1, h.2.1])
    rw [splitLast_of_not_dots hnot, splitLast_of_not_dots hmore]

theorem mem_of_mem_splitLast {c : Char} (h : c ∈ (splitLast range).2) : c ∈ range := by
  unfold splitLast at h
  split at h
  next after =>
    split at h
    next => exact h
    next =>
      exact List.mem_cons_of_mem _ (List.mem_cons_of_mem _ ((List.dropWhile_sublist _).subset h))
  next => exact h

/-- The range and the name of a line do not depend on each other. -/
theorem split?_append_semicolon (h : ';' ∉ range) :
    split? (range ++ ';' :: rest) =
      (splitRange? range).bind fun (first, last) => (splitName? rest).map (⟨first, last, ·⟩) := by
  have hwhite : Unicode.isWhiteSpace ';' = false := by decide +kernel
  have hdigit : Hex.isDigit ';' = false := by decide
  simp only [split?, splitRange?, dropWhile_append_cons_of_neg hwhite,
    takeWhile_append_cons_of_neg hdigit, dropWhile_append_cons_of_neg hdigit,
    splitLast_append_semicolon]
  split
  next => rfl
  next =>
    have hnot : ';' ∉ ((splitLast ((range.dropWhile Unicode.isWhiteSpace).dropWhile
        Hex.isDigit)).2).dropWhile Unicode.isWhiteSpace := fun hmem =>
      h ((List.dropWhile_sublist _).subset ((List.dropWhile_sublist _).subset
        (mem_of_mem_splitLast ((List.dropWhile_sublist _).subset hmem))))
    revert hnot
    cases ((splitLast ((range.dropWhile Unicode.isWhiteSpace).dropWhile
        Hex.isDigit)).2).dropWhile Unicode.isWhiteSpace with
    | nil => intro _; rfl
    | cons c more =>
      intro hnot
      have hc : c ≠ ';' := fun heq => hnot (heq ▸ List.mem_cons_self)
      simp only [List.cons_append, List.isEmpty_cons, Bool.false_eq_true, if_false,
        Option.bind_none]
      split
      next hcons => exact absurd (List.cons.inj hcons).1 hc
      next => rfl

/-- A name is read if the line ends behind it. -/
theorem splitName?_append (hgap : ∀ c ∈ gap, Unicode.isWhiteSpace c = true) (hne : name ≠ [])
    (hname : ∀ c ∈ name, isNameChar c = true) (hend : ∀ c ∈ rest.head?, isNameChar c = false) :
    splitName? (gap ++ (name ++ rest)) = if endsRecord rest then some name else none := by
  have hhead : (name ++ rest).dropWhile Unicode.isWhiteSpace = name ++ rest := by
    cases name with
    | nil => exact absurd rfl hne
    | cons c name =>
      have hc := hname c List.mem_cons_self
      simp only [isNameChar, Bool.and_eq_true, Bool.not_eq_true'] at hc
      rw [List.cons_append, List.dropWhile_cons, hc.1.1]
      rfl
  have htake := takeWhile_append_of_stop hname hend
  have hdrop := dropWhile_append_of_stop hname hend
  have hempty : name.isEmpty = false := List.isEmpty_eq_false_iff.mpr hne
  simp only [splitName?, List.dropWhile_append_of_pos hgap, hhead, htake, hdrop, hempty,
    Bool.false_eq_true, if_false]
  cases htail : rest.dropWhile Unicode.isWhiteSpace with
  | nil =>
    have hends : endsRecord rest = true := by rw [endsRecord, htail]
    rw [if_pos hends]
  | cons c comment =>
    by_cases hc : c = '#'
    · subst hc
      have hends : endsRecord rest = !comment.contains '\n' := by rw [endsRecord, htail]; rfl
      show (if comment.contains '\n' = true then none else some name) = _
      rw [hends]
      cases comment.contains '\n' <;> rfl
    · have hends : endsRecord rest = false := by simp [endsRecord, htail, hc]
      simp [hends, hc]

end ClassRecord
end BoundaryRules
