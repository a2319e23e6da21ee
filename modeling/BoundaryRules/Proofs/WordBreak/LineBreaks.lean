import BoundaryRules.Proofs.WordBreak.Sides

/-! Line breaks under the bundled grammar. No context reaches over a line break, and the start of a
line is to its rules what the start of the text is, so a text has the words of its lines. -/
namespace BoundaryRules.WordBreak

/-- A line ends or begins between two parts of a text: there is a line break next to the boundary,
and not CR LF. -/
def Parted (front back : List WordBreak) : Prop :=
  ∀ u ∈ front.getLast?, ∀ w ∈ back.head?,
    (u.isLineBreak || w.isLineBreak) = true ∧ ¬ (u = cr ∧ w = lf)

/-- Only contexts of one class have line breaks. -/
theorem isLineBreak_of_one_lt_length :
    ∀ rule ∈ definiteRules, ∀ context ∈ [rule.1, rule.2], 1 < context.length →
      ∀ w ∈ context, w.isLineBreak = false := by
  decide +kernel

section Classes

variable {s t front back context : List WordBreak} {u v w : WordBreak}

theorem Parted.drop (h : Parted s t) (i : Nat) : Parted (s.drop i) t := by
  intro u hu
  rw [List.getLast?_drop] at hu
  split at hu
  · contradiction
  · exact h u hu

theorem Parted.take (h : Parted s t) (i : Nat) : Parted s (t.take i) := by
  intro u hu w hw
  rw [List.head?_take] at hw
  split at hw
  · contradiction
  · exact h u hu w hw

theorem Parted.not_goesOn (h : Parted s t) (hs : s ≠ []) : ¬ GoesOn s t := by
  rintro ⟨v', w, hv', hw, hgoes⟩
  obtain ⟨u, v, hu, hv, heq, hline⟩ := exists_nearest hs
  obtain rfl := Option.some.inj (hv.symm.trans hv')
  obtain ⟨hbreak, hcrlf⟩ := h u hu w hw
  rw [← hline] at hbreak
  have hne : ¬ (v = cr ∧ w = lf) := by
    rintro ⟨rfl, rfl⟩
    exact hcrlf ⟨(heq (isIgnored_of_isLineBreak hline.symm)).symm, rfl⟩
  rcases hgoes with hjoins | habsorbs
  · exact not_joinsAsFiled _ _ (by rw [hbreak]; rfl) hne hjoins
  · obtain ⟨hignored, hv⟩ := Bool.and_eq_true_iff.mp habsorbs
    rw [isLineBreak_of_isIgnored hignored, Bool.or_false] at hbreak
    rw [hbreak] at hv
    contradiction

/-- Nothing is deleted for what stands before a line break or behind it. -/
theorem Parted.remaining_eq (h : Parted s t) : remaining s.getLast? t = remaining none t := by
  cases hs : s.getLast? with
  | none => rfl
  | some u =>
    cases t with
    | nil => rfl
    | cons w t =>
      have hbreak := (h u hs w rfl).1
      rw [remaining, remaining]
      cases hu : u.isLineBreak with
      | true => simp [hu]
      | false =>
        rw [hu, Bool.false_or] at hbreak
        simp [isIgnored_of_isLineBreak hbreak]

/-- A context does not reach over a line break. -/
theorem not_prefix_of_isLineBreak {rule : List WordBreak × List WordBreak}
    (hrule : rule ∈ definiteRules) (hcontext : context ∈ [rule.1, rule.2])
    (hu : u ∈ front) (hline : (u.isLineBreak || w.isLineBreak) = true) :
    ¬ front ++ [w] <+: context ∧ ¬ front ++ [w] <+: context.reverse := by
  have hshort : ¬ (front ++ [w] ⊆ context ∧ (front ++ [w]).length ≤ context.length) := by
    rintro ⟨hsub, hle⟩
    have hlength : 1 < context.length := by
      have := List.length_pos_of_mem hu
      rw [List.length_append, List.length_singleton] at hle
      omega
    have hnone := isLineBreak_of_one_lt_length rule hrule context hcontext hlength
    rw [hnone u (hsub (by simp [hu])), hnone w (hsub (by simp))] at hline
    contradiction
  constructor
  · intro h
    exact hshort ⟨h.subset, h.length_le⟩
  · intro h
    exact hshort ⟨fun _ hmem => List.mem_reverse.mp (h.subset hmem), by simpa using h.length_le⟩

theorem Parted.goesOn_append_right (h : Parted back t) (hback : back ≠ []) :
    GoesOn front (back ++ t) ↔ GoesOn front back := by
  apply goesOn_congr rfl (List.head?_append_of_ne_nil _ hback)
  intro rule hrule
  apply and_congr_right
  intro _
  apply prefix_append_iff
  intro w hw
  have hlast := List.getLast?_eq_some_getLast hback
  exact (not_prefix_of_isLineBreak hrule (by simp) (List.getLast_mem hback)
    (h _ hlast w hw).1).1

theorem Parted.goesOn_append_left (h : Parted s front) (hfront : front ≠ []) :
    GoesOn (s ++ front) back ↔ GoesOn front back := by
  have hnearest : (remaining none (s ++ front)).getLast? = (remaining none front).getLast? := by
    rw [remaining_append, Option.or_none, h.remaining_eq,
      List.getLast?_append_of_ne_nil _ (remaining_none_ne_nil hfront)]
  apply goesOn_congr hnearest rfl
  intro rule hrule
  rw [Found, Found, List.reverse_append]
  apply and_congr_left
  intro _
  apply prefix_append_iff
  intro u hu
  rw [List.head?_reverse] at hu
  have hfirst := List.head?_eq_some_head hfront
  refine (not_prefix_of_isLineBreak hrule (by simp) (List.mem_reverse.mpr (List.head_mem hfront))
    ?_).2
  rw [Bool.or_comm]
  exact (h u hu _ hfirst).1

end Classes

/-- The sequences that end a line. -/
def IsLineEnd (n : List Char) : Prop := n.map ofChar ∈ [[cr], [lf], [newline], [cr, lf]]

/-- Whether a line ends after `c`. -/
def endsLine (c : Char) (text : List Char) : Bool :=
  (ofChar c).isLineBreak && !(ofChar c = cr && text.head?.map ofChar = some lf)

/-- The lines of a text, each with the sequence that ends it. -/
def lines : List Char → List (List Char)
  | [] => []
  | c :: text => attach [c] (endsLine c text) (lines text)

section Lines

variable {s t n text : List Char} {c : Char}

theorem IsLineEnd.ne_nil (h : IsLineEnd n) : n ≠ [] := by
  rintro rfl
  contradiction

theorem IsLineEnd.isLineBreak (h : IsLineEnd n) : ∀ w ∈ n.map ofChar, w.isLineBreak = true := by
  have hall : ∀ classes ∈ [[cr], [lf], [newline], [cr, lf]], ∀ w ∈ classes,
      w.isLineBreak = true := by
    decide
  exact hall _ h

theorem IsLineEnd.parted_right (h : IsLineEnd n)
    (hcrlf : ¬ (s.getLast?.map ofChar = some cr ∧ n.head?.map ofChar = some lf)) :
    Parted (s.map ofChar) (n.map ofChar) := by
  intro u hu w hw
  rw [List.getLast?_map] at hu
  rw [List.head?_map] at hw
  refine ⟨?_, ?_⟩
  · rw [h.isLineBreak w (List.mem_of_mem_head? (List.head?_map ▸ hw)), Bool.or_true]
  · rintro ⟨rfl, rfl⟩
    exact hcrlf ⟨hu, hw⟩

theorem IsLineEnd.parted_left (h : IsLineEnd n)
    (hcrlf : ¬ (n.getLast?.map ofChar = some cr ∧ t.head?.map ofChar = some lf)) :
    Parted ((s ++ n).map ofChar) (t.map ofChar) := by
  intro u hu w hw
  rw [List.getLast?_map, List.getLast?_append_of_ne_nil _ h.ne_nil] at hu
  rw [List.head?_map] at hw
  refine ⟨?_, ?_⟩
  · rw [h.isLineBreak u (List.mem_of_getLast? (List.getLast?_map ▸ hu)), Bool.true_or]
  · rintro ⟨rfl, rfl⟩
    exact hcrlf ⟨hu, hw⟩

theorem parted_of_endsLine (h : endsLine c text = true) :
    Parted ((s ++ [c]).map ofChar) (text.map ofChar) := by
  intro u hu w hw
  rw [List.map_append, List.map_singleton, List.getLast?_concat] at hu
  obtain rfl := Option.some.inj hu
  rw [List.head?_map] at hw
  obtain ⟨hbreak, hcrlf⟩ := Bool.and_eq_true_iff.mp h
  refine ⟨by rw [hbreak, Bool.true_or], ?_⟩
  rintro ⟨hc, rfl⟩
  simp [hc, show text.head?.map ofChar = some lf from hw] at hcrlf

end Lines

section Filed

variable {ruleset : Ruleset} {s t : List Char} {i : Nat} (hfiled : Filed ruleset)
  (hclass : ∀ c, ruleset.classes.classOf c = (ofChar c).classId)
include hfiled hclass

theorem breaksAt_append_left (h : Parted (s.map ofChar) (t.map ofChar)) (hpos : 0 < i)
    (hlt : i < s.length) : ruleset.breaksAt (s ++ t) i = ruleset.breaksAt s i := by
  have hlt' : i < (s ++ t).length := by
    rw [List.length_append]
    omega
  rw [breaksAt_eq_iff_goesOn hfiled hclass hpos hlt' hpos hlt,
    List.take_append_of_le_length (Nat.le_of_lt hlt),
    List.drop_append_of_le_length (Nat.le_of_lt hlt), List.map_append]
  apply Parted.goesOn_append_right
  · rw [List.map_drop]
    exact h.drop i
  · simpa using hlt

theorem breaksAt_append_right (h : Parted (s.map ofChar) (t.map ofChar)) (hpos : 0 < i)
    (hlt : i < t.length) : ruleset.breaksAt (s ++ t) (i + s.length) = ruleset.breaksAt t i := by
  have hlt' : i + s.length < (s ++ t).length := by
    rw [List.length_append]
    omega
  rw [breaksAt_eq_iff_goesOn hfiled hclass (Nat.add_pos_left hpos _) hlt' hpos hlt, Nat.add_comm,
    List.take_length_add_append, List.drop_length_add_append, List.map_append]
  apply Parted.goesOn_append_left
  · rw [List.map_take]
    exact h.take i
  · apply List.ne_nil_of_length_pos
    rw [List.length_map, List.length_take]
    omega

theorem breaksAt_length_of_parted (h : Parted (s.map ofChar) (t.map ofChar)) (hs : s ≠ [])
    (ht : t ≠ []) : ruleset.breaksAt (s ++ t) s.length = true := by
  have hlt : s.length < (s ++ t).length := by
    have := List.length_pos_iff.mpr ht
    rw [List.length_append]
    omega
  rw [← Bool.not_eq_false, breaksAt_eq_false_iff_goesOn hfiled hclass (List.length_pos_iff.mpr hs)
    hlt, List.take_left, List.drop_left]
  exact h.not_goesOn (by simpa using hs)

/-- A text that is parted has the words of its parts. -/
theorem words_append_of_parted (h : Parted (s.map ofChar) (t.map ofChar)) :
    ruleset.words (s ++ t) = ruleset.words s ++ ruleset.words t := by
  have hcut : s ≠ [] → t ≠ [] → ruleset.breaksAt (s ++ t) (0 + s.length) = true := by
    rw [Nat.zero_add]
    exact breaksAt_length_of_parted hfiled hclass h
  have hleft : pieces (ruleset.breaksAt (s ++ t)) 0 s = pieces (ruleset.breaksAt s) 0 s := by
    rw [pieces_eq_iff]
    intro i hpos hlt
    exact breaksAt_append_left hfiled hclass h hpos (by omega)
  have hright : pieces (ruleset.breaksAt (s ++ t)) (0 + s.length) t =
      pieces (ruleset.breaksAt t) 0 t := by
    rw [pieces_add, pieces_eq_iff]
    intro i hpos hlt
    exact breaksAt_append_right hfiled hclass h hpos (by omega)
  rw [words_eq_of_filed hfiled hclass, words_eq_of_filed hfiled hclass,
    words_eq_of_filed hfiled hclass, pieces_append hcut, hleft, hright, List.map_append]

theorem words_of_isLineEnd {n : List Char} (h : IsLineEnd n) :
    ruleset.words n = [String.ofList n] := by
  rw [words_eq_of_filed hfiled hclass]
  match n, h with
  | [c], _ => rfl
  | [c, d], h =>
    have hclasses : ofChar c = cr ∧ ofChar d = lf := by simpa [IsLineEnd] using h
    have hgoes : ruleset.breaksAt [c, d] 1 = false := by
      rw [breaksAt_eq_false_iff_goesOn hfiled hclass (by decide) (by simp)]
      refine ⟨cr, lf, ?_, ?_, .inl (joinsAsFiled_cr_lf _ _)⟩
      · simp [remaining, hclasses.1]
      · simp [hclasses.2]
    simp [pieces, attach, hgoes]
  | _ :: _ :: _ :: _, h => simp [IsLineEnd] at h

/-- The text so far may stand in front of the first line to come. -/
theorem words_append_lines (front text : List Char) :
    ruleset.words (front ++ text) = (attach front false (lines text)).flatMap ruleset.words := by
  induction text generalizing front with
  | nil => simp [lines, attach]
  | cons c text ih =>
    rw [lines, attach_false_attach, List.append_cons]
    cases hends : endsLine c text with
    | false => exact ih (front ++ [c])
    | true =>
      rw [words_append_of_parted hfiled hclass (parted_of_endsLine hends)]
      have hrest := ih []
      rw [List.nil_append] at hrest
      rw [hrest]
      cases lines text with
      | nil =>
        have hempty : ruleset.words [] = [] := words_eq_of_filed hfiled hclass []
        simp [attach, hempty]
      | cons line more => simp [attach]

theorem words_eq_flatMap_lines (text : List Char) :
    ruleset.words text = (lines text).flatMap ruleset.words := by
  cases text with
  | nil => exact words_eq_of_filed hfiled hclass []
  | cons c text =>
    have hne : lines (c :: text) ≠ [] := attach_ne_nil _ _ _
    have hwords := words_append_lines hfiled hclass [] (c :: text)
    rw [List.nil_append] at hwords
    rw [hwords]
    cases hlines : lines (c :: text) with
    | nil => contradiction
    | cons line more => rfl

end Filed

/-- A line end is a word of its own and parts the text before it from the text behind it, so the
words of a text are those of its lines. -/
theorem words_append_lineEnd :
    (∀ s n t : List Char, IsLineEnd n →
      ¬ (s.getLast?.map ofChar = some cr ∧ n.head?.map ofChar = some lf) →
      ¬ (n.getLast?.map ofChar = some cr ∧ t.head?.map ofChar = some lf) →
        Bundled.ruleset.words (s ++ n ++ t) =
          Bundled.ruleset.words s ++ [String.ofList n] ++ Bundled.ruleset.words t) ∧
      ∀ text, Bundled.ruleset.words text = (lines text).flatMap Bundled.ruleset.words := by
  refine ⟨?_, ?_⟩
  · intro s n t hn hbefore hafter
    rw [words_append_of_parted filed_bundled classOf_eq (hn.parted_left hafter),
      words_append_of_parted filed_bundled classOf_eq (hn.parted_right hbefore),
      words_of_isLineEnd filed_bundled classOf_eq hn]
  · intro text
    exact words_eq_flatMap_lines filed_bundled classOf_eq text

/-- A comma, CR LF, and a line that begins with an ignored character. -/
theorem words_append_lineEnd_of_crlf :
    Bundled.ruleset.words (['3', ','] ++ ['\r', '\n'] ++ ['\u0300', 'b']) =
        Bundled.ruleset.words ['3', ','] ++ ["\r\n"] ++ Bundled.ruleset.words ['\u0300', 'b'] ∧
      Bundled.ruleset.words ['a', '\r', '\n', 'b'] =
        Bundled.ruleset.words ['a', '\r', '\n'] ++ Bundled.ruleset.words ['b'] := by
  have hlines : lines ['a', '\r', '\n', 'b'] = [['a', '\r', '\n'], ['b']] := by decide +kernel
  refine ⟨words_append_lineEnd.1 _ _ _ ?_ ?_ ?_, ?_⟩
  · unfold IsLineEnd
    decide +kernel
  · decide +kernel
  · decide +kernel
  · rw [words_append_lineEnd.2, hlines]
    simp

end BoundaryRules.WordBreak
