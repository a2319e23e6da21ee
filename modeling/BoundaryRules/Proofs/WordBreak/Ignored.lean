import BoundaryRules.Proofs.WordBreak.Sides

/-! Ignored characters under the bundled grammar. One that is put behind a character goes into the
word of that character. It moves no other boundary unless it stands inside the contexts by which a
word goes on: the rules do not look past it. -/
namespace BoundaryRules

section Pieces

variable {α : Type} {front : List α} {ps : List (List α)} {cut : Bool} {breaks : Nat → Bool}
  {i j k : Nat} {c x : α}

/-- Puts `x` behind the first `k` characters, into the piece that has the last of them. -/
def insertInto (x : α) : Nat → List (List α) → List (List α)
  | _, [] => []
  | k, piece :: more =>
    if k ≤ piece.length then piece.insertIdx k x :: more
    else piece :: insertInto x (k - piece.length) more

/-- The boundaries once one character is put in behind position `k`, and none of them before it. -/
def skip (breaks : Nat → Bool) (k i : Nat) : Bool :=
  if i < k then breaks i else if i = k then false else breaks (i - 1)

theorem skip_of_lt (h : i < k) : skip breaks k i = breaks i := if_pos h

theorem skip_self (breaks : Nat → Bool) (k : Nat) : skip breaks k k = false := by simp [skip]

theorem skip_succ (h : k ≤ i) : skip breaks k (i + 1) = breaks i := by
  rw [skip, if_neg (by omega), if_neg (by omega), Nat.add_sub_cancel]

theorem insertInto_attach_one (c x : α) (cut : Bool) (ps : List (List α)) :
    insertInto x 1 (attach [c] cut ps) = attach [c, x] cut ps := by
  cases ps with
  | nil => rfl
  | cons piece more => cases cut <;> simp [attach, insertInto, List.insertIdx]

theorem insertInto_ne_nil (h : ps ≠ []) : insertInto x k ps ≠ [] := by
  cases ps with
  | nil => contradiction
  | cons piece more =>
    rw [insertInto]
    split <;> exact List.cons_ne_nil _ _

theorem insertInto_attach_succ (hk : 0 < k) (hps : ps ≠ []) :
    insertInto x (k + 1) (attach [c] cut ps) = attach [c] cut (insertInto x k ps) := by
  cases cut with
  | true =>
    have hlong : ¬ k + 1 ≤ [c].length := by
      rw [List.length_singleton]
      omega
    rw [attach_true_of_ne_nil hps, attach_true_of_ne_nil (insertInto_ne_nil hps), insertInto,
      if_neg hlong]
    rfl
  | false =>
    cases ps with
    | nil => contradiction
    | cons piece more =>
      change insertInto x (k + 1) ((c :: piece) :: more) = _
      rw [insertInto, insertInto, List.length_cons, List.insertIdx_succ_cons,
        Nat.add_sub_add_right]
      by_cases hle : k ≤ piece.length
      · rw [if_pos hle, if_pos (Nat.succ_le_succ hle)]
        rfl
      · rw [if_neg hle, if_neg (by omega)]
        rfl

/-- What is put in adds a boundary to the pieces, and that one is not cut. -/
theorem insertInto_pieces {u : List α} (hu : u ≠ []) (x : α) (v : List α) :
    insertInto x u.length (pieces breaks i (u ++ v)) =
      pieces (skip breaks (i + u.length)) i (u ++ x :: v) := by
  induction u generalizing i with
  | nil => contradiction
  | cons c u ih =>
    rw [List.cons_append, List.cons_append, pieces, pieces, List.length_cons]
    by_cases hmore : u = []
    · -- `x` stands here: its own boundary is skipped, and those behind it have moved by one.
      subst hmore
      have hrest : pieces (skip breaks (i + 1)) (i + 1 + 1) v = pieces breaks (i + 1) v := by
        rw [pieces_add, pieces_eq_iff]
        intro j hj _
        exact skip_succ (Nat.le_of_lt hj)
      have hnext : skip breaks (i + 1) (i + 1 + 1) = breaks (i + 1) := skip_succ (Nat.le_refl _)
      rw [List.length_nil, Nat.zero_add, List.nil_append, List.nil_append, insertInto_attach_one,
        pieces, skip_self, hnext, hrest, attach_false_attach]
      rfl
    · have hpos := List.length_pos_iff.mpr hmore
      have hk : i + (u.length + 1) = i + 1 + u.length := by omega
      have hne : pieces breaks (i + 1) (u ++ v) ≠ [] := by
        rw [Ne, pieces_eq_nil_iff]
        simp [hmore]
      rw [insertInto_attach_succ hpos hne, ih hmore, hk, skip_of_lt (by omega)]

end Pieces

namespace WordBreak

section Classes

variable {s t front front' back back' context : List WordBreak} {u v w x : WordBreak}
  {rule : List WordBreak × List WordBreak} {k i : Nat}

/-- At boundary `i` of a text several rules have the classes next to it, the contexts of some are
found there, and all that are found reach over position `k`. -/
def Straddles (text : List WordBreak) (k i : Nat) : Prop :=
  ∃ v w, (before text i).head? = some v ∧ text[i]? = some w ∧ (rulesBetween v w).length ≠ 1 ∧
    (∃ rule ∈ rulesBetween v w, Found (text.take i) (text.drop i) rule) ∧
      ∀ rule ∈ rulesBetween v w, Found (text.take i) (text.drop i) rule →
        i < k + rule.1.length ∧ k < i + rule.2.length

/-- A context without `x` is found where `x` is put in just if it was found there before and does
not reach so far. -/
theorem prefix_insert_iff (hx : x ∉ context) :
    context <+: front ++ x :: back ↔
      context <+: front ++ back ∧ context.length ≤ front.length := by
  have hfront : context <+: front ++ x :: back ↔ context <+: front := by
    apply prefix_append_iff
    rintro w hw hover
    obtain rfl : x = w := Option.some.inj hw
    exact hx (hover.subset (by simp))
  rw [hfront]
  constructor
  · intro h
    exact ⟨h.trans (List.prefix_append _ _), h.length_le⟩
  · rintro ⟨h, hle⟩
    exact List.prefix_of_prefix_length_le h (List.prefix_append _ _) hle

theorem straddles_iff (hv : (before s i).head? = some v) (hw : s[i]? = some w) :
    Straddles s k i ↔
      (rulesBetween v w).length ≠ 1 ∧
        (∃ rule ∈ rulesBetween v w, Found (s.take i) (s.drop i) rule) ∧
          ∀ rule ∈ rulesBetween v w, Found (s.take i) (s.drop i) rule →
            i < k + rule.1.length ∧ k < i + rule.2.length := by
  constructor
  · rintro ⟨v', w', hv', hw', h⟩
    obtain rfl := Option.some.inj (hv.symm.trans hv')
    obtain rfl := Option.some.inj (hw.symm.trans hw')
    exact h
  · exact fun h => ⟨v, w, hv, hw, h⟩

/-- Where some contexts are no longer found next to a boundary between the same classes, a word goes
on as before unless all that were found are lost. -/
theorem goesOn_iff_goesOn_iff {lost : List WordBreak × List WordBreak → Prop}
    (hv : (remaining none front).getLast? = some v) (hw : back.head? = some w)
    (hv' : (remaining none front').getLast? = some v) (hw' : back'.head? = some w)
    (hfound : ∀ rule ∈ definiteRules,
      Found front' back' rule ↔ Found front back rule ∧ ¬ lost rule) :
    (GoesOn front' back' ↔ GoesOn front back) ↔
      ¬ ((rulesBetween v w).length ≠ 1 ∧ (∃ rule ∈ rulesBetween v w, Found front back rule) ∧
        ∀ rule ∈ rulesBetween v w, Found front back rule → lost rule) := by
  rw [goesOn_iff hv hw, goesOn_iff hv' hw']
  by_cases hone : (rulesBetween v w).length = 1
  · simp [JoinsAsFiled, hone]
  have hjoins (front back : List WordBreak) : JoinsAsFiled v w front.reverse back ↔
      ∃ rule ∈ rulesBetween v w, Found front back rule := or_iff_right hone
  have hkept : (∃ rule ∈ rulesBetween v w, Found front' back' rule) ↔
      ∃ rule ∈ rulesBetween v w, Found front back rule ∧ ¬ lost rule := by
    apply exists_congr
    intro rule
    apply and_congr_right
    intro hrule
    exact hfound rule (mem_rulesBetween.mp hrule).1
  cases habsorbs : w.isIgnored && !v.isLineBreak with
  | true =>
    -- No rule has an ignored class next to the boundary, so none was found.
    refine iff_of_true (by simp) ?_
    rintro ⟨-, hsome, -⟩
    have hignored := isIgnored_of_joinsAsFiled ((hjoins front back).mpr hsome)
    rw [hignored] at habsorbs
    contradiction
  | false =>
    rw [hjoins, hjoins, hkept, or_iff_left Bool.false_ne_true, or_iff_left Bool.false_ne_true]
    constructor
    · rintro hiff ⟨-, hsome, hlost⟩
      obtain ⟨rule, hrule, hfound, hkept⟩ := hiff.mpr hsome
      exact hkept (hlost rule hrule hfound)
    · intro hnot
      constructor
      · rintro ⟨rule, hrule, hfound, -⟩
        exact ⟨rule, hrule, hfound⟩
      · intro hsome
        by_contra hnone
        refine hnot ⟨hone, hsome, ?_⟩
        intro rule hrule hfound
        by_contra hkept
        exact hnone ⟨rule, hrule, hfound, hkept⟩

theorem length_pos_of_getLast? {α : Type} {p : α → Prop} {l : List α}
    (h : ∃ a ∈ l.getLast?, p a) : 0 < l.length := by
  obtain ⟨a, ha, -⟩ := h
  exact List.length_pos_of_mem (List.mem_of_getLast? ha)

theorem not_mem_of_isIgnored (hrule : rule ∈ definiteRules) (hx : x.isIgnored = true) :
    x ∉ rule.1 ∧ x ∉ rule.2 := by
  rw [← not_or, ← List.mem_append]
  intro hmem
  rw [isIgnored_of_mem_definiteRules rule hrule x hmem] at hx
  contradiction

/-- Before an ignored character a word goes on. -/
theorem goesOn_of_isIgnored (hlast : ∃ u ∈ s.getLast?, u.isLineBreak = false)
    (hx : x.isIgnored = true) : GoesOn s (x :: t) := by
  have hs : s ≠ [] := List.length_pos_iff.mp (length_pos_of_getLast? hlast)
  obtain ⟨u, v, hu, hv, -, hv'⟩ := exists_nearest hs
  obtain ⟨u', hu', hline⟩ := hlast
  obtain rfl := Option.some.inj (hu'.symm.trans hu)
  rw [goesOn_iff hv rfl, hx, hv', hline]
  exact .inr rfl

/-- An ignored character put in behind a boundary hides the contexts that reach over its place. -/
theorem goesOn_insert_right (hx : x.isIgnored = true) (hpos : 0 < i) (hlt : i < s.length) :
    (GoesOn (s.take i) (s.drop i ++ x :: t) ↔ GoesOn (s.take i) (s.drop i ++ t)) ↔
      ¬ Straddles (s ++ t) s.length i := by
  have htake : (s ++ t).take i = s.take i := List.take_append_of_le_length (Nat.le_of_lt hlt)
  have hdrop : (s ++ t).drop i = s.drop i ++ t := List.drop_append_of_le_length (Nat.le_of_lt hlt)
  have hlength : i < (s ++ t).length := by
    rw [List.length_append]
    omega
  obtain ⟨u, v, w, h⟩ := exists_interior hpos hlength
  have hv : (remaining none (s.take i)).getLast? = some v := by
    rw [← List.head?_reverse, ← htake]
    exact h.nearest
  have hw : (s.drop i ++ t).head? = some w := by
    rw [← hdrop]
    exact h.head?_drop
  have hw' : (s.drop i ++ x :: t).head? = some w := by
    rw [← hw, List.head?_append_of_ne_nil, List.head?_append_of_ne_nil] <;> simpa using hlt
  rw [straddles_iff h.nearest h.next, htake, hdrop]
  apply goesOn_iff_goesOn_iff hv hw hv hw'
  intro rule hrule
  have hleft := List.length_pos_iff.mpr (ne_nil_of_mem_definiteRules rule hrule).1
  rw [Found, Found, prefix_insert_iff (not_mem_of_isIgnored hrule hx).2, and_assoc,
    List.length_drop]
  refine and_congr_right fun _ => and_congr_right fun _ => ?_
  omega

/-- The nearest class that is left is the same with an ignored character. -/
theorem remaining_insert (hlast : ∃ u ∈ s.getLast?, u.isLineBreak = false)
    (hx : x.isIgnored = true) (t : List WordBreak) :
    remaining none (s ++ x :: t) = remaining none (s ++ t) := by
  obtain ⟨u, hu, hline⟩ := hlast
  have hany : (some x).any (!·.isLineBreak) = s.getLast?.any (!·.isLineBreak) := by
    rw [hu, Option.any_some, Option.any_some, hline, isLineBreak_of_isIgnored hx]
  have hdeleted : (x.isIgnored && s.getLast?.any (!·.isLineBreak)) = true := by
    rw [hx, hu, Option.any_some, hline]
    rfl
  rw [remaining_append, remaining_append, Option.or_none, remaining, if_pos hdeleted,
    remaining_congr hany]

/-- An ignored character put in in front of a boundary hides the contexts that reach over its
place. -/
theorem goesOn_insert_left (hlast : ∃ u ∈ s.getLast?, u.isLineBreak = false)
    (hx : x.isIgnored = true) (hlt : i < t.length) :
    (GoesOn (s ++ x :: t.take i) (t.drop i) ↔ GoesOn (s ++ t.take i) (t.drop i)) ↔
      ¬ Straddles (s ++ t) s.length (s.length + i) := by
  have htake : (s ++ t).take (s.length + i) = s ++ t.take i := List.take_length_add_append _
  have hdrop : (s ++ t).drop (s.length + i) = t.drop i := List.drop_length_add_append _
  have hpos := length_pos_of_getLast? hlast
  have hlength : s.length + i < (s ++ t).length := by
    rw [List.length_append]
    omega
  obtain ⟨u, v, w, h⟩ := exists_interior (Nat.add_pos_left hpos i) hlength
  have hv : (remaining none (s ++ t.take i)).getLast? = some v := by
    rw [← List.head?_reverse, ← htake]
    exact h.nearest
  have hw : (t.drop i).head? = some w := by
    rw [← hdrop]
    exact h.head?_drop
  rw [straddles_iff h.nearest h.next, htake, hdrop]
  apply goesOn_iff_goesOn_iff hv hw (by rw [remaining_insert hlast hx, hv]) hw
  intro rule hrule
  have hright := List.length_pos_iff.mpr (ne_nil_of_mem_definiteRules rule hrule).2
  have hmem : x ∉ rule.1.reverse := by
    rw [List.mem_reverse]
    exact (not_mem_of_isIgnored hrule hx).1
  rw [Found, Found, List.reverse_append, List.reverse_append, List.reverse_cons, List.append_assoc,
    List.singleton_append, prefix_insert_iff hmem, and_right_comm, List.length_reverse,
    List.length_reverse, List.length_take]
  refine and_congr_right fun _ => ?_
  omega

end Classes

/-- Puts `x` behind the first `k` characters of a text, into the word that has the last of them. -/
def insertAfter (x : Char) (k : Nat) (words : List String) : List String :=
  (insertInto x k (words.map String.toList)).map String.ofList

section Filed

variable {ruleset : Ruleset} {u v : List Char} {x : Char} {i : Nat} (hfiled : Filed ruleset)
  (hclass : ∀ c, ruleset.classes.classOf c = (ofChar c).classId)
  (hlast : ∃ c ∈ u.getLast?, (ofChar c).isLineBreak = false)
  (hx : (ofChar x).isIgnored = true)

include hlast in
theorem exists_getLast?_map : ∃ w ∈ (u.map ofChar).getLast?, w.isLineBreak = false := by
  obtain ⟨c, hc, hline⟩ := hlast
  refine ⟨ofChar c, ?_, hline⟩
  rw [List.getLast?_map]
  exact Option.mem_map_of_mem ofChar hc

include hfiled hclass hx

theorem breaksAt_insert_of_lt (hpos : 0 < i) (hlt : i < u.length) :
    ruleset.breaksAt (u ++ x :: v) i = ruleset.breaksAt (u ++ v) i ↔
      ¬ Straddles ((u ++ v).map ofChar) u.length i := by
  have hle := Nat.le_of_lt hlt
  have hlt' : i < (u ++ v).length := by
    rw [List.length_append]
    omega
  have hlt'' : i < (u ++ x :: v).length := by
    rw [List.length_append]
    omega
  rw [breaksAt_eq_iff_goesOn hfiled hclass hpos hlt'' hpos hlt',
    List.take_append_of_le_length hle, List.drop_append_of_le_length hle,
    List.take_append_of_le_length hle, List.drop_append_of_le_length hle, List.map_append,
    List.map_append, List.map_append, List.map_cons, List.map_take, List.map_drop,
    goesOn_insert_right hx hpos (by simpa using hlt), List.length_map]

include hlast

theorem breaksAt_insert_self : ruleset.breaksAt (u ++ x :: v) u.length = false := by
  rw [breaksAt_eq_false_iff_goesOn hfiled hclass (length_pos_of_getLast? hlast) (by simp),
    List.take_left, List.drop_left]
  exact goesOn_of_isIgnored (exists_getLast?_map hlast) hx

theorem breaksAt_insert_add (hlt : i < v.length) :
    ruleset.breaksAt (u ++ x :: v) (u.length + (i + 1)) = ruleset.breaksAt (u ++ v) (u.length + i) ↔
      ¬ Straddles ((u ++ v).map ofChar) u.length (u.length + i) := by
  have hpos : 0 < u.length + i := Nat.add_pos_left (length_pos_of_getLast? hlast) i
  have hlt' : u.length + i < (u ++ v).length := by simpa using hlt
  have hlt'' : u.length + (i + 1) < (u ++ x :: v).length := by simpa using hlt
  have hmoved := goesOn_insert_left (i := i) (t := v.map ofChar) (exists_getLast?_map hlast) hx
    (by rwa [List.length_map])
  rw [List.length_map] at hmoved
  rw [breaksAt_eq_iff_goesOn hfiled hclass (by omega) hlt'' hpos hlt',
    List.take_length_add_append, List.drop_length_add_append, List.take_length_add_append,
    List.drop_length_add_append, List.take_succ_cons, List.drop_succ_cons, List.map_append,
    List.map_append, List.map_append, List.map_cons, List.map_take, List.map_drop]
  exact hmoved

/-- The boundaries are those of the text without `x`, and none before it, just if no contexts
straddle its place. -/
theorem breaksAt_insert_eq_skip_iff :
    (∀ i, 0 < i → i < (u ++ x :: v).length →
      skip (ruleset.breaksAt (u ++ v)) u.length i = ruleset.breaksAt (u ++ x :: v) i) ↔
        ∀ i, 0 < i → i < (u ++ v).length → ¬ Straddles ((u ++ v).map ofChar) u.length i := by
  have hpos := length_pos_of_getLast? hlast
  constructor
  · intro h i hi hlt
    rcases Nat.lt_or_ge i u.length with hin | hout
    · have hlt' : i < (u ++ x :: v).length := by
        rw [List.length_append]
        omega
      rw [← breaksAt_insert_of_lt hfiled hclass hx hi hin, ← h i hi hlt', skip_of_lt hin]
    · obtain ⟨j, rfl⟩ := Nat.exists_eq_add_of_le hout
      have hj : j < v.length := by simpa using hlt
      rw [← breaksAt_insert_add hfiled hclass hlast hx hj, ← h _ (by omega) (by simpa using hj),
        ← Nat.add_assoc, skip_succ hout]
  · intro h i hi hlt
    rcases Nat.lt_trichotomy i u.length with hin | rfl | hout
    · have hlt' : i < (u ++ v).length := by
        rw [List.length_append]
        omega
      rw [skip_of_lt hin, (breaksAt_insert_of_lt hfiled hclass hx hi hin).mpr (h i hi hlt')]
    · rw [skip_self, breaksAt_insert_self hfiled hclass hlast hx]
    · obtain ⟨j, rfl⟩ := Nat.exists_eq_add_of_lt hout
      have hj : j < v.length := by
        rw [List.length_append, List.length_cons] at hlt
        omega
      have hkept := h (u.length + j) (by omega) (by simpa using hj)
      rw [skip_succ (Nat.le_add_right _ _)]
      exact ((breaksAt_insert_add hfiled hclass hlast hx hj).mpr hkept).symm

theorem words_insert_iff_of_filed :
    ruleset.words (u ++ x :: v) = insertAfter x u.length (ruleset.words (u ++ v)) ↔
      ∀ i, 0 < i → i < (u ++ v).length → ¬ Straddles ((u ++ v).map ofChar) u.length i := by
  have hu := List.length_pos_iff.mp (length_pos_of_getLast? hlast)
  have hid : String.toList ∘ String.ofList = id := funext fun _ => String.toList_ofList
  rw [words_eq_of_filed hfiled hclass, words_eq_of_filed hfiled hclass, insertAfter, List.map_map,
    hid, List.map_id, List.map_inj_right fun _ _ => String.ofList_inj.mp, insertInto_pieces hu,
    eq_comm, pieces_eq_iff, ← breaksAt_insert_eq_skip_iff hfiled hclass hlast hx]
  simp only [Nat.zero_add]

end Filed

/-- An ignored character goes into the word before it and leaves all other boundaries as they are
just if no contexts straddle its place. -/
theorem words_insert_iff {u v : List Char} {x : Char}
    (hlast : ∃ c ∈ u.getLast?, (ofChar c).isLineBreak = false)
    (hx : (ofChar x).isIgnored = true) :
    Bundled.ruleset.words (u ++ x :: v) =
        insertAfter x u.length (Bundled.ruleset.words (u ++ v)) ↔
      ∀ i, 0 < i → i < (u ++ v).length → ¬ Straddles ((u ++ v).map ofChar) u.length i :=
  words_insert_iff_of_filed filed_bundled classOf_eq hlast hx

/-- The letters on both sides of a colon, with a mark on the second of them. -/
theorem words_insert_iff_of_mark :
    Bundled.ruleset.words (['a', ':', 'b'] ++ '\u0300' :: []) =
      insertAfter '\u0300' 3 (Bundled.ruleset.words (['a', ':', 'b'] ++ [])) := by
  have hclasses : (['a', ':', 'b'] ++ []).map ofChar = [aLetter, midLetter, aLetter] := by
    decide +kernel
  have hlast : ∃ c ∈ ['a', ':', 'b'].getLast?, (ofChar c).isLineBreak = false :=
    ⟨'b', rfl, by decide +kernel⟩
  have hmark : (ofChar '\u0300').isIgnored = true := by decide +kernel
  refine (words_insert_iff hlast hmark).mpr ?_
  rw [hclasses]
  rintro i hpos hlt ⟨v, w, hv, hw, -, -, hover⟩
  have hi : i = 1 ∨ i = 2 := by
    rw [List.append_nil] at hlt
    change i < 3 at hlt
    omega
  rcases hi with rfl | rfl
  · obtain rfl : aLetter = v := Option.some.inj hv
    obtain rfl : midLetter = w := Option.some.inj hw
    have hshort := hover ([aLetter], [midLetter, aLetter]) (by decide +kernel) (by decide)
    simp at hshort
  · obtain rfl : midLetter = v := Option.some.inj hv
    obtain rfl : aLetter = w := Option.some.inj hw
    have hshort := hover ([aLetter, midLetter], [aLetter]) (by decide +kernel) (by decide)
    simp at hshort

/-- A mark on the colon parts the letters, which the rules join when they look past it. -/
theorem words_ne_of_inserted_mark :
    Bundled.ruleset.words (['a', ':'] ++ '\u0300' :: ['b']) ≠
      insertAfter '\u0300' 2 (Bundled.ruleset.words (['a', ':'] ++ ['b'])) := by
  have hclasses : (['a', ':'] ++ ['b']).map ofChar = [aLetter, midLetter, aLetter] := by
    decide +kernel
  have hlast : ∃ c ∈ ['a', ':'].getLast?, (ofChar c).isLineBreak = false :=
    ⟨':', rfl, by decide +kernel⟩
  have hmark : (ofChar '\u0300').isIgnored = true := by decide +kernel
  have hstraddles : Straddles ((['a', ':'] ++ ['b']).map ofChar) 2 1 := by
    rw [hclasses]
    refine ⟨aLetter, midLetter, rfl, rfl, by decide +kernel, ?_, ?_⟩
    · exact ⟨([aLetter], [midLetter, aLetter]), by decide +kernel, by decide⟩
    · decide +kernel
  intro heq
  exact (words_insert_iff_of_filed filed_bundled classOf_eq hlast hmark).mp heq 1 (by decide)
    (by decide) hstraddles

end WordBreak
end BoundaryRules
