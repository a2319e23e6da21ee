import BoundaryRules.Proofs.Reading
import BoundaryRules.Proofs.Windows

/-! Grammars that take no character for one of another class. Whether a text is divided at a place
depends only on the classes next to it, as far as the contexts of the rules reach. -/
namespace BoundaryRules

section Offsets

variable {segment : Segment} {offset m n : Nat} {piece : List Char} {ps : List (List Char)}
  {text : List Char} {c : Char} {cut : Bool}

theorem le_offset_of_mem_locate (h : segment ∈ locate offset ps) : offset ≤ segment.offset := by
  induction ps generalizing offset with
  | nil => contradiction
  | cons piece more ih =>
    rcases List.mem_cons.mp h with rfl | hmem
    · exact Nat.le_refl _
    · exact Nat.le_trans (Nat.le_add_right _ _) (ih hmem)

theorem exists_offset_cons_iff :
    (∃ segment ∈ locate offset (piece :: ps), segment.offset = n) ↔
      n = offset ∨ ∃ segment ∈ locate (offset + Utf8.length piece) ps, segment.offset = n := by
  rw [locate, List.exists_mem_cons_iff, eq_comm]

/-- Behind the start of the text, what stands in front of a piece is parted from it by a cut. -/
theorem exists_offset_attach_iff (hn : offset < n) :
    (∃ segment ∈ locate offset (attach [c] cut (piece :: ps)), segment.offset = n) ↔
      cut = true ∧ n = offset + c.utf8Size ∨
        ∃ segment ∈ locate (offset + c.utf8Size + Utf8.length piece) ps, segment.offset = n := by
  have hne : n ≠ offset := Nat.ne_of_gt hn
  cases cut with
  | true =>
    rw [attach, if_pos rfl, exists_offset_cons_iff, exists_offset_cons_iff]
    simp [hne]
  | false =>
    rw [attach, if_neg Bool.false_ne_true, exists_offset_cons_iff]
    simp [hne, Nat.add_assoc]

/-- Pieces start where a text starts and where it is cut. -/
theorem exists_offset_eq_iff (breaks : Nat → Bool) (offset i : Nat) (hlt : m < text.length) :
    (∃ segment ∈ locate offset (pieces breaks i text),
        segment.offset = offset + Utf8.length (text.take m)) ↔
      m = 0 ∨ breaks (i + m) = true := by
  induction text generalizing offset i m with
  | nil => exact absurd hlt (Nat.not_lt_zero m)
  | cons c text ih =>
    cases m with
    | zero =>
      have hne : pieces breaks i (c :: text) ≠ [] :=
        mt pieces_eq_nil_iff.mp (List.cons_ne_nil c text)
      obtain ⟨piece, more, hps⟩ := List.exists_cons_of_ne_nil hne
      rw [hps, exists_offset_cons_iff]
      simp
    | succ m =>
      have hlt : m < text.length := Nat.lt_of_succ_lt_succ hlt
      have hne : pieces breaks (i + 1) text ≠ [] :=
        mt pieces_eq_nil_iff.mp (List.length_pos_iff.mp (Nat.zero_lt_of_lt hlt))
      obtain ⟨piece, more, hps⟩ := List.exists_cons_of_ne_nil hne
      have hrest := ih (offset + c.utf8Size) (i + 1) hlt
      have hindex : i + (m + 1) = i + 1 + m := by omega
      have hwidth := c.utf8Size_pos
      rw [pieces, hps, List.take_succ_cons, Utf8.length_cons, ← Nat.add_assoc,
        exists_offset_attach_iff (by omega), hindex]
      rw [hps, exists_offset_cons_iff] at hrest
      cases m with
      | zero =>
        -- The second character starts a piece only if the first one is a piece of its own.
        have hpiece : 0 < Utf8.length piece :=
          Utf8.length_pos_iff.mpr (ne_nil_of_mem_pieces (hps ▸ List.mem_cons_self))
        have hlater : ¬ ∃ segment ∈ locate (offset + c.utf8Size + Utf8.length piece) more,
            segment.offset = offset + c.utf8Size + Utf8.length (text.take 0) := by
          rintro ⟨segment, hmem, heq⟩
          have hle := le_offset_of_mem_locate hmem
          rw [heq, List.take_zero, Utf8.length_nil] at hle
          omega
        rw [or_iff_left hlater]
        simp
      | succ m =>
        have hpos : 0 < Utf8.length (text.take (m + 1)) := by
          rw [Utf8.length_pos_iff, Ne, List.take_eq_nil_iff]
          simp [List.length_pos_iff.mp (Nat.zero_lt_of_lt hlt)]
        rw [or_iff_right (by omega), or_iff_right (by omega)] at hrest
        rw [or_iff_right (by omega), or_iff_right (by omega), hrest]

end Offsets

namespace Ruleset

/-- A segment of the text starts at position `i`. -/
def DividesAt (ruleset : Ruleset) (text : List Char) (i : Nat) : Prop :=
  ∃ segment ∈ ruleset.segments text, segment.offset = Utf8.length (text.take i)

instance (ruleset : Ruleset) (text : List Char) (i : Nat) : Decidable (ruleset.DividesAt text i) :=
  inferInstanceAs (Decidable (∃ segment ∈ ruleset.segments text, _))

variable {classes : List CharClass} {index : ClassIndex} {rules : List Rule} {ruleset : Ruleset}
  {text s t : List Char} {i j k : Nat}

/-- Without a rule that absorbs, a boundary is reached in the state of the character before it. -/
theorem stateAt_succ_of_ne_absorb (hruleset : compile index rules = .ok ruleset)
    (hrules : ∀ rule ∈ rules, rule.action ≠ .absorb) (text : List Char) (i : Nat) :
    ruleset.stateAt text (i + 1) = ruleset.nextClass (text.drop i) := by
  rw [stateAt_succ]
  cases hrule : ruleset.ruleAt text i with
  | none => rfl
  | some rule =>
    have haction : rule.action ≠ .absorb := hrules _ (exists_rule_of_select hruleset hrule).1
    rw [stateAfter, if_neg haction]

/-- So the state can be read off the window behind the boundary. -/
theorem head?_window_behind (hruleset : compile index rules = .ok ruleset)
    (hrules : ∀ rule ∈ rules, rule.action ≠ .absorb) (hk : 0 < k) (hi : i ≤ text.length) :
    (ruleset.classes.window .start k (text.take i).reverse).head? =
      some (ruleset.stateAt text i) := by
  obtain ⟨k, rfl⟩ := Nat.exists_eq_add_of_lt hk
  cases i with
  | zero => rw [List.take_zero, List.reverse_nil, ClassIndex.window_nil]; rfl
  | succ i =>
    have hlt : i < text.length := hi
    rw [List.take_succ_eq_append_getElem hlt, List.reverse_concat, ClassIndex.window_cons,
      stateAt_succ_of_ne_absorb hruleset hrules, List.drop_eq_getElem_cons hlt]
    rfl

theorem breaksAt_eq_of_window (hindex : ClassIndex.build classes = .ok index)
    (hruleset : compile index rules = .ok ruleset) (hne : rules ≠ [])
    (hrules : ∀ rule ∈ rules, rule.action ≠ .absorb) (hi : i ≤ s.length) (hj : j ≤ t.length)
    (hbehind : ruleset.classes.window .start (Rule.longest Rule.left rules) (s.take i).reverse =
      ruleset.classes.window .start (Rule.longest Rule.left rules) (t.take j).reverse)
    (hahead : ruleset.classes.window .stop (Rule.longest Rule.right rules) (s.drop i) =
      ruleset.classes.window .stop (Rule.longest Rule.right rules) (t.drop j)) :
    ruleset.breaksAt s i = ruleset.breaksAt t j := by
  have hpos := Rule.longest_pos hne fun rule _ => rule.left_ne_nil
  have hstate := head?_window_behind hruleset hrules hpos hi
  rw [hbehind, head?_window_behind hruleset hrules hpos hj] at hstate
  rw [breaksAt, breaksAt, ruleAt, ruleAt, Option.some.inj hstate,
    select_eq_of_window hindex hruleset hne hbehind hahead]

theorem dividesAt_iff_breaksAt (hindex : ClassIndex.build classes = .ok index)
    (hruleset : compile index rules = .ok ruleset)
    (hrules : ∀ rule ∈ rules, rule.action ≠ .absorb) (hpos : 0 < i) (hlt : i < text.length) :
    ruleset.DividesAt text i ↔ ruleset.breaksAt text i = true := by
  have hgoes : ∀ j < text.length, ruleset.haltsAt text j = false := fun j _ =>
    haltsAt_eq_false hruleset (fun rule hmem haction => absurd haction (hrules rule hmem)) text j
  rw [DividesAt, segments_eq_locate (classOf_ne_of_compile hindex hruleset) hgoes]
  have hoffset := exists_offset_eq_iff (ruleset.breaksAt text) 0 0 hlt
  rwa [Nat.zero_add, Nat.zero_add, or_iff_right (Nat.ne_of_gt hpos)] at hoffset

/-- Texts are divided alike at places inside them that look alike: in front of the one and of the
other stand the same classes, as many as the longest left context has, and behind them the same
classes, as many as the longest right context has. -/
theorem dividesAt_iff_of_window (hindex : ClassIndex.build classes = .ok index)
    (hruleset : compile index rules = .ok ruleset) (hne : rules ≠ [])
    (hrules : ∀ rule ∈ rules, rule.action ≠ .absorb)
    (hi : 0 < i) (his : i < s.length) (hj : 0 < j) (hjt : j < t.length)
    (hbehind : index.window .start (Rule.longest Rule.left rules) (s.take i).reverse =
      index.window .start (Rule.longest Rule.left rules) (t.take j).reverse)
    (hahead : index.window .stop (Rule.longest Rule.right rules) (s.drop i) =
      index.window .stop (Rule.longest Rule.right rules) (t.drop j)) :
    ruleset.DividesAt s i ↔ ruleset.DividesAt t j := by
  rw [dividesAt_iff_breaksAt hindex hruleset hrules hi his,
    dividesAt_iff_breaksAt hindex hruleset hrules hj hjt]
  rw [← classes_of_compile hruleset] at hbehind hahead
  rw [breaksAt_eq_of_window hindex hruleset hne hrules (Nat.le_of_lt his) (Nat.le_of_lt hjt)
    hbehind hahead]

end Ruleset

/-! A grammar of a few letters in which a quote goes with the letter before it if a letter or
another quote follows. -/
namespace Quotes

def classes : List CharClass :=
  [⟨"SMALL", [⟨97, 102, by decide⟩]⟩, ⟨"QUOTE", [.single 39]⟩]

def rules : List Rule :=
  [⟨"R1", ["SMALL"], ["SMALL"], "SMALL", .join, by decide, by decide, by decide, by decide⟩,
    ⟨"R2", ["SMALL"], ["QUOTE", "SMALL"], "QUOTE", .join, by decide, by decide, by decide,
      by decide⟩,
    ⟨"R3", ["SMALL", "SMALL"], ["QUOTE", "QUOTE"], "QUOTE", .join, by decide, by decide,
      by decide, by decide⟩]

/-- A quote at the end of a text is parted from two letters, whatever stands before them. -/
theorem dividesAt_of_quoted :
    ∃ index ruleset, ClassIndex.build classes = .ok index ∧
      Ruleset.compile index rules = .ok ruleset ∧
      Rule.longest Rule.left rules = 2 ∧ Rule.longest Rule.right rules = 2 ∧
      index.window .start 2 (['a', 'b', '\''].take 2).reverse =
        index.window .start 2 (['1', 'c', 'd', '\''].take 3).reverse ∧
      index.window .stop 2 (['a', 'b', '\''].drop 2) =
        index.window .stop 2 (['1', 'c', 'd', '\''].drop 3) ∧
      ruleset.DividesAt ['a', 'b', '\''] 2 ∧ ruleset.DividesAt ['1', 'c', 'd', '\''] 3 := by
  have hindex : ClassIndex.build classes = .ok (.ofCollected (ClassIndex.builtIns ++ classes)) := by
    decide +kernel
  have hdivides : (Ruleset.compile (.ofCollected (ClassIndex.builtIns ++ classes)) rules).map
      (fun ruleset => decide (ruleset.DividesAt ['a', 'b', '\''] 2)) = .ok true := by
    decide +kernel
  have hbehind : (ClassIndex.ofCollected (ClassIndex.builtIns ++ classes)).window .start
        (Rule.longest Rule.left rules) (['a', 'b', '\''].take 2).reverse =
      (ClassIndex.ofCollected (ClassIndex.builtIns ++ classes)).window .start
        (Rule.longest Rule.left rules) (['1', 'c', 'd', '\''].take 3).reverse := by
    decide +kernel
  have hahead : (ClassIndex.ofCollected (ClassIndex.builtIns ++ classes)).window .stop
        (Rule.longest Rule.right rules) (['a', 'b', '\''].drop 2) =
      (ClassIndex.ofCollected (ClassIndex.builtIns ++ classes)).window .stop
        (Rule.longest Rule.right rules) (['1', 'c', 'd', '\''].drop 3) := by
    decide +kernel
  obtain ⟨ruleset, hruleset, hdecide⟩ := map_eq_ok_iff.mp hdivides
  have hfirst : ruleset.DividesAt ['a', 'b', '\''] 2 := of_decide_eq_true hdecide
  refine ⟨_, ruleset, hindex, hruleset, rfl, rfl, hbehind, hahead, hfirst, ?_⟩
  exact (Ruleset.dividesAt_iff_of_window hindex hruleset (List.cons_ne_nil _ _) (by decide)
    (by decide) (by decide) (by decide) (by decide) hbehind hahead).mp hfirst

end Quotes
end BoundaryRules
