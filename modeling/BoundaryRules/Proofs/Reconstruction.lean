import BoundaryRules.Bundled
import BoundaryRules.Proofs.Reading

/-! Whether the segments of a text give it back. They do unless a scan meets a rule that takes a
character for the end of the text. -/
namespace BoundaryRules

/-- The segments stand end to end, the first at `offset`, and the last ends at `stop`. -/
def Tiles (stop : Nat) : Nat → List Segment → Prop
  | offset, [] => offset = stop
  | offset, segment :: more =>
    segment.offset = offset ∧ Tiles stop (offset + segment.text.utf8ByteSize) more

/-- The segments are the whole text and nothing else, in order and without empty ones. -/
structure Reconstructs (text : List Char) (segments : List Segment) : Prop where
  join_eq : String.join (segments.map (·.text)) = String.ofList text
  ne_empty : ∀ segment ∈ segments, segment.text ≠ ""
  tiles : Tiles (String.ofList text).utf8ByteSize 0 segments

theorem utf8ByteSize_ofList (text : List Char) :
    (String.ofList text).utf8ByteSize = Utf8.length text := by
  induction text with
  | nil => rfl
  | cons c text ih =>
    rw [String.ofList_cons, String.utf8ByteSize_append, String.utf8ByteSize_singleton, ih,
      Utf8.length_cons]

theorem toList_join_ofList (ps : List (List Char)) :
    (String.join (ps.map String.ofList)).toList = ps.flatten := by
  rw [String.toList_join]
  induction ps with
  | nil => rfl
  | cons piece more ih =>
    rw [List.map_cons, List.flatMap_cons, ih, String.toList_ofList, List.flatten_cons]

theorem tiles_locate (offset : Nat) (ps : List (List Char)) :
    Tiles (offset + Utf8.length ps.flatten) offset (locate offset ps) := by
  induction ps generalizing offset with
  | nil => rfl
  | cons piece more ih =>
    refine ⟨rfl, ?_⟩
    rw [utf8ByteSize_ofList, List.flatten_cons, Utf8.length_append, ← Nat.add_assoc]
    exact ih _

/-- Pieces of a text, wherever it is cut, give it back. -/
theorem reconstructs_locate_pieces (breaks : Nat → Bool) (text : List Char) :
    Reconstructs text (locate 0 (pieces breaks 0 text)) where
  join_eq := by
    rw [map_text_locate, ← String.toList_inj, toList_join_ofList, flatten_pieces,
      String.toList_ofList]
  ne_empty := by
    intro segment hmem
    have htext := List.mem_map_of_mem (f := fun segment : Segment => segment.text) hmem
    rw [map_text_locate] at htext
    obtain ⟨piece, hpiece, heq⟩ := List.mem_map.mp htext
    rw [← heq, Ne, String.ofList_eq_empty_iff]
    exact ne_nil_of_mem_pieces hpiece
  tiles := by
    have htiles := tiles_locate 0 (pieces breaks 0 text)
    rwa [flatten_pieces, Nat.zero_add, ← utf8ByteSize_ofList] at htiles

/-- Without the last piece of a part of it a text is not given back. -/
theorem not_reconstructs_dropLast (breaks : Nat → Bool) {text : List Char} {k : Nat}
    (hlt : k < text.length) :
    ¬ Reconstructs text (locate 0 (pieces breaks 0 (text.take (k + 1)))).dropLast := by
  intro h
  have hne : pieces breaks 0 (text.take (k + 1)) ≠ [] := by
    rw [Ne, pieces_eq_nil_iff, ← List.length_eq_zero_iff, List.length_take]
    omega
  have hlast := List.length_pos_iff.mpr (ne_nil_of_mem_pieces (List.getLast_mem hne))
  have hsplit := congrArg List.flatten (List.dropLast_append_getLast hne)
  have hlength := congrArg List.length hsplit
  have hjoin := congrArg String.toList h.join_eq
  rw [List.map_dropLast, map_text_locate, ← List.map_dropLast, toList_join_ofList,
    String.toList_ofList] at hjoin
  rw [List.flatten_append, flatten_pieces, List.length_append, hjoin, List.flatten_singleton,
    List.length_take] at hlength
  omega

namespace Ruleset

variable {classes : List CharClass} {index : ClassIndex} {rules : List Rule} {ruleset : Ruleset}

/-- A text is given back just if no scan of it halts before its end. -/
theorem reconstructs_iff (hindex : ClassIndex.build classes = .ok index)
    (hruleset : compile index rules = .ok ruleset) (text : List Char) :
    Reconstructs text (ruleset.segments text) ↔
      ∀ i < text.length, ruleset.haltsAt text i = false := by
  have hclass := classOf_ne_of_compile hindex hruleset
  constructor
  · intro h i
    induction i using Nat.strongRecOn with
    | ind i ih =>
      intro hlt
      by_contra hhalts
      have hgoes : ∀ j < i, ruleset.haltsAt text j = false := by
        intro j hj
        exact ih j hj (Nat.lt_trans hj hlt)
      rw [segments_of_haltsAt hclass hlt (Bool.not_eq_false _ ▸ hhalts) hgoes] at h
      exact not_reconstructs_dropLast _ hlt h
  · intro hgoes
    rw [segments_eq_locate hclass hgoes]
    exact reconstructs_locate_pieces _ text

/-- No text is lost by the bundled grammar unless a scan halts. -/
theorem reconstructs_iff_of_bundled :
    ∃ index rules, ClassIndex.build Bundled.wordBreakClasses = .ok index ∧
      compile index rules = .ok Bundled.ruleset ∧
      ∀ text, Reconstructs text (Bundled.ruleset.segments text) ↔
        ∀ i < text.length, Bundled.ruleset.haltsAt text i = false := by
  obtain ⟨index, rules, hindex, -, hruleset⟩ := Bundled.exists_parts
  exact ⟨index, rules, hindex, hruleset, reconstructs_iff hindex hruleset⟩

end Ruleset

/-! A grammar whose one rule takes a letter for the end of the text. -/
namespace Truncation

def letters : CharClass := ⟨"A", [⟨97, 122, Nat.le_add_right 97 25⟩]⟩

def rule : Rule :=
  ⟨"T", ["ANY"], ["A"], "EOT", .absorb, nofun, by decide, by decide, fun _ => rfl⟩

/-- The letter is lost. -/
theorem not_reconstructs_of_edge_target :
    ∃ index ruleset, ClassIndex.build [letters] = .ok index ∧
      Rule.make "T" ["ANY"] ["A"] "EOT" .absorb = .ok rule ∧
      Ruleset.compile index [rule] = .ok ruleset ∧
      ¬ Reconstructs ['a'] (ruleset.segments ['a']) := by
  have hindex : ClassIndex.build [letters] =
      .ok (.ofCollected (ClassIndex.builtIns ++ [letters])) := by
    decide +kernel
  have hrule : Rule.make "T" ["ANY"] ["A"] "EOT" .absorb = .ok rule := by decide +kernel
  have hsegments : (Ruleset.compile (.ofCollected (ClassIndex.builtIns ++ [letters])) [rule]).map
      (·.segments ['a']) = .ok [] := by
    decide +kernel
  cases hruleset : Ruleset.compile (.ofCollected (ClassIndex.builtIns ++ [letters])) [rule] with
  | error unknown => rw [hruleset] at hsegments; contradiction
  | ok ruleset =>
    rw [hruleset] at hsegments
    refine ⟨_, ruleset, hindex, hrule, hruleset, ?_⟩
    intro h
    have hjoin := h.join_eq
    rw [show ruleset.segments ['a'] = [] from Except.ok.inj hsegments] at hjoin
    exact absurd hjoin (by decide)

end Truncation
end BoundaryRules
