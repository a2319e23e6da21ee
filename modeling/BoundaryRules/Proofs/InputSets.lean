import BoundaryRules.Proofs.FilePlaces
import BoundaryRules.Proofs.Frequencies
import BoundaryRules.Proofs.PathOrder
import Mathlib.Data.List.Sort

/-! The inputs of a set of patterns. In whatever order patterns are given, and however often, they
name the same inputs in the same order. Paths are compared by their components: of several spellings
of one path, the inputs have the one that was found first. -/
namespace BoundaryRules

namespace Input

variable {glob : String → Except Glob.Fault (List String)} {files : FileTree}
  {patterns others : List String} {path kept : String} {paths found : List String}
  {sources : List Input}

/-- Both inputs are standard input, or files with the same path. -/
inductive Same : Input → Input → Prop where
  | standard : Same standard standard
  | file {path other : String} (h : Path.same path other = true) : Same (file path) (file other)

/-- The path of a file that one of the patterns finds. -/
def Found (glob : String → Except Glob.Fault (List String)) (files : FileTree)
    (patterns : List String) (path : String) : Prop :=
  ∃ pattern ∈ patterns, pattern ≠ "-" ∧ ∃ paths, glob pattern = .ok paths ∧ path ∈ paths ∧
    files.isFile path = true

/-- The paths are in strictly increasing order, and they are those with `p` up to the way they are
spelled. -/
structure Enumerates (paths : List String) (p : String → Prop) : Prop where
  increasing : paths.Pairwise Path.Before
  sound : ∀ path ∈ paths, p path
  complete : ∀ path, p path → ∃ listed ∈ paths, Path.same path listed = true

/-- Standard input comes first, once, if it is named, and the files found follow. -/
def Arranged (glob : String → Except Glob.Fault (List String)) (files : FileTree)
    (patterns : List String) (sources : List Input) : Prop :=
  ∃ paths, sources = (if "-" ∈ patterns then [standard] else []) ++ paths.map file ∧
    Enumerates paths (Found glob files patterns)

section Repeats

variable {p q : String → Prop} {next : String}

/-- A path before all others is listed in front of them. -/
theorem Enumerates.cons (h : Enumerates (next :: paths) p) (hbefore : Path.Before kept next)
    (hq : ∀ path, q path ↔ path = kept ∨ p path) : Enumerates (kept :: next :: paths) q := by
  have hnext := List.pairwise_cons.mp h.increasing
  constructor
  · refine List.pairwise_cons.mpr ⟨?_, h.increasing⟩
    intro path hpath
    rcases List.mem_cons.mp hpath with rfl | hpath
    · exact hbefore
    · exact hbefore.trans_le (hnext.1 path hpath).1
  · intro path hpath
    rcases List.mem_cons.mp hpath with rfl | hpath
    · exact (hq path).mpr (.inl rfl)
    · exact (hq path).mpr (.inr (h.sound path hpath))
  · intro path hpath
    rcases (hq path).mp hpath with rfl | hpath
    · exact ⟨path, List.mem_cons_self, Path.same_iff.mpr rfl⟩
    · obtain ⟨listed, hlisted, hsame⟩ := h.complete path hpath
      exact ⟨listed, List.mem_cons_of_mem _ hlisted, hsame⟩

/-- A further spelling of a path is not listed. -/
theorem Enumerates.of_same (h : Enumerates (kept :: paths) p) (hsame : Path.same kept next = true)
    (hq : ∀ path, q path ↔ path = next ∨ p path) : Enumerates (kept :: paths) q := by
  refine ⟨h.increasing, fun path hpath => (hq path).mpr (.inr (h.sound path hpath)), ?_⟩
  intro path hpath
  rcases (hq path).mp hpath with rfl | hpath
  · rw [Path.same_iff, eq_comm] at hsame
    exact ⟨kept, List.mem_cons_self, Path.same_iff.mpr hsame⟩
  · exact h.complete path hpath

/-- An enumeration has the components of the paths with `p`. -/
theorem Enumerates.mem_map_components_iff (h : Enumerates paths p)
    (components : List Path.Component) :
    components ∈ paths.map Path.components ↔
      ∃ path, p path ∧ Path.components path = components := by
  constructor
  · intro hmem
    obtain ⟨path, hpath, rfl⟩ := List.mem_map.mp hmem
    exact ⟨path, h.sound path hpath, rfl⟩
  · rintro ⟨path, hp, rfl⟩
    obtain ⟨listed, hlisted, hsame⟩ := h.complete path hp
    rw [Path.same_iff.mp hsame]
    exact List.mem_map_of_mem hlisted

/-- Paths are enumerated in one way only. -/
theorem Enumerates.forall₂_same {listed : List String}
    (h : Enumerates paths p) (hlisted : Enumerates listed p) :
    List.Forall₂ (fun path other => Path.same path other = true) paths listed := by
  have hincreasing {l : List String} (hl : l.Pairwise Path.Before) :
      (l.map Path.components).Pairwise fun a b => Path.componentsLe a b = true ∧ a ≠ b := by
    rw [List.pairwise_map]
    refine hl.imp fun hab => ⟨hab.1, fun heq => Bool.eq_false_iff.mp hab.2 (Path.same_iff.mpr heq)⟩
  have hantisymm : Std.Antisymm fun a b : List Path.Component =>
      Path.componentsLe a b = true ∧ a ≠ b :=
    ⟨fun a b hab hba => Path.componentsLe_antisymm hab.1 hba.1⟩
  have hirrefl : Std.Irrefl fun a b : List Path.Component =>
      Path.componentsLe a b = true ∧ a ≠ b :=
    ⟨fun a haa => haa.2 rfl⟩
  have heq : paths.map Path.components = listed.map Path.components := by
    refine (hincreasing h.increasing).eq_of_mem_iff (hincreasing hlisted.increasing) fun c => ?_
    rw [h.mem_map_components_iff, hlisted.mem_map_components_iff]
  have hall : List.Forall₂ (· = ·) (paths.map Path.components) (listed.map Path.components) := by
    rw [heq]
    exact List.forall₂_same.mpr fun _ _ => rfl
  rw [List.forall₂_map_left_iff, List.forall₂_map_right_iff] at hall
  exact hall.imp fun _ _ => Path.same_iff.mpr

end Repeats

section Patterns

variable {surroundings : Surroundings} {count : CountCommand} {input other : Input}
  {listed : List Input} {counted : List (String × Nat)}

section Congr

variable (h : ∀ pattern, pattern ∈ patterns ↔ pattern ∈ others)
include h

end Congr

theorem isFile_iff :
    files.isFile path = true ↔ ∃ content, files.node path = .ok (.file content) := by
  unfold FileTree.isFile
  split <;> simp_all

/-- A file has the same text under each spelling of its path. -/
theorem Same.read_eq (h : Same input other)
    (hinput : ∀ path, input = .file path → surroundings.files.isFile path = true)
    (hother : ∀ path, other = .file path → surroundings.files.isFile path = true)
    (text : List Char) :
    surroundings.read surroundings.files input = .ok text ↔
      surroundings.read surroundings.files other = .ok text := by
  cases h with
  | standard => rfl
  | @file path other hsame =>
    obtain ⟨content, hnode⟩ := isFile_iff.mp (hinput path rfl)
    obtain ⟨otherContent, hotherNode⟩ := isFile_iff.mp (hother other rfl)
    have hcontent := FileTree.node_eq_of_same hsame hnode hotherNode
    have hread : ∀ bytes, surroundings.files.read path = .ok bytes ↔
        surroundings.files.read other = .ok bytes := by
      intro bytes
      rw [FileTree.read_eq_ok_iff, FileTree.read_eq_ok_iff, FileTree.placeOf_eq_of_same hsame,
        hnode, hotherNode, hcontent]
    simp only [Surroundings.read, mapError_eq_ok_iff, FileTree.readText, bind_eq_ok_iff, hread]

theorem Arranged.isFile (h : Arranged glob files patterns sources) :
    ∀ source ∈ sources, ∀ path, source = .file path → files.isFile path = true := by
  obtain ⟨paths, rfl, henumerates⟩ := h
  rintro source hsource path rfl
  have hpath : path ∈ paths := by
    rw [List.mem_append] at hsource
    rcases hsource with hsource | hsource
    · split at hsource <;> simp at hsource
    · simpa using hsource
  obtain ⟨-, -, -, -, -, -, hfile⟩ := henumerates.sound path hpath
  exact hfile

/-- Arranged inputs are the same. -/
theorem Arranged.forall₂_same (h : Arranged glob files patterns sources)
    (hlisted : Arranged glob files patterns listed) : List.Forall₂ Same sources listed := by
  obtain ⟨paths, rfl, hpaths⟩ := h
  obtain ⟨others, rfl, hothers⟩ := hlisted
  refine List.rel_append ?_ ?_
  · split
    · exact .cons .standard .nil
    · exact .nil
  · rw [List.forall₂_map_left_iff, List.forall₂_map_right_iff]
    exact (hpaths.forall₂_same hothers).imp fun _ _ => .file

end Patterns

end Input

section Count

variable {count : CountCommand} {reader : Description.Reader} {surroundings : Surroundings}
  {counted : List (String × Nat)}

end Count

/-! Patterns that find a file twice, in two orders. -/
namespace Question

def plain : List String := ["-", "*.txt", "second.*"]

end Question
end BoundaryRules
