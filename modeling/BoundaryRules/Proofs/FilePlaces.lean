import BoundaryRules.Files.FileTree
import BoundaryRules.Proofs.Traversal

/-! Files at their places. What is written to a path is read there again, whatever steps the path
takes, since writing a file takes no directory away from it. -/
namespace BoundaryRules

variable {node child : Node} {name : String} {place target pieces more : List String}

namespace Node

@[simp] theorem isDirectory_directory (entries : List (String × Node)) :
    (directory entries).isDirectory = true := rfl

@[simp] theorem isDirectory_setChild (node : Node) (name : String) (child : Node) :
    (node.setChild name child).isDirectory = true := rfl

theorem child?_directory_set (entries : List (String × Node)) (name other : String)
    (child : Node) :
    (directory (setChild.set name child entries)).child? other =
      if other = name then some child else (directory entries).child? other := by
  unfold child?
  simp only [Node.entries]
  induction entries with
  | nil => by_cases h : name = other <;> simp [setChild.set, h, eq_comm]
  | cons entry more ih =>
    unfold setChild.set
    split
    next hentry => by_cases h : name = other <;> simp [hentry, h, eq_comm]
    next hentry =>
      by_cases h : entry.1 = other
      · have hne : other ≠ name := fun heq => hentry (h.trans heq)
        simp [h, hne]
      · simpa [h] using ih

theorem child?_setChild (node : Node) (name other : String) (child : Node) :
    (node.setChild name child).child? other =
      if other = name then some child else node.child? other := by
  cases node with
  | file content => exact child?_directory_set [] name other child
  | directory entries => exact child?_directory_set entries name other child

/-- The names lead to a directory. -/
def HoldsDirectory (node : Node) (place : List String) : Prop :=
  ∃ entries, node.reach place = .ok (.directory entries)

@[simp] theorem holdsDirectory_nil : node.HoldsDirectory [] ↔ node.isDirectory = true := by
  cases node <;> simp [HoldsDirectory, reach, isDirectory]

theorem holdsDirectory_cons :
    node.HoldsDirectory (name :: place) ↔
      node.isDirectory = true ∧
        ∃ child, node.child? name = some child ∧ child.HoldsDirectory place := by
  cases hdirectory : node.isDirectory <;> cases hchild : node.child? name <;>
    simp [HoldsDirectory, reach, hdirectory, hchild]

theorem reach_place (node child : Node) (place : List String) :
    (node.place child place).reach place = .ok child := by
  induction place generalizing node with
  | nil => rfl
  | cons name place ih => simp [Node.place, reach, child?_setChild, ih]

/-- Where no directory was before, something can be placed without loss of directories. -/
theorem HoldsDirectory.after_place (h : node.HoldsDirectory place)
    (htarget : ¬ node.HoldsDirectory target) (child : Node) :
    (node.place child target).HoldsDirectory place := by
  induction target generalizing node place with
  | nil =>
    rw [holdsDirectory_nil] at htarget
    cases place with
    | nil => exact absurd (holdsDirectory_nil.mp h) htarget
    | cons name place => exact absurd (holdsDirectory_cons.mp h).1 htarget
  | cons next target ih =>
    cases place with
    | nil => simp [Node.place]
    | cons name place =>
      obtain ⟨hnode, found, hfound, hplace⟩ := holdsDirectory_cons.mp h
      rw [holdsDirectory_cons]
      refine ⟨by simp [Node.place], ?_⟩
      by_cases heq : name = next
      · subst heq
        have hrest : ¬ found.HoldsDirectory target :=
          fun hrest => htarget (holdsDirectory_cons.mpr ⟨hnode, found, hfound, hrest⟩)
        exact ⟨_, by simp [Node.place, child?_setChild, hfound], ih hplace hrest⟩
      · exact ⟨found, by simp [Node.place, child?_setChild, heq, hfound], hplace⟩

end Node

namespace FileTree

variable {tree made : FileTree} {path : String} {content : List UInt8} {access : Access}

theorem demand_eq_ok_iff :
    tree.demand access place = .ok () ↔ tree.refusal? access place = none := by
  unfold demand
  split <;> simp_all

/-- There is a directory that can be entered wherever the pieces of a path go on from. -/
def Passable (tree : FileTree) (place : List String) : List String → Prop
  | [] => True
  | piece :: pieces =>
    tree.root.HoldsDirectory place ∧ tree.refusal? .enter place = none ∧
      tree.Passable (step place piece) pieces

theorem passable_append :
    tree.Passable place (pieces ++ more) ↔
      tree.Passable place pieces ∧ tree.Passable (pieces.foldl step place) more := by
  induction pieces generalizing place with
  | nil => simp [Passable]
  | cons piece pieces ih => simp [Passable, ih, and_assoc]

theorem Passable.after_place (h : tree.Passable place pieces)
    (htarget : ¬ tree.root.HoldsDirectory (tree.placeOf path)) (child : Node) :
    (tree.place path child).Passable place pieces := by
  induction pieces generalizing place with
  | nil => trivial
  | cons piece pieces ih => exact ⟨h.1.after_place htarget child, h.2.1, ih h.2.2⟩

theorem walk_eq_ok_iff :
    tree.walk place pieces = .ok node ↔
      tree.Passable place pieces ∧ tree.root.reach (pieces.foldl step place) = .ok node := by
  induction pieces generalizing place with
  | nil => simp [walk, Passable]
  | cons piece pieces ih =>
    rw [walk, bind_eq_ok_iff, Passable, List.foldl_cons]
    constructor
    · rintro ⟨found, hfound, hwalk⟩
      cases found with
      | file _ => cases hwalk
      | directory entries =>
        obtain ⟨⟨⟩, hentered, hwalk⟩ := bind_eq_ok_iff.mp hwalk
        obtain ⟨hpassable, hreach⟩ := ih.mp hwalk
        exact ⟨⟨⟨entries, hfound⟩, demand_eq_ok_iff.mp hentered, hpassable⟩, hreach⟩
    · rintro ⟨⟨⟨entries, hfound⟩, hentered, hpassable⟩, hreach⟩
      exact ⟨_, hfound, bind_eq_ok_iff.mpr
        ⟨(), demand_eq_ok_iff.mpr hentered, ih.mpr ⟨hpassable, hreach⟩⟩⟩

theorem node_eq_ok_iff :
    tree.node path = .ok node ↔ path ≠ "" ∧
      tree.Passable (tree.start path) (Path.split path) ∧
        tree.root.reach (tree.placeOf path) = .ok node := by
  unfold FileTree.node
  split
  next hempty => simp [hempty]
  next hempty => simp [hempty, walk_eq_ok_iff, placeOf]

theorem read_eq_ok_iff :
    tree.read path = .ok content ↔ tree.refusal? .read (tree.placeOf path) = none ∧
      tree.node path = .ok (.file content) := by
  simp only [read, bind_eq_ok_iff]
  constructor
  · rintro ⟨node, hnode, ⟨⟩, hread, hcontent⟩
    cases node with
    | file _ => exact ⟨demand_eq_ok_iff.mp hread, Except.ok.inj hcontent ▸ hnode⟩
    | directory _ => cases hcontent
  · rintro ⟨hread, hnode⟩
    exact ⟨_, hnode, (), demand_eq_ok_iff.mpr hread, rfl⟩

/-- A file can be written to the path. -/
structure Writable (tree : FileTree) (path : String) : Prop where
  ne_empty : path ≠ ""
  passable : tree.Passable (tree.start path) (Path.split path)
  not_directory : ¬ tree.root.HoldsDirectory (tree.placeOf path)

theorem Writable.node_put (h : tree.Writable path) (content : List UInt8) :
    (tree.put path content).node path = .ok (.file content) :=
  node_eq_ok_iff.mpr
    ⟨h.ne_empty, h.passable.after_place h.not_directory _, Node.reach_place _ _ _⟩

theorem Writable.put (h : tree.Writable path) (content : List UInt8) :
    (tree.put path content).Writable path := by
  refine ⟨h.ne_empty, h.passable.after_place h.not_directory _, ?_⟩
  rintro ⟨entries, hentries⟩
  cases (Node.reach_place _ _ _).symm.trans hentries

theorem writable_of_node_file (h : tree.node path = .ok (.file content)) : tree.Writable path := by
  obtain ⟨hempty, hpassable, hreach⟩ := node_eq_ok_iff.mp h
  refine ⟨hempty, hpassable, ?_⟩
  rintro ⟨entries, hentries⟩
  cases hreach.symm.trans hentries

/-- A file is put just where it is written, if it can be written. -/
theorem writable_of_write (h : tree.write path content = .ok made) :
    tree.Writable path ∧ made = tree.put path content := by
  unfold write at h
  split at h
  next => cases h
  next old hnode =>
    obtain ⟨-, -, h⟩ := bind_eq_ok_iff.mp h
    obtain rfl := Except.ok.inj h
    exact ⟨writable_of_node_file hnode, rfl⟩
  next fault hnode =>
    obtain ⟨above, habove, h⟩ := bind_eq_ok_iff.mp h
    split_ifs at h with hnames hdirectory hlength
    obtain ⟨⟨⟩, hentered, h⟩ := bind_eq_ok_iff.mp h
    obtain ⟨-, -, h⟩ := bind_eq_ok_iff.mp h
    obtain rfl := Except.ok.inj h
    -- No piece was dropped, so there is no slash at the end.
    have hpieces : (Path.split path).reverse.dropWhile (· = "") = (Path.split path).reverse :=
      (List.dropWhile_suffix _).eq_of_length_le (Nat.le_of_not_lt hlength)
    rw [hpieces] at habove hnames hentered
    obtain ⟨last, front, hfront⟩ := List.exists_cons_of_ne_nil (mt List.isEmpty_iff.mpr hnames)
    have hsplit : Path.split path = front.reverse ++ [last] := by
      rw [← List.reverse_reverse (Path.split path), hfront, List.reverse_cons]
    rw [hfront, List.drop_one, List.tail_cons] at habove hentered
    obtain ⟨hfrontPassable, hreach⟩ := walk_eq_ok_iff.mp habove
    have habove : ∃ entries, above = .directory entries := by
      cases above with
      | file content => simp [Node.isDirectory] at hdirectory
      | directory entries => exact ⟨entries, rfl⟩
    obtain ⟨entries, rfl⟩ := habove
    have hempty : path ≠ "" := by
      rintro rfl
      simp [Path.split, Path.splitFrom] at hpieces
    have hpassable : tree.Passable (tree.start path) (Path.split path) := by
      rw [hsplit, passable_append]
      exact ⟨hfrontPassable, ⟨entries, hreach⟩, demand_eq_ok_iff.mp hentered, trivial⟩
    refine ⟨⟨hempty, hpassable, ?_⟩, rfl⟩
    rintro ⟨entries, hdirectory⟩
    cases hnode.symm.trans (node_eq_ok_iff.mpr ⟨hempty, hpassable, hdirectory⟩)

end FileTree

/-- The piece of a path that leads on by a component; there is none for its front. -/
def Path.Component.piece? : Path.Component → Option String
  | .root => none
  | .here => none
  | .up => some ".."
  | .name name => some name

namespace FileTree

variable {tree : FileTree} {path other piece : String} {child otherChild : Node}

/-- A piece leads on by its component, or does nothing. -/
theorem step_eq_foldl (place : List String) (piece : String) :
    step place piece =
      ((Path.component? piece).toList.filterMap Path.Component.piece?).foldl step place := by
  unfold Path.component?
  split_ifs with hidle hup
  · simp [step, hidle]
  · simp [Path.Component.piece?, hup]
  · simp [Path.Component.piece?]

theorem foldl_step_eq (place pieces : List String) :
    pieces.foldl step place =
      ((pieces.filterMap Path.component?).filterMap Path.Component.piece?).foldl step place := by
  induction pieces generalizing place with
  | nil => rfl
  | cons piece pieces ih =>
    have hcons : (piece :: pieces).filterMap Path.component? =
        (Path.component? piece).toList ++ pieces.filterMap Path.component? := by
      cases h : Path.component? piece <;> simp [h]
    rw [List.foldl_cons, ih, step_eq_foldl, hcons, List.filterMap_append, List.foldl_append]

theorem component?_ne_root (piece : String) : Path.component? piece ≠ some .root := by
  unfold Path.component?
  split_ifs <;> simp

theorem exists_split_of_isAbsolute (h : Path.isAbsolute path = true) :
    ∃ more, Path.split path = "" :: more := by
  simp only [Path.isAbsolute, beq_iff_eq] at h
  obtain ⟨text, htext⟩ := List.head?_eq_some_iff.mp h
  exact ⟨Path.splitFrom [] text, by simp [Path.split, htext, Path.splitFrom]⟩

theorem isAbsolute_iff : Path.isAbsolute path = true ↔ .root ∈ Path.components path := by
  unfold Path.components
  cases hsplit : Path.split path with
  | nil =>
    constructor
    · intro h
      obtain ⟨more, hmore⟩ := exists_split_of_isAbsolute h
      cases hsplit.symm.trans hmore
    · simp
  | cons first more =>
    have hmore : .root ∉ more.filterMap Path.component? := by
      simp [component?_ne_root]
    have hfirst : .root ∉ (Path.component? first).toList := by
      simp [component?_ne_root]
    by_cases habsolute : Path.isAbsolute path = true
    · simp [habsolute]
    · by_cases hhere : first = "." <;> simp_all

theorem placeOf_eq (tree : FileTree) (path : String) :
    tree.placeOf path =
      ((Path.components path).filterMap Path.Component.piece?).foldl step (tree.start path) := by
  unfold placeOf Path.components
  cases hsplit : Path.split path with
  | nil => rfl
  | cons first more =>
    rw [List.foldl_cons, foldl_step_eq, List.filterMap_append, List.foldl_append]
    congr 1
    split_ifs with habsolute hhere
    · obtain ⟨_, hmore⟩ := exists_split_of_isAbsolute habsolute
      obtain ⟨rfl, -⟩ := List.cons_eq_cons.mp (hsplit.symm.trans hmore)
      rfl
    · subst hhere
      rfl
    · exact step_eq_foldl _ _

/-- Paths with the same components lead to the same place. -/
theorem placeOf_eq_of_same (h : Path.same path other = true) :
    tree.placeOf path = tree.placeOf other := by
  simp only [Path.same, beq_iff_eq] at h
  have habsolute : Path.isAbsolute path = Path.isAbsolute other := by
    rw [Bool.eq_iff_iff, isAbsolute_iff, isAbsolute_iff, h]
  simp [placeOf_eq, start, h, habsolute]

/-- What two paths with the same components lead to is the same, if they lead to anything. -/
theorem node_eq_of_same (h : Path.same path other = true) (hnode : tree.node path = .ok child)
    (hother : tree.node other = .ok otherChild) : child = otherChild := by
  obtain ⟨-, -, hreach⟩ := node_eq_ok_iff.mp hnode
  obtain ⟨-, -, hreachOther⟩ := node_eq_ok_iff.mp hother
  rw [placeOf_eq_of_same h] at hreach
  exact Except.ok.inj (hreach.symm.trans hreachOther)

end FileTree
end BoundaryRules
