import FeatureRefs.Files.Path

/-!
# Files

A tree is a file with its bytes or a directory with its entries. Links do not occur in it; whoever
makes a tree follows them. A view of the files tells for every path the tree that is found there.
-/

namespace FeatureRefs

/-- A file or a directory with everything below it. -/
inductive Tree where
  | file (content : ByteArray)
  | directory (entries : List (String × Tree))

namespace Tree

/-- The text of a file, if its bytes are UTF-8. -/
def text? : Tree → Option String
  | file content => String.fromUTF8? content
  | directory _ => none

/-- The order of the entries of a directory in a walk. -/
def nameOrder (a b : String × Tree) : Bool :=
  decide (a.1 ≤ b.1)

/-- The files of a tree with the names that lead to them, in the order of a depth-first walk. It visits the
entries of a directory by name. Entries at which `enter` fails are left out, directories with everything
below them. `above` holds the names that lead to the tree. -/
def walk (enter : List String → Bool) (above : List String) :
    Tree → List (List String × ByteArray)
  | .file content => [(above, content)]
  | .directory entries =>
      (entries.mergeSort nameOrder).attach.flatMap fun ⟨(name, tree), _⟩ =>
        if enter (above ++ [name]) then tree.walk enter (above ++ [name]) else []
termination_by tree => tree
decreasing_by
  -- Sorting leaves the entries what they are, so each one is smaller than the directory.
  have hentry : (name, tree) ∈ entries := List.mem_mergeSort.1 ‹_›
  have hsize := List.sizeOf_lt_of_mem hentry
  simp only [Prod.mk.sizeOf_spec, Tree.directory.sizeOf_spec] at hsize ⊢
  omega

theorem walk_file (enter : List String → Bool) (above : List String) (content : ByteArray) :
    (file content).walk enter above = [(above, content)] := by
  rw [walk]

/-- A walk of a directory is the walks of its entries, one after the other by name. -/
theorem walk_directory (enter : List String → Bool) (above : List String)
    (entries : List (String × Tree)) :
    (directory entries).walk enter above =
      (entries.mergeSort nameOrder).flatMap fun entry =>
        if enter (above ++ [entry.1]) then entry.2.walk enter (above ++ [entry.1]) else [] := by
  rw [walk]
  conv => rhs; rw [← List.attach_map_subtype_val (entries.mergeSort nameOrder), List.flatMap_map]

end Tree

/-- A view of the files. -/
structure Files where
  /-- The directory that relative paths are taken from. -/
  workingDirectory : Path
  /-- What is found at a path. -/
  tree? : Path → Option Tree

namespace Files

/-- Whether there is something at a path. -/
def contains (files : Files) (path : Path) : Bool :=
  (files.tree? path).isSome

/-- The text of the file at a path. -/
def readText? (files : Files) (path : Path) : Option String :=
  (files.tree? path).bind Tree.text?

end Files

end FeatureRefs
