import FeatureRefs.Files.Disk
import FeatureRefs.Proofs.Files.Walk

/-!
# Disks without links

Where there are no links, what is found at a path depends on the names of the path alone: the entry of
a name in a directory is found at the path of the directory joined with the name. So the view of such
a disk agrees with itself: the tree of a directory holds exactly what the view finds below it.
-/

namespace FeatureRefs

namespace Disk.Node

/-- A node without links. The entries of each directory have distinct names, and these can be
names. -/
inductive IsPlain : Node → Prop where
  | file (content : ByteArray) : IsPlain (.file content)
  | directory {entries : List (String × Node)} (distinct : (entries.map Prod.fst).Nodup)
      (names : ∀ entry ∈ entries, Path.IsName entry.1)
      (below : ∀ entry ∈ entries, IsPlain entry.2) : IsPlain (.directory entries)

mutual

/-- The tree of a node without links. A link would count as an empty directory. -/
def tree : Node → Tree
  | .file content => .file content
  | .directory entries => .directory (treesOfEntries entries)
  | .link _ => .directory []

/-- The trees of the entries of a directory without links. -/
def treesOfEntries : List (String × Node) → List (String × Tree)
  | [] => []
  | (name, node) :: entries => (name, node.tree) :: treesOfEntries entries

end

theorem treesOfEntries_eq_map (entries : List (String × Node)) :
    treesOfEntries entries = entries.map fun entry => (entry.1, entry.2.tree) := by
  induction entries with
  | nil => rfl
  | cons entry entries ih => rw [treesOfEntries, ih, List.map_cons]

theorem lookup_treesOfEntries (entries : List (String × Node)) (name : String) :
    (treesOfEntries entries).lookup name = (entries.lookup name).map tree := by
  induction entries with
  | nil => rfl
  | cons entry entries ih =>
      obtain ⟨key, node⟩ := entry
      rw [treesOfEntries, List.lookup_cons, List.lookup_cons, ih]
      cases name == key with
      | true => rfl
      | false => rfl

/-- The tree of a node has the trees of what the node has. -/
theorem at?_tree (node : Node) (names : List String) :
    node.tree.at? names = (node.at? names).map tree := by
  induction names generalizing node with
  | nil => rfl
  | cons name names ih =>
      cases node with
      | file content => rfl
      | link target => rfl
      | directory entries =>
          simp only [tree, Tree.at?, at?, lookup_treesOfEntries]
          cases entries.lookup name with
          | none => rfl
          | some node => exact ih node

theorem at?_append (node : Node) (names more : List String) :
    node.at? (names ++ more) = (node.at? names).bind (at? more) := by
  induction names generalizing node with
  | nil => rfl
  | cons name names ih =>
      cases node with
      | file content => rfl
      | link target => rfl
      | directory entries =>
          simp only [List.cons_append, at?]
          cases entries.lookup name with
          | none => rfl
          | some node => exact ih node

theorem treesOf_eq {disk : Disk} {links : Nat} {above : List (List String)} {here : List String}
    {entries : List (String × Node)}
    (h : ∀ entry ∈ entries, ∀ here, disk.treeOf? links above here entry.2 = some entry.2.tree) :
    disk.treesOf links above here entries = treesOfEntries entries := by
  induction entries with
  | nil => rw [treesOf, treesOfEntries]
  | cons entry entries ih =>
      obtain ⟨name, node⟩ := entry
      obtain ⟨hnode, hentries⟩ := List.forall_mem_cons.1 h
      rw [treesOf, hnode, treesOfEntries, ih hentries]

namespace IsPlain

variable {node : Node}

theorem isProper (h : node.IsPlain) : node.tree.IsProper := by
  induction h with
  | file content => exact .file content
  | @directory entries distinct names below ih =>
      rw [tree, treesOfEntries_eq_map]
      refine .directory ?_ ?_ ?_
      · rw [List.map_map]
        exact distinct
      · intro entry hentry
        obtain ⟨plain, hplain, rfl⟩ := List.mem_map.1 hentry
        exact names plain hplain
      · intro entry hentry
        obtain ⟨plain, hplain, rfl⟩ := List.mem_map.1 hentry
        exact ih plain hplain

theorem of_lookup {entries : List (String × Node)} {name : String}
    (h : (Node.directory entries).IsPlain) (hnode : entries.lookup name = some node) : node.IsPlain := by
  cases h with
  | directory distinct names below =>
      exact below (name, node) ((lookup_eq_some_iff_mem distinct).1 hnode)

theorem of_at? {found : Node} {names : List String} (h : node.IsPlain)
    (hfound : node.at? names = some found) : found.IsPlain := by
  induction names generalizing node with
  | nil =>
      obtain rfl := Option.some.inj hfound
      exact h
  | cons name names ih =>
      cases node with
      | file content => simp [at?] at hfound
      | link target => simp [at?] at hfound
      | directory entries =>
          simp only [at?, Option.bind_eq_some_iff] at hfound
          obtain ⟨entry, hentry, hfound⟩ := hfound
          exact ih (h.of_lookup hentry) hfound

/-- A walk of a node without links sees its tree, wherever it comes from. -/
theorem treeOf?_eq (h : node.IsPlain) (disk : Disk) (links : Nat) (above : List (List String))
    (here : List String) : disk.treeOf? links above here node = some node.tree := by
  induction h generalizing above here with
  | file content => rw [treeOf?, tree]
  | directory distinct names below ih =>
      rw [treeOf?, tree, treesOf_eq fun entry hentry => ih entry hentry (here :: above)]

end IsPlain

end Disk.Node

namespace Disk

variable {disk : Disk}

/-- Where there are no links, the names of a path are looked up one after the other. -/
theorem locate?_append (h : disk.root.IsPlain) (links : Nat) (here : List String)
    (segments more : List (List Char)) :
    disk.locate? links here (segments ++ more) =
      (disk.locate? links here segments).bind fun place => disk.locate? links place more := by
  induction segments generalizing here with
  | nil =>
      rw [List.nil_append, locate?.eq_1 disk links here]
      rfl
  | cons segment segments ih =>
      rw [List.cons_append, locate?, locate?]
      split
      · rename_i entries hentries
        split
        · exact ih here
        · split
          · exact ih here.dropLast
          · split
            · rfl
            · rename_i target hlookup
              have hlink : (Node.link target).IsPlain := (h.of_at? hentries).of_lookup hlookup
              cases hlink
            · exact ih _
      · rfl

/-- An empty segment before another one does nothing. -/
theorem locate?_empty_cons (links : Nat) (here : List String) (segment : List Char)
    (rest : List (List Char)) :
    disk.locate? links here ([] :: segment :: rest) = disk.locate? links here (segment :: rest) := by
  rw [locate?]
  split
  · rfl
  · rename_i hhere
    rw [locate?]
    split
    · rename_i entries hentries
      exact absurd hentries (hhere entries)
    · rfl

/-- The segment of a name leads to the entry of the name. -/
theorem locate?_name (h : disk.root.IsPlain) {name : String} (hname : Path.IsName name)
    (links : Nat) (here : List String) :
    disk.locate? links here [name.toList] =
      (disk.root.at? (here ++ [name])).map fun _ => here ++ [name] := by
  have hkept : Path.isSkipped name.toList = false := by
    simp [Path.isSkipped, hname.ne_nil, hname.ne_dot]
  rw [Node.at?_append, locate?]
  cases hhere : disk.root.at? here with
  | none => rfl
  | some node =>
      cases node with
      | file content => rfl
      | link target =>
          have hlink : (Node.link target).IsPlain := h.of_at? hhere
          cases hlink
      | directory entries =>
          simp only [hkept, Bool.false_eq_true, if_false, hname.ne_dots, String.ofList_toList,
            Option.bind_some, Node.at?]
          cases hlookup : entries.lookup name with
          | none => rfl
          | some node =>
              cases node with
              | file content => simp [locate?]
              | directory entries => simp [locate?]
              | link target =>
                  have hlink : (Node.link target).IsPlain := (h.of_at? hhere).of_lookup hlookup
                  cases hlink

/-- What is found at a path: the tree of the node at its place. -/
theorem tree?_eq (h : disk.root.IsPlain) (directory : Path) {path : Path}
    (hpath : path.text.toList ≠ []) :
    disk.tree? directory path =
      (disk.locate? linkLimit [] (Path.segments (directory.join path).text.toList)).bind
        fun place => (disk.root.at? place).map Node.tree := by
  have hne : path.text.isEmpty = false := by
    rw [Bool.eq_false_iff, Ne, String.isEmpty_iff, ← String.toList_inj]
    exact hpath
  rw [tree?, hne, if_neg Bool.false_ne_true]
  apply Option.bind_congr
  intro place hplace
  cases hnode : disk.root.at? place with
  | none => rfl
  | some node =>
      have hplain : node.IsPlain := h.of_at? hnode
      exact hplain.treeOf?_eq disk disk.root.size [] place

/-- The place of a name below a path is the place of the path and then the name. -/
theorem locate?_join_name (h : disk.root.IsPlain) (links : Nat) {name : String}
    (hname : Path.IsName name) (path : Path) :
    disk.locate? links [] (Path.segments (path.join ⟨name⟩).text.toList) =
      (disk.locate? links [] (Path.segments path.text.toList)).bind
        fun place => disk.locate? links place [name.toList] := by
  obtain ⟨init, hsegments, hjoined⟩ := path.exists_segments_join hname
  rw [hjoined, ← locate?_append h]
  rcases hsegments with hsegments | hsegments
  · rw [hsegments]
  · -- The slash that the path ends in leaves an empty segment before the name.
    rw [hsegments, List.append_assoc, locate?_append h, locate?_append h]
    apply Option.bind_congr
    intro place hplace
    exact (locate?_empty_cons links place name.toList []).symm

/-- The entry of a name is found at the path joined with the name. -/
theorem tree?_join_name (h : disk.root.IsPlain) (directory : Path) {path : Path}
    (hpath : path.text.toList ≠ []) {name : String} (hname : Path.IsName name) :
    disk.tree? directory (path.join ⟨name⟩) = (disk.tree? directory path).bind (Tree.at? [name]) := by
  have hjoined : (path.join ⟨name⟩).text.toList ≠ [] := by
    rw [Path.join_of_relative hname.isAbsolute_eq_false]
    simp [hpath]
  rw [tree?_eq h directory hjoined, tree?_eq h directory hpath, Path.join_join_name hpath hname,
    locate?_join_name h linkLimit hname, Option.bind_assoc, Option.bind_assoc]
  apply Option.bind_congr
  intro place hplace
  have hentry : ((disk.root.at? place).map Node.tree).bind (Tree.at? [name]) =
      (disk.root.at? (place ++ [name])).map Node.tree := by
    rw [Node.at?_append]
    cases disk.root.at? place with
    | none => rfl
    | some node => exact node.at?_tree [name]
  rw [locate?_name h hname, hentry]
  cases hfound : disk.root.at? (place ++ [name]) with
  | none => rfl
  | some node => rw [Option.map_some, Option.bind_some, hfound]

/-- Nothing is found at the empty path. -/
theorem ne_nil_of_tree? {directory path : Path} {tree : Tree}
    (h : disk.tree? directory path = some tree) : path.text.toList ≠ [] := by
  intro hnil
  have hempty : path.text.isEmpty = true := by
    rw [String.isEmpty_iff, ← String.toList_inj, hnil]
    rfl
  simp [tree?, hempty] at h

/-- Every tree of a disk without links is proper. -/
theorem isProper_of_tree? (h : disk.root.IsPlain) {directory path : Path} {tree : Tree}
    (htree : disk.tree? directory path = some tree) : tree.IsProper := by
  rw [tree?_eq h directory (ne_nil_of_tree? htree)] at htree
  obtain ⟨place, -, hfound⟩ := Option.bind_eq_some_iff.1 htree
  obtain ⟨node, hnode, rfl⟩ := Option.map_eq_some_iff.1 hfound
  exact (h.of_at? hnode).isProper

end Disk

end FeatureRefs
