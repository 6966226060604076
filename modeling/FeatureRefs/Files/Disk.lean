import FeatureRefs.Files.Tree

/-!
# Disks with links

A disk is a directory of files, directories and links. A path is looked up name by name, and a link
on the way is replaced by its target. A walk goes through links, too. It leaves out links that lead
nowhere, and links to a directory that the walk is just in.
-/

namespace FeatureRefs

namespace Disk

/-- What stands at a place of a disk. -/
inductive Node where
  | file (content : ByteArray)
  | directory (entries : List (String × Node))
  | link (target : String)

namespace Node

/-- The entries of a directory. -/
def entries : Node → List (String × Node)
  | directory entries => entries
  | _ => []

/-- What is found under names, without following links. -/
def at? : List String → Node → Option Node
  | [], node => some node
  | name :: names, directory entries => (entries.lookup name).bind (at? names)
  | _ :: _, _ => none

mutual

/-- The number of entries of a disk. -/
def size : Node → Nat
  | .file _ => 1
  | .link _ => 1
  | .directory entries => sizeOfEntries entries + 1

/-- The number of entries below a directory. -/
def sizeOfEntries : List (String × Node) → Nat
  | [] => 0
  | (_, node) :: entries => node.size + sizeOfEntries entries

end

/-- Entries in which a name leads to a node. -/
def putEntry (entries : List (String × Node)) (name : String) (node : Node) :
    List (String × Node) :=
  entries.filter (·.1 != name) ++ [(name, node)]

/-- Puts a node under names; directories on the way are made where they are missing. -/
def put (node : Node) : List String → Node → Node
  | [], _ => node
  | name :: names, disk =>
      let old := (disk.entries.lookup name).getD (.directory [])
      .directory (putEntry disk.entries name (put node names old))

/-- Takes away what is found under names. -/
def remove : List String → Node → Node
  | [], disk => disk
  | [name], disk => .directory (disk.entries.filter (·.1 != name))
  | name :: names, disk =>
      match disk.entries.lookup name with
      | some old => .directory (putEntry disk.entries name (remove names old))
      | none => disk

end Node

end Disk

/-- Files, directories and links below the root directory. -/
structure Disk where
  root : Disk.Node := .directory []

namespace Disk

/-- Writes an entry under names. -/
def write (disk : Disk) (names : List String) (node : Node) : Disk :=
  ⟨Node.put node names disk.root⟩

/-- Removes the entry under names. -/
def remove (disk : Disk) (names : List String) : Disk :=
  ⟨Node.remove names disk.root⟩

/-- How many links may be followed on the way to a file. -/
def linkLimit : Nat := 40

/-- The names from the root directory to what `segments` lead to from `here`, after following links.
At most `links` of them are followed. -/
def locate? (disk : Disk) (links : Nat) (here : List String) :
    List (List Char) → Option (List String)
  | [] => some here
  | segment :: rest =>
      match disk.root.at? here with
      | some (.directory entries) =>
          if Path.isSkipped segment then
            locate? disk links here rest
          else if segment = ['.', '.'] then
            locate? disk links here.dropLast rest
          else
            match entries.lookup (String.ofList segment) with
            | none => none
            | some (.link target) =>
                match links with
                | 0 => none
                | links + 1 =>
                    -- What the link leads to is looked up in its place.
                    let start := if (Path.mk target).isAbsolute then [] else here
                    locate? disk links start (Path.segments target.toList ++ rest)
            | some _ => locate? disk links (here ++ [String.ofList segment]) rest
      | _ => none
termination_by segments => (links, segments.length)

mutual

/-- The tree of a node at `here`. `above` are the directories that the walk is in, and at most `links`
links are followed in a row of directories. -/
def treeOf? (disk : Disk) (links : Nat) (above : List (List String)) (here : List String)
    (node : Node) : Option Tree :=
  match node with
  | .file content => some (.file content)
  | .directory entries => some (.directory (treesOf disk links (here :: above) here entries))
  | .link target =>
      match links with
      | 0 => none
      | links + 1 => do
          let start := if (Path.mk target).isAbsolute then [] else here.dropLast
          let place ← disk.locate? linkLimit start (Path.segments target.toList)
          if above.contains place then
            none
          else
            let target ← disk.root.at? place
            treeOf? disk links above place target
termination_by (links, sizeOf node)

/-- The trees of the entries of the directory at `here`. -/
def treesOf (disk : Disk) (links : Nat) (above : List (List String)) (here : List String)
    (entries : List (String × Node)) : List (String × Tree) :=
  match entries with
  | [] => []
  | (name, node) :: rest =>
      match treeOf? disk links above (here ++ [name]) node with
      | some tree => (name, tree) :: treesOf disk links above here rest
      | none => treesOf disk links above here rest
termination_by (links, sizeOf entries)

end

/-- What is found at a path that is taken from a directory. -/
def tree? (disk : Disk) (directory path : Path) : Option Tree := do
  if path.text.isEmpty then
    none
  else
    let segments := Path.segments (directory.join path).text.toList
    let place ← disk.locate? linkLimit [] segments
    let node ← disk.root.at? place
    disk.treeOf? disk.root.size [] place node

/-- The view of a disk from a directory. -/
def files (disk : Disk) (directory : Path) : Files where
  workingDirectory := directory
  tree? := disk.tree? directory

end Disk

end FeatureRefs
