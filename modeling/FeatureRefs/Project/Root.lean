import FeatureRefs.Files.Tree

/-!
# The root of a project

A directory is the root of a project if one of the markers is in it. The root for a path is the nearest
one among the path and what is left of it without its last components; without any it is the path.
-/

namespace FeatureRefs.Project

/-- What marks the root of a project. -/
def rootMarkers : List Path :=
  [⟨"package.json"⟩, ⟨".config/baseline"⟩, ⟨".git"⟩]

/-- Whether a directory is the root of a project. -/
def isRoot (files : Files) (directory : Path) : Bool :=
  rootMarkers.any fun marker => files.contains (directory.join marker)

/-- A path and what is left of it without its last components, as often as `n` says at most. -/
def ancestors : Nat → Path → List Path
  | 0, path => [path]
  | n + 1, path =>
      path ::
        match path.parent? with
        | some parent => ancestors n parent
        | none => []

/-- A path and what is left of it without its last components, the nearest one first. -/
def candidates (start : Path) : List Path :=
  ancestors start.components.length start

/-- The root for a path. -/
def findRoot (files : Files) (start : Path) : Path :=
  ((candidates start).find? (isRoot files)).getD start

end FeatureRefs.Project
