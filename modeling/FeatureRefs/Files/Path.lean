/-!
# Paths

A path is kept as it is written. Its components are the names between the slashes; empty names and
dots do not count, except for a dot at the very beginning. Two dots are a component of their own and
are not resolved.
-/

namespace FeatureRefs

/-- A path as it is written. -/
structure Path where
  text : String
deriving Repr, DecidableEq

namespace Path

instance : Inhabited Path := ⟨⟨""⟩⟩

/-- What stands between the slashes of a text. -/
def segments : List Char → List (List Char)
  | [] => [[]]
  | '/' :: rest => [] :: segments rest
  | c :: rest =>
      match segments rest with
      | [] => [[c]]
      | segment :: others => (c :: segment) :: others

/-- Segments with slashes between them. -/
def ofSegments (segments : List (List Char)) : List Char :=
  (['/'] : List Char).intercalate segments

theorem segments_ne_nil (text : List Char) : segments text ≠ [] := by
  fun_cases segments text with
  | case1 => simp
  | case2 rest => simp
  | case3 c rest => simp
  | case4 c rest => simp

theorem ofSegments_cons_cons (c : Char) (segment : List Char) (others : List (List Char)) :
    ofSegments ((c :: segment) :: others) = c :: ofSegments (segment :: others) := by
  cases others <;> simp [ofSegments, List.intercalate]

/-- Whether a path starts at the root directory. -/
def isAbsolute (p : Path) : Bool :=
  p.text.toList.head? == some '/'

/-- A component of a path. -/
inductive Component where
  /-- The root directory. -/
  | root
  /-- The directory itself; only the first component of a relative path. -/
  | current
  /-- The directory above. -/
  | parent
  | name (text : String)
deriving Repr, DecidableEq

/-- How a component is written. -/
def Component.text : Component → String
  | root => "/"
  | current => "."
  | parent => ".."
  | name text => text

/-- Whether a segment does not count as a component. -/
def isSkipped (segment : List Char) : Bool :=
  segment.isEmpty || segment == ['.']

/-- The component that a segment stands for. -/
def Component.ofSegment (segment : List Char) : Component :=
  if segment == ['.', '.'] then .parent else .name (String.ofList segment)

/-- The components of segments that follow another component. -/
def innerComponents (segments : List (List Char)) : List Component :=
  (segments.filter fun s => !isSkipped s).map Component.ofSegment

/-- The components of a path. -/
def components (p : Path) : List Component :=
  match segments p.text.toList with
  | [] => []
  | first :: others =>
      if p.isAbsolute then .root :: innerComponents others
      else if first == ['.'] then .current :: innerComponents others
      else innerComponents (first :: others)

/-- Whether two paths have the same components, however they are written. -/
def isSame (p q : Path) : Bool :=
  p.components == q.components

/-- The name of the file that a path leads to. -/
def fileName? (p : Path) : Option String :=
  match p.components.getLast? with
  | some (.name text) => some text
  | _ => none

/-- The name of the file that a path leads to, or an empty text. -/
def fileName (p : Path) : String :=
  p.fileName?.getD ""

/-- What follows the last dot of a file name, if something stands before that dot. -/
def extensionOf? (name : List Char) : Option (List Char) :=
  let after := (name.reverse.takeWhile (· != '.')).reverse
  let before := (name.reverse.dropWhile (· != '.')).drop 1
  if before.isEmpty then none else some after

/-- The extension of the file that a path leads to. -/
def extension? (p : Path) : Option String :=
  p.fileName?.bind fun name => (extensionOf? name.toList).map fun e => String.ofList e

/-- A path taken from another one. An absolute path stays as it is. -/
def join (p q : Path) : Path :=
  if q.isAbsolute then q
  else if p.text.isEmpty || p.text.toList.getLast? == some '/' then ⟨p.text ++ q.text⟩
  else ⟨p.text ++ "/" ++ q.text⟩

/-- Segments without the last ones that do not count. `first` says that the list begins the path. -/
def trimSegments (first : Bool) (segments : List (List Char)) : List (List Char) :=
  let kept := (segments.reverse.dropWhile isSkipped).reverse
  if first && kept.isEmpty && segments.head? == some ['.'] then [['.']] else kept

/-- The path without its last component; the root directory and the empty path have none to lose. -/
def parent? (p : Path) : Option Path :=
  let relative := !p.isAbsolute
  let body := (segments p.text.toList).drop (if relative then 0 else 1)
  match trimSegments relative body with
  | [] => none
  | kept =>
      let text := ofSegments (trimSegments relative kept.dropLast)
      some ⟨String.ofList (if relative then text else '/' :: text)⟩

end Path

end FeatureRefs
