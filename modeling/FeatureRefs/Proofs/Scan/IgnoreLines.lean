import Mathlib.Data.List.TakeWhile
import FeatureRefs.Files.Capture
import FeatureRefs.Proofs.Files.Narrowing
import FeatureRefs.Proofs.Scan.Reported
import FeatureRefs.Proofs.Text.Composition

/-!
# The lines of an ignore file

Each line of an ignore file excludes paths by itself. A text in two parts excludes what either part excludes,
the order and the number of its lines do not matter, and a line without globs says nothing. More lines exclude
more, so a scan finds a part of what it found before, in the same order.

This does NOT hold of what a scan finds in the ignore file itself. Where its name has an allowed extension a scan
looks at it like at any file, and a new line, if only a comment, may be an entry.

All of this is said of ignore files that can be used. One glob that is nested too deeply voids the globs of all
lines, so next to a line with such a glob the others do NOT act.
-/

namespace FeatureRefs

namespace Unicode

/-- An element at the end that is to be trimmed may as well not be there. -/
theorem trimBy_append_of_pos {α : Type} {p : α → Bool} {a : α} (h : p a = true) (l : List α) :
    trimBy p (l ++ [a]) = trimBy p l := by
  unfold trimBy
  rw [List.dropWhile_append]
  cases hrest : l.dropWhile p with
  | nil => simp [h]
  | cons b rest => simp [h]

theorem trimBy_eq_nil {α : Type} {p : α → Bool} {l : List α} (h : ∀ a ∈ l, p a = true) :
    trimBy p l = [] := by
  have hdrop : l.dropWhile p = [] := List.dropWhile_eq_nil_iff.2 h
  rw [trimBy, hdrop]
  rfl

end Unicode

namespace Exclusion

/-! ## Lines -/

/-- The globs of a line. -/
def globsOfLine (line : List Char) : List Glob :=
  (patternOf? line).toList.flatMap globsOf

/-- The globs of all lines of an ignore file. -/
def globsOfText (text : String) : List Glob :=
  (Text.lines text.toList).flatMap globsOfLine

/-- An ignore file without globs that are nested too deeply. -/
def IsUsable (text : String) : Prop :=
  Glob.areUsable (globsOfText text) = true

/-- A line that says nothing. -/
inductive IsIdleLine (line : List Char) : Prop where
  /-- There is nothing between the blanks, or nothing but slashes. -/
  | empty (slashes : ∀ c ∈ Unicode.trimBy Unicode.isBlank line, c = '/')
  | comment (rest : List Char) (trimmed : Unicode.trimBy Unicode.isBlank line = '#' :: rest)
  /-- Neither the pattern nor the pattern for what is below it is a glob. -/
  | unread (pattern : List Char)
      (trimmed : Unicode.trimBy (· == '/') (Unicode.trimBy Unicode.isBlank line) = pattern)
      (own : Glob.parse? pattern = none) (below : Glob.parse? (pattern ++ ['/', '*', '*']) = none)

/-- A text has a line, whatever blanks are around it. -/
def HasLine (text : String) (line : List Char) : Prop :=
  ∃ other ∈ Text.lines text.toList,
    Unicode.trimBy Unicode.isBlank other = Unicode.trimBy Unicode.isBlank line

/-- Whether a line says something does not depend on the blanks around it. -/
theorem IsIdleLine.congr {line line' : List Char} (h : IsIdleLine line)
    (htrim : Unicode.trimBy Unicode.isBlank line = Unicode.trimBy Unicode.isBlank line') :
    IsIdleLine line' := by
  cases h with
  | empty slashes => exact .empty (htrim ▸ slashes)
  | comment rest trimmed => exact .comment rest (htrim.symm.trans trimmed)
  | unread pattern trimmed own below => exact .unread pattern (htrim ▸ trimmed) own below

theorem globsOfLine_congr {line line' : List Char}
    (h : Unicode.trimBy Unicode.isBlank line = Unicode.trimBy Unicode.isBlank line') :
    globsOfLine line = globsOfLine line' := by
  unfold globsOfLine patternOf?
  rw [h]

/-- The pattern of a line is what is left without blanks and slashes around it. -/
theorem eq_of_patternOf? {line pattern : List Char} (h : patternOf? line = some pattern) :
    (∀ rest, Unicode.trimBy Unicode.isBlank line ≠ '#' :: rest) ∧ pattern ≠ [] ∧
      Unicode.trimBy (· == '/') (Unicode.trimBy Unicode.isBlank line) = pattern := by
  unfold patternOf? at h
  split at h
  · contradiction
  · contradiction
  · next hnil hcomment =>
      split at h
      · contradiction
      · next hne =>
          obtain rfl := Option.some.inj h
          exact ⟨hcomment, hne, rfl⟩

theorem IsIdleLine.globsOfLine_eq_nil {line : List Char} (h : IsIdleLine line) :
    globsOfLine line = [] := by
  cases hpattern : patternOf? line with
  | none => rw [globsOfLine, hpattern]; rfl
  | some found =>
      obtain ⟨hcomment, hne, htrimmed⟩ := eq_of_patternOf? hpattern
      cases h with
      | empty slashes =>
          refine absurd (htrimmed.symm.trans (Unicode.trimBy_eq_nil fun c hc => ?_)) hne
          rw [slashes c hc]
          rfl
      | comment rest trimmed => exact absurd trimmed (hcomment rest)
      | unread pattern trimmed own below =>
          obtain rfl : found = pattern := htrimmed.symm.trans trimmed
          rw [globsOfLine, hpattern, Option.toList_some, List.flatMap_singleton, globsOf]
          simp [own, below]

/-- What is gathered from lines without regard to the blanks around them is gathered from both parts of a text. -/
theorem flatMap_lines_append_newline {α : Type} {gather : List Char → List α}
    (hempty : gather [] = [])
    (htrim : ∀ line line', Unicode.trimBy Unicode.isBlank line = Unicode.trimBy Unicode.isBlank line' →
      gather line = gather line') (a b : String) :
    (Text.lines (a ++ "\n" ++ b).toList).flatMap gather =
      (Text.lines a.toList).flatMap gather ++ (Text.lines b.toList).flatMap gather := by
  have hlines := Text.flatMap_splitOn_newline hempty fun line =>
    htrim _ _ (Unicode.trimBy_append_of_pos (by decide) line)
  rw [Text.toList_append_newline, ← hlines, List.splitOn_append_cons_self, List.flatMap_append,
    hlines, hlines]

theorem globsOfText_append_newline (a b : String) :
    globsOfText (a ++ "\n" ++ b) = globsOfText a ++ globsOfText b :=
  flatMap_lines_append_newline rfl (fun _ _ => globsOfLine_congr) a b

/-- The lines that say something are still there when others are put behind them. -/
theorem hasLine_append_newline {a : String} {line : List Char} (hline : line ∈ Text.lines a.toList)
    (hactive : ¬ IsIdleLine line) (b : String) : HasLine (a ++ "\n" ++ b) line := by
  let gather (line : List Char) : List (List Char) :=
    [Unicode.trimBy Unicode.isBlank line].filter (· ≠ [])
  have hne : Unicode.trimBy Unicode.isBlank line ≠ [] := by
    intro hnil
    exact hactive (.empty (by simp [hnil]))
  have hgather : (Text.lines (a ++ "\n" ++ b).toList).flatMap gather =
      (Text.lines a.toList).flatMap gather ++ (Text.lines b.toList).flatMap gather := by
    refine flatMap_lines_append_newline rfl (fun line line' h => ?_) a b
    dsimp only [gather]
    rw [h]
  have hmem : Unicode.trimBy Unicode.isBlank line ∈
      (Text.lines (a ++ "\n" ++ b).toList).flatMap gather := by
    rw [hgather]
    exact List.mem_append_left _ (List.mem_flatMap.2 ⟨line, hline, by simpa [gather] using hne⟩)
  obtain ⟨other, hother, hfound⟩ := List.mem_flatMap.1 hmem
  exact ⟨other, hother, (List.mem_singleton.1 (List.mem_of_mem_filter hfound)).symm⟩

/-- Where a text has every line of another one that says something, it has all its globs. -/
theorem globsOfText_subset {a b : String}
    (h : ∀ line ∈ Text.lines a.toList, ¬ IsIdleLine line → HasLine b line) :
    globsOfText a ⊆ globsOfText b := by
  intro glob hglob
  obtain ⟨line, hline, hglob⟩ := List.mem_flatMap.1 hglob
  have hactive : ¬ IsIdleLine line := by
    intro hidle
    rw [hidle.globsOfLine_eq_nil] at hglob
    contradiction
  obtain ⟨other, hother, htrim⟩ := h line hline hactive
  rw [← globsOfLine_congr htrim] at hglob
  exact List.mem_flatMap.2 ⟨other, hother, hglob⟩

theorem IsUsable.of_subset {a b : String} (h : IsUsable b) (hsubset : globsOfText a ⊆ globsOfText b) :
    IsUsable a := by
  rw [IsUsable, Glob.areUsable, List.all_eq_true] at h ⊢
  exact fun glob hglob => h glob (hsubset hglob)

/-! ## What is excluded -/

theorem filterMap_flatMap_globsOf (text : String) :
    ((Text.lines text.toList).filterMap patternOf?).flatMap globsOf = globsOfText text := by
  rw [List.filterMap_eq_flatMap_toList, List.flatMap_assoc]
  rfl

/-- An ignore file that can be used excludes what one of its globs matches. -/
theorem excludes_ofText_iff {text : String} (h : IsUsable text) {path : String} :
    (ofText text).excludes path = true ↔
      path ≠ "" ∧ ∃ glob ∈ globsOfText text, glob.isMatch path = true := by
  have husable : Glob.areUsable (globsOfText text) = true := h
  rw [ofText, filterMap_flatMap_globsOf, if_pos husable, excludes, Bool.and_eq_true,
    List.any_eq_true, Bool.not_eq_true', String.isEmpty_eq_false_iff]

/-- More lines exclude more. -/
theorem excludes_of_lines {a b : String} (h : IsUsable b)
    (hlines : ∀ line ∈ Text.lines a.toList, ¬ IsIdleLine line → HasLine b line)
    {path : String} (hpath : (ofText a).excludes path = true) :
    (ofText b).excludes path = true := by
  have hsubset := globsOfText_subset hlines
  obtain ⟨hne, glob, hglob, hmatch⟩ := (excludes_ofText_iff (h.of_subset hsubset)).1 hpath
  exact (excludes_ofText_iff h).2 ⟨hne, glob, hsubset hglob, hmatch⟩

/-- Lines that are put behind others exclude what they exclude without them. -/
theorem excludes_append_newline {a b : String} (h : IsUsable (a ++ "\n" ++ b)) (path : String) :
    (ofText (a ++ "\n" ++ b)).excludes path =
      ((ofText a).excludes path || (ofText b).excludes path) := by
  have hglobs := globsOfText_append_newline a b
  have ha : IsUsable a := h.of_subset (hglobs ▸ List.subset_append_left ..)
  have hb : IsUsable b := h.of_subset (hglobs ▸ List.subset_append_right ..)
  rw [Bool.eq_iff_iff, Bool.or_eq_true, excludes_ofText_iff h, excludes_ofText_iff ha,
    excludes_ofText_iff hb, hglobs]
  simp only [List.mem_append, or_and_right, exists_or, and_or_left]

end Exclusion

namespace Scanner

/-! ## What is found -/

/-- The text of the ignore file of a root. One that is missing or cannot be read is empty. -/
def ignoreText (scanner : Scanner) (files : Files) (root : Path) : String :=
  (files.readText? (root.join scanner.ignoreFile)).getD ""

theorem exclusion_eq (scanner : Scanner) (files : Files) (root : Path) :
    scanner.exclusion files root = .ofText (scanner.ignoreText files root) := by
  unfold exclusion ignoreText
  cases files.readText? (root.join scanner.ignoreFile) with
  | some text => rfl
  | none => rfl

/-- An entry is at the path of its file. -/
theorem path_of_mem_extractTodos {path : Path} {text : String} {entry : TodoEntry}
    (h : entry ∈ extractTodos path text) : entry.path = path := by
  obtain ⟨numbered, -, hentry⟩ := List.mem_filterMap.1 h
  obtain ⟨id, -, rfl⟩ := Option.map_eq_some_iff.1 hentry
  rfl

section

variable {scanner : Scanner} {aside : Path → Bool} {files files' : Files} {root : Path}

/-- The text of a file below a root that a scan looks at, unless the file is one of those set aside. -/
def otherTextOf? (scanner : Scanner) (aside : Path → Bool) (root : Path)
    (file : List String × ByteArray) : Option (List String × String) :=
  (scanner.textOf? root file).filter fun found => !aside (pathBelow root found.1)

theorem otherTextOf?_eq_none {names : List String} (h : aside (pathBelow root names) = true)
    (content : ByteArray) : scanner.otherTextOf? aside root (names, content) = none := by
  rw [otherTextOf?, Option.filter_eq_none_iff]
  rintro ⟨found, text⟩ hfound
  obtain ⟨rfl, -, -⟩ := textOf?_eq_some_iff.1 hfound
  simp [h]

/-- In a second view of the files the ignore file of a root has all lines that say something in the first,
and it can be used. The files of the root are the same to the scanner but for those that are set aside, as the
ignore file itself is to be where the scanner looks at it. -/
structure AddsLines (scanner : Scanner) (aside : Path → Bool) (files files' : Files) (root : Path) :
    Prop where
  looksSame : Option.Rel (Tree.LooksSame (scanner.otherTextOf? aside root) []) (files.tree? root)
    (files'.tree? root)
  hasLines : ∀ line ∈ Text.lines (scanner.ignoreText files root).toList,
    ¬ Exclusion.IsIdleLine line → Exclusion.HasLine (scanner.ignoreText files' root) line
  isUsable : Exclusion.IsUsable (scanner.ignoreText files' root)

/-- Where lines are put behind those of the ignore file and nothing else is changed, lines are added. -/
theorem AddsLines.of_append {tree : Tree} {names : List String} {content : ByteArray} {a b : String}
    (htree : files.tree? root = some tree) (htree' : files'.tree? root = some (tree.replace content names))
    (htext : scanner.ignoreText files root = a) (htext' : scanner.ignoreText files' root = a ++ "\n" ++ b)
    (husable : Exclusion.IsUsable (a ++ "\n" ++ b)) :
    scanner.AddsLines (fun path => path == pathBelow root names) files files' root := by
  refine ⟨?_, ?_, ?_⟩
  · rw [htree, htree']
    have hnone (bytes : ByteArray) : scanner.otherTextOf? (fun path => path == pathBelow root names) root
        ([] ++ names, bytes) = none := by
      apply otherTextOf?_eq_none
      exact beq_self_eq_true (pathBelow root names)
    exact .some (.replace (fun bytes bytes' => (hnone bytes).trans (hnone bytes').symm) content tree)
  · rw [htext, htext']
    exact fun line hline hactive => Exclusion.hasLine_append_newline hline hactive b
  · rw [htext']
    exact husable

theorem filter_textsOf (exclusion : Exclusion) (tree : Tree) :
    (scanner.textsOf root exclusion tree).filter (fun found => !aside (pathBelow root found.1)) =
      (tree.walk (fun names => !exclusion.excludes (relativeText names)) []).filterMap
        (scanner.otherTextOf? aside root) := by
  rw [textsOf, List.filter_filterMap]
  rfl

/-- With more lines in its ignore file a scan looks at a part of the texts below a root that are not set
aside. -/
theorem AddsLines.textsBelow_sublist (h : scanner.AddsLines aside files files' root) :
    ((scanner.textsBelow files' root).filter fun found => !aside (pathBelow root found.1)).Sublist
      ((scanner.textsBelow files root).filter fun found => !aside (pathBelow root found.1)) := by
  have hlooks := h.looksSame
  unfold textsBelow
  rw [exclusion_eq, exclusion_eq]
  generalize files.tree? root = first, files'.tree? root = second at hlooks
  cases hlooks with
  | none => exact List.Sublist.refl _
  | @some tree tree' hsame =>
      dsimp only
      rw [filter_textsOf, filter_textsOf, ← hsame.filterMap_walk]
      refine (Tree.walk_sublist (fun names hnames => ?_) [] tree).filterMap _
      -- What is entered with the lines in place is entered without them.
      rw [Bool.not_eq_true'] at hnames ⊢
      refine Bool.eq_false_iff.2 fun hexcluded => ?_
      rw [Exclusion.excludes_of_lines h.isUsable h.hasLines hexcluded] at hnames
      contradiction

theorem filter_entriesBelow (found : List (List String × String)) :
    (entriesBelow root found).filter (fun entry => !aside entry.path) =
      entriesBelow root (found.filter fun file => !aside (pathBelow root file.1)) := by
  induction found with
  | nil => rfl
  | cons file found ih =>
      obtain ⟨names, text⟩ := file
      unfold entriesBelow at ih ⊢
      rw [List.flatMap_cons, List.filter_append, ih, List.filter_cons]
      cases hfile : aside (pathBelow root names) with
      | false =>
          have hall : ∀ entry ∈ extractTodos (pathBelow root names) text,
              (!aside entry.path) = true := by
            intro entry hentry
            rw [path_of_mem_extractTodos hentry, hfile]
            rfl
          rw [List.filter_eq_self.2 hall]
          rfl
      | true =>
          have hnone : ∀ entry ∈ extractTodos (pathBelow root names) text,
              ¬ (!aside entry.path) = true := by
            intro entry hentry
            rw [path_of_mem_extractTodos hentry, hfile]
            exact Bool.false_ne_true
          rw [List.filter_eq_nil_iff.2 hnone]
          rfl

theorem AddsLines.scanRoot_sublist (h : scanner.AddsLines aside files files' root) :
    ((scanner.scanRoot files' root).filter fun entry => !aside entry.path).Sublist
      ((scanner.scanRoot files root).filter fun entry => !aside entry.path) := by
  rw [scanRoot_eq_entriesBelow, scanRoot_eq_entriesBelow]
  split
  · exact List.Sublist.refl _
  · rw [filter_entriesBelow, filter_entriesBelow]
    exact h.textsBelow_sublist.flatMap _

end

/-- With more lines in the ignore files of its roots a scan ends the same way. Of the files that are not set
aside it finds a part of what it found, in the same order. -/
theorem scan_sublist {scanner : Scanner} {aside : Path → Bool} {files files' : Files}
    {roots : List Path} (h : ∀ root ∈ roots, scanner.AddsLines aside files files' root)
    (entries : List TodoEntry) (isCancelled : Bool) :
    (scanner.scan files' roots entries isCancelled).status =
        (scanner.scan files roots entries isCancelled).status ∧
      ((scanner.scan files' roots entries isCancelled).entries.filter
          fun entry => !aside entry.path).Sublist
        ((scanner.scan files roots entries isCancelled).entries.filter
          fun entry => !aside entry.path) := by
  have hroots : ((roots.flatMap (scanner.scanRoot files')).filter
        fun entry => !aside entry.path).Sublist
      ((roots.flatMap (scanner.scanRoot files)).filter fun entry => !aside entry.path) := by
    rw [List.filter_flatMap, List.filter_flatMap]
    exact List.Sublist.flatMap_right roots fun root hroot => (h root hroot).scanRoot_sublist
  unfold scan
  split
  · exact ⟨rfl, List.Sublist.refl _⟩
  · refine ⟨rfl, ?_⟩
    rw [List.filter_append, List.filter_append]
    exact (List.Sublist.refl _).append hroots

end Scanner

/-- Lines of ignore files act independently. A text in two parts excludes what one of them excludes. Texts
with the same lines exclude the same, whatever their order and number and the blanks around them, and lines
that say nothing do not count. With more lines in the ignore files of its roots a scan ends the same way, and what it finds in files
that are not set aside it found before, in the same order. Only files that may change with the lines are to be
set aside, so an ignore file that the scan does not look at need not be. -/
theorem ignoreLines_independent :
    (∀ a b : String, Exclusion.IsUsable (a ++ "\n" ++ b) → ∀ path,
      (Exclusion.ofText (a ++ "\n" ++ b)).excludes path =
        ((Exclusion.ofText a).excludes path || (Exclusion.ofText b).excludes path)) ∧
    (∀ a b : String, Exclusion.IsUsable a →
      (∀ line, ¬ Exclusion.IsIdleLine line → (Exclusion.HasLine a line ↔ Exclusion.HasLine b line)) →
      ∀ path, (Exclusion.ofText a).excludes path = (Exclusion.ofText b).excludes path) ∧
    ∀ (scanner : Scanner) (aside : Path → Bool) (files files' : Files) (roots : List Path)
      (entries : List TodoEntry) (isCancelled : Bool),
      (∀ root ∈ roots, scanner.AddsLines aside files files' root) →
      (scanner.scan files' roots entries isCancelled).status =
          (scanner.scan files roots entries isCancelled).status ∧
        ((scanner.scan files' roots entries isCancelled).entries.filter
            fun entry => !aside entry.path).Sublist
          ((scanner.scan files roots entries isCancelled).entries.filter
            fun entry => !aside entry.path) := by
  refine ⟨fun a b h path => Exclusion.excludes_append_newline h path, ?_, ?_⟩
  · intro a b ha hlines path
    have hasB : ∀ line ∈ Text.lines a.toList, ¬ Exclusion.IsIdleLine line →
        Exclusion.HasLine b line :=
      fun line hline hactive => (hlines line hactive).1 ⟨line, hline, rfl⟩
    have hasA : ∀ line ∈ Text.lines b.toList, ¬ Exclusion.IsIdleLine line →
        Exclusion.HasLine a line :=
      fun line hline hactive => (hlines line hactive).2 ⟨line, hline, rfl⟩
    have hb : Exclusion.IsUsable b := ha.of_subset (Exclusion.globsOfText_subset hasA)
    rw [Bool.eq_iff_iff]
    exact ⟨Exclusion.excludes_of_lines hb hasB, Exclusion.excludes_of_lines ha hasA⟩
  · intro scanner aside files files' roots entries isCancelled h
    exact Scanner.scan_sublist h entries isCancelled

/-- Behind `dist` a comment, the line `out` twice, an empty line and a line that is no glob are added. The scan
looks at the ignore file, too, in which the comment is an entry. -/
theorem ignoreLines_independent_out :
    let old := "dist"
    let more := "# TODO(baseline/grid)\nout\n\nx[\nout\n"
    let new := old ++ "\n" ++ more
    let view := fun text : String => Files.ofCaptures ⟨"/"⟩ [
      (⟨"src"⟩, .directory [("ignore.md", .file text.toUTF8),
        ("out", .directory [("a.js", .file "// TODO(baseline/grid)".toUTF8)])]),
      (⟨"src/ignore.md"⟩, .file text.toUTF8)]
    let scanner : Scanner := ⟨["js", "md"], ⟨"ignore.md"⟩⟩
    let aside := fun path : Path => path == Scanner.pathBelow ⟨"src"⟩ ["ignore.md"]
    (Exclusion.ofText new).excludes "out/a.js" = true ∧
      (Exclusion.ofText " out\ndist").excludes "out/a.js" = true ∧
      (∀ root ∈ [⟨"src"⟩], scanner.AddsLines aside (view old) (view new) root) ∧
      ((scanner.scan (view new) [⟨"src"⟩] [] false).entries.filter
          fun entry => !aside entry.path).Sublist
        ((scanner.scan (view old) [⟨"src"⟩] [] false).entries.filter
          fun entry => !aside entry.path) := by
  intro old more new view scanner aside
  obtain ⟨happend, hlines, hscan⟩ := ignoreLines_independent
  have hnew : Exclusion.IsUsable new := by
    unfold Exclusion.IsUsable
    decide +kernel
  have hexcluded : (Exclusion.ofText new).excludes "out/a.js" = true := by
    rw [happend old more hnew]
    decide +kernel
  have hnewLines : Text.lines new.toList = ["dist".toList, "# TODO(baseline/grid)".toList,
      "out".toList, [], "x[".toList, "out".toList] := by
    decide +kernel
  have hotherLines : Text.lines " out\ndist".toList = [" out".toList, "dist".toList] := by
    decide +kernel
  have hsame : ∀ line, ¬ Exclusion.IsIdleLine line →
      (Exclusion.HasLine new line ↔ Exclusion.HasLine " out\ndist" line) := by
    intro line hactive
    have hcomment : Unicode.trimBy Unicode.isBlank "# TODO(baseline/grid)".toList ≠
        Unicode.trimBy Unicode.isBlank line := by
      have hidle : Exclusion.IsIdleLine "# TODO(baseline/grid)".toList :=
        .comment " TODO(baseline/grid)".toList (by decide +kernel)
      exact fun h => hactive (hidle.congr h)
    have hempty : Unicode.trimBy Unicode.isBlank [] ≠ Unicode.trimBy Unicode.isBlank line := by
      have hidle : Exclusion.IsIdleLine [] := .empty (by simp [Unicode.trimBy])
      exact fun h => hactive (hidle.congr h)
    have hunread : Unicode.trimBy Unicode.isBlank "x[".toList ≠
        Unicode.trimBy Unicode.isBlank line := by
      have hidle : Exclusion.IsIdleLine "x[".toList :=
        .unread "x[".toList (by decide +kernel) (by rfl) (by rfl)
      exact fun h => hactive (hidle.congr h)
    have hblank : Unicode.trimBy Unicode.isBlank " out".toList =
        Unicode.trimBy Unicode.isBlank "out".toList := by
      decide +kernel
    unfold Exclusion.HasLine
    rw [hnewLines, hotherLines]
    simp only [List.mem_cons, List.not_mem_nil, or_false, exists_eq_or_imp, exists_eq_left, hcomment,
      hempty, hunread, hblank, false_or, or_self]
    exact or_comm
  have hread (text : String) : scanner.ignoreText (view text) ⟨"src"⟩ = text := by
    have htext : (view text).readText? (Path.join ⟨"src"⟩ ⟨"ignore.md"⟩) =
        String.fromUTF8? text.toUTF8 := by
      rfl
    rw [Scanner.ignoreText, htext, Scanner.fromUTF8?_toUTF8]
    rfl
  have hadds : ∀ root ∈ [⟨"src"⟩], scanner.AddsLines aside (view old) (view new) root := by
    intro root hroot
    obtain rfl := List.mem_singleton.1 hroot
    have htree (text : String) : (view text).tree? ⟨"src"⟩ =
        some (.directory [("ignore.md", .file text.toUTF8),
          ("out", .directory [("a.js", .file "// TODO(baseline/grid)".toUTF8)])]) := by
      rfl
    exact .of_append (htree old) (htree new) (hread old) (hread new) hnew
  refine ⟨hexcluded, ?_, hadds, ?_⟩
  · rw [← hlines _ _ hnew hsame]
    exact hexcluded
  · exact (hscan scanner aside (view old) (view new) [⟨"src"⟩] [] false hadds).2

/-- An ignore file that a scan looks at gains an entry by a line that says nothing. -/
theorem scan_gains_entry_of_ignoreFile :
    let old := ""
    let line := "# TODO(baseline/grid)"
    let new := old ++ "\n" ++ line
    let scan := fun text : String => Scanner.scan ⟨["md"], ⟨"ignore.md"⟩⟩
      ((Scanner.oneFile "src" "ignore.md" text).files ⟨"/"⟩) [⟨"src"⟩] [] false
    Exclusion.IsUsable new ∧ Exclusion.IsIdleLine line.toList ∧
      (scan old).entries = [] ∧
      (scan new).entries = [⟨"grid", "ignore.md", ⟨"src/ignore.md"⟩, 2⟩] ∧
      ¬ (scan new).entries.Sublist (scan old).entries := by
  intro old line new scan
  have hfolder : Path.IsName "src" := by decide
  have hname : Path.IsName "ignore.md" := by decide
  have husable : Exclusion.IsUsable new := by
    unfold Exclusion.IsUsable
    decide +kernel
  have hidle : Exclusion.IsIdleLine line.toList :=
    .comment " TODO(baseline/grid)".toList (by decide +kernel)
  have hscan (text : String) (h : (Exclusion.ofText text).excludes "ignore.md" = false) :
      (scan text).entries = extractTodos ⟨"src/ignore.md"⟩ text := by
    have hallowed : hasAllowedExtension (Scanner.pathBelow ⟨"src"⟩ ["ignore.md"]) ["md"] = true := by
      decide +kernel
    have hinput : Path.isSame ⟨"src"⟩ Scanner.standardInput = false := by
      decide +kernel
    have hroots : [(⟨"src"⟩ : Path)].filter (fun root => !root.isSame Scanner.standardInput) =
        [⟨"src"⟩] := by
      rw [List.filter_cons, hinput]
      rfl
    show (Scanner.scan _ _ _ _ false).entries = _
    rw [Scanner.scan_eq, hroots]
    dsimp only
    rw [List.nil_append, List.flatMap_singleton,
      Scanner.textsBelow_oneFile text hfolder hname hallowed h]
    exact List.flatMap_singleton _ _
  have hold : (scan old).entries = [] := by
    rw [hscan old (by decide +kernel)]
    decide +kernel
  have hnew : (scan new).entries = [⟨"grid", "ignore.md", ⟨"src/ignore.md"⟩, 2⟩] := by
    rw [hscan new (by decide +kernel)]
    decide +kernel
  refine ⟨husable, hidle, hold, hnew, ?_⟩
  rw [hold, hnew, List.sublist_nil]
  exact List.cons_ne_nil _ _

end FeatureRefs
