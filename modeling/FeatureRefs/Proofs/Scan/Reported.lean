import Mathlib.Data.List.Flatten
import FeatureRefs.Proofs.Files.Plain
import FeatureRefs.Scan.Scanner

/-!
# What a scan reports

On a disk without links, the files that a scan reports below a root are told by their paths: the file
can be read as text, it has an allowed extension, and neither it nor a directory on the way from the
root is excluded. The entries of these files come in the strict order of the names, root by root,
behind what was there before. A file that cannot be read is one whose bytes are no text, and it is
passed over like a root that is missing.

A root that is written as a dash stands for standard input. A directory of that name is not looked
at, so its entries are missing, and only in that case: no other root loses any.
-/

namespace FeatureRefs

/-! ## Paths below a root -/

/-- What is found at a path below a root is what the tree of the root has under the names. -/
theorem Disk.tree?_pathBelow {disk : Disk} (h : disk.root.IsPlain) (directory : Path) {root : Path}
    (hroot : root.text.toList ≠ []) {names : List String} (hnames : ∀ name ∈ names, Path.IsName name) :
    disk.tree? directory (Scanner.pathBelow root names) =
      (disk.tree? directory root).bind (Tree.at? names) := by
  induction names generalizing root with
  | nil =>
      show disk.tree? directory root = (disk.tree? directory root).bind some
      cases disk.tree? directory root with
      | none => rfl
      | some tree => rfl
  | cons name names ih =>
      obtain ⟨hname, hnames⟩ := List.forall_mem_cons.1 hnames
      have hjoined : (root.join ⟨name⟩).text.toList ≠ [] := by
        rw [Path.join_of_relative hname.isAbsolute_eq_false]
        simp [hroot]
      show disk.tree? directory (Scanner.pathBelow (root.join ⟨name⟩) names) = _
      rw [ih hjoined hnames, Disk.tree?_join_name h directory hroot hname, Option.bind_assoc]
      apply Option.bind_congr
      intro tree htree
      exact (tree.at?_cons name names).symm

namespace Scanner

/-! ## Reported files -/

/-- A file below a root that a scan reports, given by the names that lead to it from the root and by its
text. -/
structure IsReported (scanner : Scanner) (files : Files) (root : Path) (names : List String)
    (text : String) : Prop where
  isDirectory : ∃ entries, files.tree? root = some (.directory entries)
  isBelow : names ≠ []
  areNames : ∀ name ∈ names, Path.IsName name
  reads : files.readText? (pathBelow root names) = some text
  isAllowed : hasAllowedExtension (pathBelow root names) scanner.extensions = true
  isIncluded : ∀ part, part <+: names → part ≠ [] →
    (scanner.exclusion files root).excludes (relativeText part) = false

/-- All files that a scan reports below a root, in the strict order of their names. -/
structure AreReported (scanner : Scanner) (files : Files) (root : Path)
    (found : List (List String × String)) : Prop where
  inOrder : found.Pairwise fun a b => List.Lex (· < ·) a.1 b.1
  mem_iff : ∀ names text, (names, text) ∈ found ↔ scanner.IsReported files root names text

/-- The entries of files below a root. -/
def entriesBelow (root : Path) (found : List (List String × String)) : List TodoEntry :=
  found.flatMap fun (names, text) => extractTodos (pathBelow root names) text

/-- The text of a file below a root, if a scan looks at it and it has one. -/
def textOf? (scanner : Scanner) (root : Path) (file : List String × ByteArray) :
    Option (List String × String) :=
  if hasAllowedExtension (pathBelow root file.1) scanner.extensions then
    (String.fromUTF8? file.2).map (file.1, ·)
  else
    none

/-- The texts of the files of a tree at a root that a scan looks at. -/
def textsOf (scanner : Scanner) (root : Path) (exclusion : Exclusion) (tree : Tree) :
    List (List String × String) :=
  (tree.walk (fun names => !exclusion.excludes (relativeText names)) []).filterMap
    (scanner.textOf? root)

/-- The texts of the files below a root that a scan looks at. -/
def textsBelow (scanner : Scanner) (files : Files) (root : Path) : List (List String × String) :=
  match files.tree? root with
  | none => []
  | some tree => scanner.textsOf root (scanner.exclusion files root) tree

theorem textOf?_eq_some_iff {scanner : Scanner} {root : Path} {names names' : List String}
    {content : ByteArray} {text : String} :
    scanner.textOf? root (names, content) = some (names', text) ↔
      names = names' ∧ hasAllowedExtension (pathBelow root names) scanner.extensions = true ∧
        String.fromUTF8? content = some text := by
  simp only [textOf?, Option.ite_none_right_eq_some, Option.map_eq_some_iff, Prod.mk.injEq]
  constructor
  · rintro ⟨hallowed, text, htext, rfl, rfl⟩
    exact ⟨rfl, hallowed, htext⟩
  · rintro ⟨rfl, hallowed, htext⟩
    exact ⟨hallowed, text, htext, rfl, rfl⟩

theorem flatMap_entriesOf (scanner : Scanner) (root : Path)
    (found : List (List String × ByteArray)) :
    ((found.map fun (names, content) => (pathBelow root names, content)).filter fun file =>
        hasAllowedExtension file.1 scanner.extensions).flatMap entriesOf =
      entriesBelow root (found.filterMap (scanner.textOf? root)) := by
  induction found with
  | nil => rfl
  | cons file found ih =>
      obtain ⟨names, content⟩ := file
      unfold entriesBelow at ih ⊢
      cases hallowed : hasAllowedExtension (pathBelow root names) scanner.extensions with
      | false => simp [textOf?, hallowed, ih]
      | true =>
          cases htext : String.fromUTF8? content with
          | none => simp [textOf?, entriesOf, hallowed, htext, ih]
          | some text => simp [textOf?, entriesOf, hallowed, htext, ih]

theorem isAllowed_of_mem_enumerated {scanner : Scanner} {files : Files} {root : Path}
    {file : Path × ByteArray} (h : file ∈ scanner.enumerated files root) :
    hasAllowedExtension file.1 scanner.extensions = true := by
  unfold enumerated filesBelow at h
  split at h
  · contradiction
  · split at h
    · contradiction
    · exact (List.mem_filter.1 h).2

/-- The second look at the extension drops nothing: a scan reports the entries of all files that it reads. -/
theorem scanRoot_eq (scanner : Scanner) (files : Files) (root : Path) :
    scanner.scanRoot files root = (scanner.enumerated files root).flatMap entriesOf := by
  unfold scanRoot
  apply List.flatMap_congr
  intro file hfile
  rw [if_pos (isAllowed_of_mem_enumerated hfile)]

/-- The entries of a scan below a root are those of the texts that it looks at. Standard input has none. -/
theorem scanRoot_eq_entriesBelow (scanner : Scanner) (files : Files) (root : Path) :
    scanner.scanRoot files root =
      if root.isSame standardInput then []
      else entriesBelow root (scanner.textsBelow files root) := by
  rw [scanRoot_eq, enumerated]
  split
  · rfl
  · unfold filesBelow textsBelow
    cases files.tree? root with
    | none => rfl
    | some tree => exact scanner.flatMap_entriesOf root _

theorem mem_textsOf_iff {scanner : Scanner} {root : Path} {exclusion : Exclusion} {tree : Tree}
    (h : tree.IsProper) {names : List String} {text : String} :
    (names, text) ∈ scanner.textsOf root exclusion tree ↔
      (tree.at? names).bind Tree.text? = some text ∧
        hasAllowedExtension (pathBelow root names) scanner.extensions = true ∧
        ∀ part, part <+: names → part ≠ [] → exclusion.excludes (relativeText part) = false := by
  have henter : Tree.MayEnter (fun names => !exclusion.excludes (relativeText names)) [] names ↔
      ∀ part, part <+: names → part ≠ [] → exclusion.excludes (relativeText part) = false := by
    simp only [Tree.MayEnter, List.nil_append, Bool.not_eq_true']
  rw [textsOf, List.mem_filterMap, ← henter]
  constructor
  · rintro ⟨⟨names', content⟩, hfound, htext⟩
    obtain ⟨rfl, hallowed, hread⟩ := textOf?_eq_some_iff.1 htext
    obtain ⟨_, rfl, hfile, hpath⟩ := h.mem_walk_iff.1 hfound
    refine ⟨?_, hallowed, hpath⟩
    rw [hfile]
    exact hread
  · rintro ⟨hread, hallowed, hpath⟩
    obtain ⟨found, hfound, htext⟩ := Option.bind_eq_some_iff.1 hread
    cases found with
    | directory entries => simp [Tree.text?] at htext
    | file content =>
        have hfile : (names, content) ∈
            tree.walk (fun names => !exclusion.excludes (relativeText names)) [] :=
          h.mem_walk_iff.2 ⟨names, rfl, hfound, hpath⟩
        exact ⟨(names, content), hfile, textOf?_eq_some_iff.2 ⟨rfl, hallowed, htext⟩⟩

theorem pairwise_textsOf {scanner : Scanner} {root : Path} {exclusion : Exclusion} {tree : Tree}
    (h : tree.IsProper) :
    (scanner.textsOf root exclusion tree).Pairwise fun a b => List.Lex (· < ·) a.1 b.1 := by
  rw [textsOf, List.pairwise_filterMap]
  refine (h.pairwise_walk _ []).imp ?_
  rintro ⟨names, content⟩ ⟨names', content'⟩ hlex ⟨first, text⟩ hfirst ⟨second, text'⟩ hsecond
  obtain ⟨rfl, -, -⟩ := textOf?_eq_some_iff.1 hfirst
  obtain ⟨rfl, -, -⟩ := textOf?_eq_some_iff.1 hsecond
  exact hlex

theorem areReported_textsBelow {scanner : Scanner} {disk : Disk} (h : disk.root.IsPlain)
    {directory root : Path}
    (hroot : ∀ content, (disk.files directory).tree? root ≠ some (.file content)) :
    scanner.AreReported (disk.files directory) root
      (scanner.textsBelow (disk.files directory) root) := by
  cases htree : (disk.files directory).tree? root with
  | none =>
      have hnone : scanner.textsBelow (disk.files directory) root = [] := by
        rw [textsBelow, htree]
      rw [hnone]
      refine ⟨List.Pairwise.nil, fun names text => iff_of_false (by simp) ?_⟩
      -- Only below a directory there are files to report.
      intro hreported
      obtain ⟨entries, hentries⟩ := hreported.isDirectory
      rw [htree] at hentries
      contradiction
  | some tree =>
      have hproper : tree.IsProper := Disk.isProper_of_tree? h htree
      have htexts : scanner.textsBelow (disk.files directory) root =
          scanner.textsOf root (scanner.exclusion (disk.files directory) root) tree := by
        rw [textsBelow, htree]
      rw [htexts]
      refine ⟨pairwise_textsOf hproper, fun names text => ?_⟩
      rw [mem_textsOf_iff hproper]
      -- What a path below the root reads is the text of the file in the tree of the root.
      have hread (hnames : ∀ name ∈ names, Path.IsName name) :
          (disk.files directory).readText? (pathBelow root names) =
            (tree.at? names).bind Tree.text? := by
        have hbelow : (disk.files directory).tree? (pathBelow root names) = tree.at? names := by
          have hroot := Disk.tree?_pathBelow h directory (Disk.ne_nil_of_tree? htree) hnames
          rwa [show disk.tree? directory root = some tree from htree, Option.bind_some] at hroot
        rw [Files.readText?, hbelow]
      constructor
      · rintro ⟨htext, hallowed, hincluded⟩
        obtain ⟨found, hfound, hfile⟩ := Option.bind_eq_some_iff.1 htext
        have hnames : ∀ name ∈ names, Path.IsName name := hproper.isName_of_at? hfound
        cases tree with
        | file content => exact absurd htree (hroot content)
        | directory entries =>
            refine ⟨⟨entries, htree⟩, ?_, hnames, (hread hnames).trans htext, hallowed, hincluded⟩
            rintro rfl
            obtain rfl := Option.some.inj hfound
            simp [Tree.text?] at hfile
      · intro hreported
        exact ⟨(hread hreported.areNames).symm.trans hreported.reads, hreported.isAllowed,
          hreported.isIncluded⟩

/-! ## A disk with one file -/

/-- A disk with one directory, in which there is one file. -/
def oneFile (folder name text : String) : Disk :=
  ⟨.directory [(folder, .directory [(name, .file text.toUTF8)])]⟩

theorem fromUTF8?_toUTF8 (text : String) : String.fromUTF8? text.toUTF8 = some text := by
  have hvalid : text.toUTF8.IsValidUTF8 := text.isValidUTF8
  unfold String.fromUTF8?
  rw [dif_pos hvalid]
  rfl

section

variable {folder name : String} (text : String)

theorem isPlain_oneFile (hfolder : Path.IsName folder) (hname : Path.IsName name) :
    (oneFile folder name text).root.IsPlain := by
  refine .directory (by simp) (by simpa using hfolder) ?_
  simp only [List.mem_singleton, forall_eq]
  refine .directory (by simp) (by simpa using hname) ?_
  simp only [List.mem_singleton, forall_eq]
  exact .file text.toUTF8

theorem tree?_oneFile (hfolder : Path.IsName folder) (hname : Path.IsName name) {other : String}
    (hother : Path.IsName other) :
    ((oneFile folder name text).files ⟨"/"⟩).tree? ⟨other⟩ =
      Tree.at? [other] (.directory [(folder, .directory [(name, .file text.toUTF8)])]) := by
  have hplain : (oneFile folder name text).root.IsPlain := isPlain_oneFile text hfolder hname
  have hroot : (oneFile folder name text).locate? Disk.linkLimit [] (Path.segments "/".toList) =
      some [] := by
    have hsegments : Path.segments "/".toList = [[], []] := rfl
    rw [hsegments, Disk.locate?_empty_cons]
    simp [oneFile, Disk.locate?, Disk.Node.at?, Path.isSkipped]
  have htree : (oneFile folder name text).root.tree =
      .directory [(folder, .directory [(name, .file text.toUTF8)])] := rfl
  show (oneFile folder name text).tree? ⟨"/"⟩ ⟨other⟩ = _
  rw [Disk.tree?_eq hplain ⟨"/"⟩ hother.ne_nil, Disk.locate?_join_name hplain _ hother, hroot,
    Option.bind_some, Disk.locate?_name hplain hother, List.nil_append, ← htree,
    Disk.Node.at?_tree]
  cases hfound : (oneFile folder name text).root.at? [other] with
  | none => rfl
  | some node => rw [Option.map_some, Option.bind_some, hfound]

theorem tree?_oneFile_folder (hfolder : Path.IsName folder) (hname : Path.IsName name) :
    ((oneFile folder name text).files ⟨"/"⟩).tree? ⟨folder⟩ =
      some (.directory [(name, .file text.toUTF8)]) := by
  rw [tree?_oneFile text hfolder hname hfolder, Tree.at?, List.lookup_cons_self]
  rfl

theorem readText?_oneFile (hfolder : Path.IsName folder) (hname : Path.IsName name) :
    ((oneFile folder name text).files ⟨"/"⟩).readText? (pathBelow ⟨folder⟩ [name]) = some text := by
  have hplain : (oneFile folder name text).root.IsPlain := isPlain_oneFile text hfolder hname
  have hnames : ∀ other ∈ [name], Path.IsName other := by simpa using hname
  have hfile : ((oneFile folder name text).files ⟨"/"⟩).tree? (pathBelow ⟨folder⟩ [name]) =
      some (.file text.toUTF8) := by
    refine (Disk.tree?_pathBelow hplain ⟨"/"⟩ hfolder.ne_nil hnames).trans ?_
    refine (congrArg (Option.bind · (Tree.at? [name])) (tree?_oneFile_folder text hfolder hname)).trans ?_
    simp [Tree.at?]
  rw [Files.readText?, hfile]
  exact fromUTF8?_toUTF8 text

/-- The file is reported, if its extension is allowed and it is not the ignore file. -/
theorem isReported_oneFile (hfolder : Path.IsName folder) (hname : Path.IsName name)
    (hignore : ".gitignore" ≠ name) {extensions : List String}
    (hallowed : hasAllowedExtension (pathBelow ⟨folder⟩ [name]) extensions = true) :
    IsReported ⟨extensions, ⟨".gitignore"⟩⟩ ((oneFile folder name text).files ⟨"/"⟩) ⟨folder⟩
      [name] text := by
  have hplain : (oneFile folder name text).root.IsPlain := isPlain_oneFile text hfolder hname
  have htree := tree?_oneFile_folder text hfolder hname
  have hnames : ∀ other ∈ [name], Path.IsName other := by simpa using hname
  refine ⟨⟨_, htree⟩, by simp, hnames, readText?_oneFile text hfolder hname, hallowed, ?_⟩
  have hnone : exclusion ⟨extensions, ⟨".gitignore"⟩⟩
      ((oneFile folder name text).files ⟨"/"⟩) ⟨folder⟩ = {} := by
    have hignoreName : Path.IsName ".gitignore" := by decide
    have hmissing : ((oneFile folder name text).files ⟨"/"⟩).tree?
        (Path.join ⟨folder⟩ ⟨".gitignore"⟩) = none := by
      refine (Disk.tree?_join_name hplain ⟨"/"⟩ hfolder.ne_nil hignoreName).trans ?_
      refine (congrArg (Option.bind · (Tree.at? [".gitignore"])) htree).trans ?_
      simp [Tree.at?, List.lookup_cons, beq_false_of_ne hignore]
    simp only [exclusion, Files.readText?, hmissing, Option.bind_none]
  intro part _ _
  rw [hnone]
  simp [Exclusion.excludes]

/-- The file is looked at although it is the ignore file, if it does not exclude itself. -/
theorem textsBelow_oneFile (hfolder : Path.IsName folder) (hname : Path.IsName name)
    {extensions : List String}
    (hallowed : hasAllowedExtension (pathBelow ⟨folder⟩ [name]) extensions = true)
    (hincluded : (Exclusion.ofText text).excludes name = false) :
    textsBelow ⟨extensions, ⟨name⟩⟩ ((oneFile folder name text).files ⟨"/"⟩) ⟨folder⟩ =
      [([name], text)] := by
  have hexclusion : exclusion ⟨extensions, ⟨name⟩⟩ ((oneFile folder name text).files ⟨"/"⟩)
      ⟨folder⟩ = .ofText text := by
    have hread : ((oneFile folder name text).files ⟨"/"⟩).readText? (Path.join ⟨folder⟩ ⟨name⟩) =
        some text :=
      readText?_oneFile text hfolder hname
    simp only [exclusion, hread]
  have hrelative : relativeText [name] = name := by
    simp [relativeText]
  have hfound : (Tree.directory [(name, .file text.toUTF8)]).walk
      (fun names => !(Exclusion.ofText text).excludes (relativeText names)) [] =
        [([name], text.toUTF8)] := by
    rw [Tree.walk_directory, List.mergeSort_singleton, List.flatMap_singleton, List.nil_append,
      hrelative, hincluded, Bool.not_false, if_pos rfl, Tree.walk_file]
  have htext : textOf? ⟨extensions, ⟨name⟩⟩ ⟨folder⟩ ([name], text.toUTF8) = some ([name], text) :=
    textOf?_eq_some_iff.2 ⟨rfl, hallowed, fromUTF8?_toUTF8 text⟩
  rw [textsBelow, tree?_oneFile_folder text hfolder hname, hexclusion]
  dsimp only
  rw [textsOf, hfound, List.filterMap_cons, htext]
  rfl

end

/-! ## Scans -/

/-- A scan adds the entries below its roots in the order of the roots. Standard input has none. -/
theorem scan_eq (scanner : Scanner) (files : Files) (roots : List Path) (entries : List TodoEntry) :
    scanner.scan files roots entries false =
      ⟨.complete, entries ++ (roots.filter fun root => !root.isSame standardInput).flatMap
        fun root => entriesBelow root (scanner.textsBelow files root)⟩ := by
  have hroots : roots.flatMap (scanner.scanRoot files) =
      (roots.filter fun root => !root.isSame standardInput).flatMap
        fun root => entriesBelow root (scanner.textsBelow files root) := by
    induction roots with
    | nil => rfl
    | cons root roots ih =>
        rw [List.flatMap_cons, ih, scanRoot_eq_entriesBelow]
        cases hinput : root.isSame standardInput with
        | true => simp [hinput]
        | false => simp [hinput]
  rw [scan, Bool.false_and, if_neg Bool.false_ne_true, hroots]

/-- Leaving out elements changes nothing exactly when they have nothing to add. -/
theorem flatMap_filter_eq_iff {α β : Type} {keep : α → Bool} {f : α → List β} {list : List α} :
    (list.filter keep).flatMap f = list.flatMap f ↔ ∀ a ∈ list, keep a = false → f a = [] := by
  induction list with
  | nil => simp
  | cons a list ih =>
      cases hkeep : keep a with
      | true => simp [hkeep, ih]
      | false =>
          simp only [List.filter_cons, hkeep, Bool.false_eq_true, if_false, List.flatMap_cons,
            List.forall_mem_cons, forall_const]
          constructor
          · intro h
            -- What is left of the others is no longer than they are, so `a` adds nothing.
            have hlength := congrArg List.length h
            rw [List.length_append] at hlength
            have hle : ((list.filter keep).flatMap f).length ≤ (list.flatMap f).length :=
              (List.filter_sublist.flatMap f).length_le
            have hnil : f a = [] := List.length_eq_zero_iff.1 (by omega)
            rw [hnil, List.nil_append] at h
            exact ⟨hnil, ih.1 h⟩
          · rintro ⟨hnil, hrest⟩
            rw [hnil, List.nil_append]
            exact ih.2 hrest

theorem ofExtensions_eq_ok {extensions : List String} (h : normalizeExtensions extensions ≠ [])
    (ignoreFile : String) :
    ofExtensions extensions ignoreFile = .ok ⟨normalizeExtensions extensions, ⟨ignoreFile⟩⟩ := by
  obtain ⟨first, others, hcons⟩ := List.exists_cons_of_ne_nil h
  rw [ofExtensions, hcons]

/-- On a disk without links, a scan of directories and of roots that are missing is complete and adds
the entries of the files to report below the roots that do not stand for standard input. These are
the entries below all roots exactly when there are none below the others. -/
theorem scan_plain {disk : Disk} (h : disk.root.IsPlain) (directory : Path)
    {extensions : List String} (hextensions : normalizeExtensions extensions ≠ [])
    (ignoreFile : String) {roots : List Path}
    (hroots : ∀ root ∈ roots, ∀ content,
      (disk.files directory).tree? root ≠ some (.file content))
    (entries : List TodoEntry) :
    ∃ scanner, ofExtensions extensions ignoreFile = .ok scanner ∧
      ∃ found : Path → List (List String × String),
        (∀ root ∈ roots, scanner.AreReported (disk.files directory) root (found root)) ∧
        scanner.scan (disk.files directory) roots entries false =
          ⟨.complete, entries ++ (roots.filter fun root => !root.isSame standardInput).flatMap
            fun root => entriesBelow root (found root)⟩ ∧
        (scanner.scan (disk.files directory) roots entries false =
            ⟨.complete, entries ++ roots.flatMap fun root => entriesBelow root (found root)⟩ ↔
          ∀ root ∈ roots, root.isSame standardInput = true →
            entriesBelow root (found root) = []) := by
  let scanner : Scanner := ⟨normalizeExtensions extensions, ⟨ignoreFile⟩⟩
  have hscan := scanner.scan_eq (disk.files directory) roots entries
  refine ⟨scanner, ofExtensions_eq_ok hextensions ignoreFile,
    scanner.textsBelow (disk.files directory), ?_, hscan, ?_⟩
  · intro root hroot
    exact areReported_textsBelow h (hroots root hroot)
  · rw [hscan, ScanResult.mk.injEq, List.append_cancel_left_eq, flatMap_filter_eq_iff]
    simp only [true_and, Bool.not_eq_false']

/-- Below `src` a file is reported; below a root that is missing there is nothing. -/
theorem scan_plain_src :
    let files := (oneFile "src" "a.js" "// TODO(baseline/grid)").files ⟨"/"⟩
    let roots : List Path := [⟨"src"⟩, ⟨"gone"⟩]
    let before : TodoEntry := ⟨"subgrid", "b.js", ⟨"lib/b.js"⟩, 7⟩
    (oneFile "src" "a.js" "// TODO(baseline/grid)").root.IsPlain ∧
      normalizeExtensions [".JS"] ≠ [] ∧
      (∀ root ∈ roots, ∀ content, files.tree? root ≠ some (.file content)) ∧
      ∃ scanner, ofExtensions [".JS"] ".gitignore" = .ok scanner ∧
        ∃ found : Path → List (List String × String),
          (["a.js"], "// TODO(baseline/grid)") ∈ found ⟨"src"⟩ ∧
            scanner.scan files roots [before] false =
              ⟨.complete, [before] ++ roots.flatMap fun root => entriesBelow root (found root)⟩ := by
  intro files roots before
  have hfolder : Path.IsName "src" := by decide
  have hname : Path.IsName "a.js" := by decide
  have hplain := isPlain_oneFile "// TODO(baseline/grid)" hfolder hname
  have hextensions : normalizeExtensions [".JS"] = ["js"] := by
    decide +kernel
  have hne : normalizeExtensions [".JS"] ≠ [] := by
    rw [hextensions]
    simp
  have hroots : ∀ root ∈ roots, ∀ content, files.tree? root ≠ some (.file content) := by
    have hgone : files.tree? ⟨"gone"⟩ = none := by
      have hother : Path.IsName "gone" := by decide
      exact (tree?_oneFile _ hfolder hname hother).trans rfl
    intro root hroot content
    rcases List.mem_cons.1 hroot with rfl | hroot
    · simp [files, tree?_oneFile_folder _ hfolder hname]
    · obtain rfl := List.mem_singleton.1 hroot
      simp [hgone]
  obtain ⟨scanner, hscanner, found, hfound, -, hscan⟩ :=
    scan_plain hplain ⟨"/"⟩ hne ".gitignore" hroots [before]
  refine ⟨hplain, hne, hroots, scanner, hscanner, found, ?_, hscan.2 ?_⟩
  · have hreported : IsReported ⟨["js"], ⟨".gitignore"⟩⟩ files ⟨"src"⟩ ["a.js"]
        "// TODO(baseline/grid)" :=
      isReported_oneFile _ hfolder hname (by decide) (by decide +kernel)
    rw [ofExtensions_eq_ok hne, hextensions, Except.ok.injEq] at hscanner
    subst hscanner
    exact ((hfound ⟨"src"⟩ List.mem_cons_self).mem_iff _ _).2 hreported
  · intro root hroot hinput
    rcases List.mem_cons.1 hroot with rfl | hroot
    · exact absurd hinput (by decide +kernel)
    · obtain rfl := List.mem_singleton.1 hroot
      exact absurd hinput (by decide +kernel)

/-- The directory `-` holds a file to report, but a scan of it finds nothing. -/
theorem scan_dash :
    ¬ ∀ (disk : Disk) (directory : Path) (extensions : List String) (ignoreFile : String)
      (roots : List Path) (entries : List TodoEntry), disk.root.IsPlain →
      normalizeExtensions extensions ≠ [] →
      (∀ root ∈ roots, ∀ content, (disk.files directory).tree? root ≠ some (.file content)) →
        ∃ scanner, ofExtensions extensions ignoreFile = .ok scanner ∧
          ∃ found : Path → List (List String × String),
            (∀ root ∈ roots, scanner.AreReported (disk.files directory) root (found root)) ∧
            scanner.scan (disk.files directory) roots entries false =
              ⟨.complete, entries ++ roots.flatMap fun root => entriesBelow root (found root)⟩ := by
  intro hall
  let text := "// TODO(baseline/grid)\n"
  have hfolder : Path.IsName "-" := by decide
  have hname : Path.IsName "a.js" := by decide
  have hextensions : normalizeExtensions ["js"] = ["js"] := by
    decide +kernel
  have hne : normalizeExtensions ["js"] ≠ [] := by
    rw [hextensions]
    simp
  have hroots : ∀ root ∈ [standardInput], ∀ content,
      ((oneFile "-" "a.js" text).files ⟨"/"⟩).tree? root ≠ some (.file content) := by
    intro root hroot content
    obtain rfl := List.mem_singleton.1 hroot
    simp [standardInput, tree?_oneFile_folder _ hfolder hname]
  obtain ⟨scanner, hscanner, found, hfound, hscan⟩ := hall (oneFile "-" "a.js" text) ⟨"/"⟩ ["js"]
    ".gitignore" [standardInput] [] (isPlain_oneFile text hfolder hname) hne hroots
  have hreported : IsReported ⟨["js"], ⟨".gitignore"⟩⟩ ((oneFile "-" "a.js" text).files ⟨"/"⟩)
      standardInput ["a.js"] text :=
    isReported_oneFile text hfolder hname (by decide) (by decide +kernel)
  rw [ofExtensions_eq_ok hne, hextensions, Except.ok.injEq] at hscanner
  subst hscanner
  have hfile : (["a.js"], text) ∈ found standardInput :=
    ((hfound standardInput List.mem_cons_self).mem_iff _ _).2 hreported
  -- The scan has no entries, but the file has one.
  have hnone : entriesBelow standardInput (found standardInput) = [] := by
    have hinput : standardInput.isSame standardInput = true := by
      decide +kernel
    rw [scan_eq] at hscan
    simpa [hinput] using hscan.symm
  have hentry : ⟨"grid", "a.js", ⟨"-/a.js"⟩, 1⟩ ∈
      extractTodos (pathBelow standardInput ["a.js"]) text := by
    decide +kernel
  have hmem : ⟨"grid", "a.js", ⟨"-/a.js"⟩, 1⟩ ∈
      entriesBelow standardInput (found standardInput) :=
    List.mem_flatMap.2 ⟨_, hfile, hentry⟩
  rw [hnone] at hmem
  contradiction

end Scanner

end FeatureRefs
