import Mathlib.Data.List.Sort
import FeatureRefs.Proofs.Glob.Matching
import FeatureRefs.Proofs.Glob.Reading
import FeatureRefs.Proofs.Scan.Reported

/-!
# Directories that are not entered

A scan does not enter the directories that are excluded. Nothing is lost by that: what is excluded is
excluded with everything below it, since each pattern of an ignore file is read once for a path and
once for what is below. So the files that are found are those that are not excluded themselves.

A directory that is written as a dash stands for standard input. None of its files are found, excluded
or not.
-/

namespace FeatureRefs

/-! ## What is below an excluded path -/

namespace Glob

theorem EndsBelow.isMatch_append {tokens : List Token} (h : EndsBelow tokens) {path : String}
    (hmatch : (mk tokens).isMatch path = true) (tail : String) :
    (mk tokens).isMatch (path ++ tail) = true := by
  rcases h with rfl | ⟨before, rfl⟩
  · exact isMatch_leadingDirectories _
  · exact Glob.isMatch_append hmatch tail

end Glob

namespace Exclusion

theorem mem_globsOf_iff {pattern : List Char} {glob : Glob} :
    glob ∈ globsOf pattern ↔
      Glob.parse? pattern = some glob ∨ Glob.parse? (pattern ++ ['/', '*', '*']) = some glob := by
  unfold globsOf
  simp only [List.mem_filterMap, List.mem_cons, List.not_mem_nil, or_false, exists_eq_or_imp,
    exists_eq_left]

/-- Below a path that a glob of a pattern matches, one of its globs matches, too. -/
theorem exists_globsOf_below {pattern : List Char} {glob : Glob} (hglob : glob ∈ globsOf pattern)
    {path : String} (hmatch : glob.isMatch path = true) (rest : String) :
    ∃ below ∈ globsOf pattern, below.isMatch (path ++ ("/" ++ rest)) = true := by
  obtain ⟨own, below, hown, hbelow, hread⟩ := Glob.isReadBelow_parse? pattern
  rw [mem_globsOf_iff, hown, hbelow] at hglob
  have hmem {found : Glob} (h : own.map Glob.mk = some found ∨ below.map Glob.mk = some found) :
      found ∈ globsOf pattern := by
    rwa [mem_globsOf_iff, hown, hbelow]
  cases hread with
  | unread => simp at hglob
  | @taken tokens h =>
      obtain rfl := Option.some.inj (or_self_iff.1 hglob)
      exact ⟨_, hmem (.inl rfl), h.isMatch_append hmatch _⟩
  | @behind own tokens h =>
      rcases hglob with hglob | hglob
      · -- The path is matched by the pattern itself.
        obtain rfl : own = some tokens := h.resolve_left (by rintro rfl; simp at hglob)
        obtain rfl := Option.some.inj hglob
        by_cases hleading : tokens = [.leadingDirectories]
        · refine ⟨_, hmem (.inl rfl), ?_⟩
          rw [hleading]
          exact Glob.isMatch_leadingDirectories _
        · exact ⟨_, hmem (.inr rfl), Glob.isMatch_below hmatch hleading rest⟩
      · obtain rfl := Option.some.inj hglob
        exact ⟨_, hmem (.inr rfl), Glob.isMatch_append hmatch _⟩

/-- What is below an excluded path is excluded. -/
theorem excludes_below (text : String) {path : String} (h : (ofText text).excludes path = true)
    (rest : String) : (ofText text).excludes (path ++ ("/" ++ rest)) = true := by
  unfold excludes ofText at h ⊢
  dsimp only at h ⊢
  obtain ⟨-, hany⟩ := Bool.and_eq_true_iff.1 h
  split at hany
  · next husable =>
      obtain ⟨glob, hglob, hmatch⟩ := List.any_eq_true.1 hany
      obtain ⟨pattern, hpattern, hglob⟩ := List.mem_flatMap.1 hglob
      obtain ⟨below, hbelow, hmatch⟩ := exists_globsOf_below hglob hmatch rest
      rw [if_pos husable]
      refine Bool.and_eq_true_iff.2 ⟨?_, ?_⟩
      · simp
      · exact List.any_eq_true.2 ⟨below, List.mem_flatMap.2 ⟨pattern, hpattern, hbelow⟩, hmatch⟩
  · simp at hany

/-- What is in a directory of a build is excluded with the directory. -/
example : (ofText "# build output\ndist\n").excludes "dist/a/b.js" = true := by
  decide +kernel

end Exclusion

/-! ## Walks that leave out what is below -/

/-- Where nothing may be entered below what may not, a walk finds the files of a whole walk that may be
entered themselves. -/
theorem Tree.IsProper.walk_eq_filter {tree : Tree} (h : tree.IsProper)
    {enter : List String → Bool} (hroot : enter [] = true)
    (hclosed : ∀ part more, enter (part ++ more) = true → enter part = true) :
    tree.walk enter [] = (tree.walk (fun _ => true) []).filter fun file => enter file.1 := by
  let before : List String × ByteArray → List String × ByteArray → Prop :=
    fun a b => List.Lex (· < ·) a.1 b.1
  have hirrefl : Std.Irrefl before := ⟨fun a => List.lex_irrefl String.lt_irrefl a.1⟩
  have hantisymm : Std.Antisymm before :=
    ⟨fun a b hab hba => absurd hba (List.lex_asymm (fun hlt => String.lt_asymm hlt) hab)⟩
  -- Both walks are in strict order, so it is enough that they find the same files.
  refine List.Pairwise.eq_of_mem_iff (r := before) (h.pairwise_walk enter [])
    ((h.pairwise_walk _ []).filter _) ?_
  rintro ⟨names, content⟩
  simp only [List.mem_filter, h.mem_walk_iff, List.nil_append, exists_eq_left']
  constructor
  · rintro ⟨hfile, hpath⟩
    refine ⟨⟨hfile, fun _ _ _ => rfl⟩, ?_⟩
    by_cases hnil : names = []
    · rw [hnil]
      exact hroot
    · exact hpath names (List.prefix_refl names) hnil
  · rintro ⟨⟨hfile, -⟩, henter⟩
    refine ⟨hfile, ?_⟩
    rintro part ⟨more, rfl⟩ -
    exact hclosed part more henter

namespace Scanner

/-! ## The files of a root -/

theorem excludes_relativeText_nil (exclusion : Exclusion) :
    exclusion.excludes (relativeText []) = false := by
  simp [relativeText, Exclusion.excludes]

theorem excludes_relativeText_append (scanner : Scanner) (files : Files) (root : Path)
    {part : List String} (h : (scanner.exclusion files root).excludes (relativeText part) = true)
    (more : List String) :
    (scanner.exclusion files root).excludes (relativeText (part ++ more)) = true := by
  by_cases hpart : part = []
  · -- The root itself is never excluded.
    rw [hpart, excludes_relativeText_nil] at h
    contradiction
  by_cases hmore : more = []
  · rwa [hmore, List.append_nil]
  have hjoin : relativeText (part ++ more) =
      relativeText part ++ ("/" ++ relativeText more) := by
    unfold relativeText
    rw [String.intercalate_append_of_ne_nil hpart hmore, String.append_assoc]
  rw [hjoin]
  unfold exclusion at h ⊢
  split at h
  · next text htext =>
      exact Exclusion.excludes_below text h _
  · simp [Exclusion.excludes] at h

/-- The files below a root with an allowed extension that are not excluded themselves, in the order of a
walk that enters every directory. -/
def included (scanner : Scanner) (files : Files) (root : Path) : List (Path × ByteArray) :=
  match files.tree? root with
  | none => []
  | some tree =>
      let found := (tree.walk (fun _ => true) []).filter fun file =>
        !(scanner.exclusion files root).excludes (relativeText file.1)
      (found.map fun (names, content) => (pathBelow root names, content)).filter fun file =>
        hasAllowedExtension file.1 scanner.extensions

theorem filesBelow_eq_included {disk : Disk} (h : disk.root.IsPlain) (directory : Path)
    (scanner : Scanner) (root : Path) :
    scanner.filesBelow (disk.files directory) root =
      scanner.included (disk.files directory) root := by
  unfold filesBelow included
  cases htree : (disk.files directory).tree? root with
  | none => rfl
  | some tree =>
      have hproper : tree.IsProper := Disk.isProper_of_tree? h htree
      dsimp only
      rw [hproper.walk_eq_filter]
      · rw [excludes_relativeText_nil]
        rfl
      · intro part more hmore
        rw [Bool.not_eq_true'] at hmore ⊢
        refine Bool.eq_false_iff.2 fun hpart => ?_
        rw [scanner.excludes_relativeText_append _ root hpart more] at hmore
        contradiction

/-- A file is included by its own path alone. -/
theorem mem_included_iff {disk : Disk} (h : disk.root.IsPlain) {directory : Path} {scanner : Scanner}
    {root path : Path} {content : ByteArray} :
    (path, content) ∈ scanner.included (disk.files directory) root ↔
      ∃ names,
        ((disk.files directory).tree? root).bind (Tree.at? names) = some (.file content) ∧
        path = pathBelow root names ∧ hasAllowedExtension path scanner.extensions = true ∧
        (scanner.exclusion (disk.files directory) root).excludes (relativeText names) = false := by
  unfold included
  cases htree : (disk.files directory).tree? root with
  | none => simp
  | some tree =>
      have hproper : tree.IsProper := Disk.isProper_of_tree? h htree
      simp only [List.mem_filter, List.mem_map, Option.bind_some, Bool.not_eq_true', Prod.mk.injEq]
      constructor
      · rintro ⟨⟨⟨names, bytes⟩, ⟨hfile, hincluded⟩, rfl, rfl⟩, hallowed⟩
        obtain ⟨_, rfl, hfile, -⟩ := hproper.mem_walk_iff.1 hfile
        exact ⟨names, hfile, rfl, hallowed, hincluded⟩
      · rintro ⟨names, hfile, rfl, hallowed, hincluded⟩
        have hfound : (names, content) ∈ tree.walk (fun _ => true) [] :=
          hproper.mem_walk_iff.2 ⟨names, rfl, hfile, fun _ _ _ => rfl⟩
        exact ⟨⟨(names, content), ⟨hfound, hincluded⟩, rfl, rfl⟩, hallowed⟩

theorem mem_included_oneFile {folder name : String} (text : String) (hfolder : Path.IsName folder)
    (hname : Path.IsName name) (hignore : ".gitignore" ≠ name) {extensions : List String}
    (hallowed : hasAllowedExtension (pathBelow ⟨folder⟩ [name]) extensions = true) :
    (pathBelow ⟨folder⟩ [name], text.toUTF8) ∈
      included ⟨extensions, ⟨".gitignore"⟩⟩ ((oneFile folder name text).files ⟨"/"⟩) ⟨folder⟩ := by
  have hreported := isReported_oneFile text hfolder hname hignore hallowed
  refine (mem_included_iff (isPlain_oneFile text hfolder hname)).2 ⟨[name], ?_, rfl, hallowed, ?_⟩
  · rw [tree?_oneFile_folder text hfolder hname]
    simp [Tree.at?]
  · exact hreported.isIncluded [name] (List.prefix_refl _) (by simp)

/-- On a disk without links, what is below an excluded path is excluded, and the files that a scan looks
at below a root are those with an allowed extension that are not excluded themselves. Only a root that
stands for standard input has none of them. -/
theorem enumerated_plain {disk : Disk} (h : disk.root.IsPlain) (directory : Path)
    (scanner : Scanner) (root : Path) :
    let files := disk.files directory
    (∀ text path, (Exclusion.ofText text).excludes path = true →
        ∀ rest, (Exclusion.ofText text).excludes (path ++ ("/" ++ rest)) = true) ∧
      (∀ path content, (path, content) ∈ scanner.included files root ↔
        ∃ names, (files.tree? root).bind (Tree.at? names) = some (.file content) ∧
          path = pathBelow root names ∧ hasAllowedExtension path scanner.extensions = true ∧
          (scanner.exclusion files root).excludes (relativeText names) = false) ∧
      (scanner.enumerated files root = scanner.included files root ↔
        (root.isSame standardInput = true → scanner.included files root = [])) := by
  intro files
  refine ⟨fun text path hpath => Exclusion.excludes_below text hpath,
    fun path content => mem_included_iff h, ?_⟩
  unfold enumerated
  cases hinput : root.isSame standardInput with
  | true => simp only [if_true, forall_const, eq_comm]
  | false => simp [filesBelow_eq_included h, files]

/-- In `src` there is a file that a scan looks at. -/
theorem enumerated_plain_src :
    let disk := oneFile "src" "a.js" "// TODO(baseline/grid)"
    disk.root.IsPlain ∧ (pathBelow ⟨"src"⟩ ["a.js"], "// TODO(baseline/grid)".toUTF8) ∈
      enumerated ⟨["js"], ⟨".gitignore"⟩⟩ (disk.files ⟨"/"⟩) ⟨"src"⟩ := by
  intro disk
  have hfolder : Path.IsName "src" := by decide
  have hname : Path.IsName "a.js" := by decide
  have hplain : disk.root.IsPlain := isPlain_oneFile _ hfolder hname
  have hinput : Path.isSame ⟨"src"⟩ standardInput = false := by
    decide +kernel
  obtain ⟨-, -, heq⟩ := enumerated_plain hplain ⟨"/"⟩ ⟨["js"], ⟨".gitignore"⟩⟩ ⟨"src"⟩
  refine ⟨hplain, ?_⟩
  rw [heq.2 (by simp [hinput])]
  exact mem_included_oneFile _ hfolder hname (by decide) (by decide +kernel)

/-- The file in the directory `-` is not excluded, but a scan does not look at it. -/
theorem enumerated_dash :
    ¬ ∀ (disk : Disk) (directory root : Path) (scanner : Scanner), disk.root.IsPlain →
      scanner.enumerated (disk.files directory) root =
        scanner.included (disk.files directory) root := by
  intro hall
  have hfolder : Path.IsName "-" := by decide
  have hname : Path.IsName "a.js" := by decide
  have hinput : Path.isSame ⟨"-"⟩ standardInput = true := by
    decide +kernel
  have hallowed : hasAllowedExtension (pathBelow ⟨"-"⟩ ["a.js"]) ["js"] = true := by
    decide +kernel
  have hincluded := mem_included_oneFile "// TODO(baseline/grid)\n" hfolder hname (by decide) hallowed
  rw [← hall _ _ _ _ (isPlain_oneFile _ hfolder hname), enumerated, if_pos hinput] at hincluded
  contradiction

end Scanner

end FeatureRefs
