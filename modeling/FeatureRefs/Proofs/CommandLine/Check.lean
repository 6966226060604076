import Mathlib.Data.List.TakeWhile
import FeatureRefs.CommandLine.Run

/-!
# The verdict of a check

A check of files succeeds exactly when all of them can be read and nothing is to be reported in any of
them, and it never succeeds without data. What it shows are the reports of the files, one after the
other, up to the first file that cannot be read; so for files that can be read, two checks show
together what a check of all their files shows, and the worse of their exit codes is the code of it.
-/

namespace FeatureRefs.CommandLine

/-! ## Files one by one -/

section Files

variable (files : Files) (registry : Registry)

/-- Whether the file at a path can be read. -/
def isReadable (path : Path) : Bool :=
  (files.readText? path).isSome

/-- A file that can be read and in which nothing is to be reported. -/
def IsClean (path : Path) : Prop :=
  ∃ text, files.readText? path = some text ∧ validate text registry = []

/-- What is shown of a file: its diagnostics, and nothing if it cannot be read. -/
def fileReport (path : Path) : String :=
  match files.readText? path with
  | some text => Terminal.renderDiagnostics path text (validate text registry)
  | none => ""

variable {files registry}

theorem checkFiles_cons_of_none {path : Path} (h : files.readText? path = none)
    (paths : List Path) :
    checkFiles files registry (path :: paths) = { unreadable := some path } := by
  simp only [checkFiles, h]

theorem checkFiles_cons_of_some {path : Path} {text : String}
    (h : files.readText? path = some text) (paths : List Path) :
    checkFiles files registry (path :: paths) =
      { checkFiles files registry paths with
        stdout := fileReport files registry path ++ (checkFiles files registry paths).stdout
        count := (validate text registry).length + (checkFiles files registry paths).count } := by
  simp only [checkFiles, fileReport, h]

theorem isClean_iff_of_some {path : Path} {text : String} (h : files.readText? path = some text) :
    IsClean files registry path ↔ (validate text registry).length = 0 := by
  simp only [IsClean, h, Option.some.injEq, exists_eq_left', List.length_eq_zero_iff]

theorem not_isClean_of_none {path : Path} (h : files.readText? path = none) :
    ¬ IsClean files registry path := by
  rintro ⟨text, htext, -⟩
  exact absurd (h.symm.trans htext) (Option.some_ne_none text).symm

/-- The reports are shown up to the first file that cannot be read. -/
theorem stdout_checkFiles (paths : List Path) :
    (checkFiles files registry paths).stdout =
      String.join ((paths.takeWhile (isReadable files)).map (fileReport files registry)) := by
  induction paths with
  | nil => rfl
  | cons path paths ih =>
      cases h : files.readText? path with
      | none =>
          -- What follows in the list is not looked at.
          have hstop : isReadable files path = false := by rw [isReadable, h]; rfl
          rw [checkFiles_cons_of_none h, List.takeWhile_cons, hstop]
          rfl
      | some text =>
          have hgoes : isReadable files path = true := by rw [isReadable, h]; rfl
          rw [checkFiles_cons_of_some h, List.takeWhile_cons, hgoes, if_pos rfl, List.map_cons,
            String.join_cons, ← ih]

/-- Checking goes through all files and counts nothing exactly when all of them are clean. -/
theorem forall_isClean_iff (paths : List Path) :
    (∀ path ∈ paths, IsClean files registry path) ↔
      (checkFiles files registry paths).unreadable = none ∧
        (checkFiles files registry paths).count = 0 := by
  induction paths with
  | nil => simp [checkFiles]
  | cons path paths ih =>
      rw [List.forall_mem_cons, ih]
      cases h : files.readText? path with
      | none => simp [checkFiles_cons_of_none h, not_isClean_of_none h]
      | some text =>
          rw [checkFiles_cons_of_some h, isClean_iff_of_some h, Nat.add_eq_zero_iff]
          exact and_left_comm

/-! ## The outcome of a check -/

variable {dataPath : Path} {paths : List Path}

theorem runCheck_of_isEmpty (h : registry.isEmpty = true) :
    runCheck files registry dataPath paths = .failed (noDataMessage dataPath) := by
  rw [runCheck, if_pos h]

theorem stdout_runCheck (h : registry.isEmpty = false) :
    (runCheck files registry dataPath paths).stdout =
      String.join ((paths.takeWhile (isReadable files)).map (fileReport files registry)) := by
  rw [← stdout_checkFiles, runCheck, if_neg (by rw [h]; decide)]
  dsimp only
  split <;> rfl

theorem code_runCheck_le_one (files : Files) (registry : Registry) (dataPath : Path)
    (paths : List Path) : (runCheck files registry dataPath paths).code ≤ 1 := by
  unfold runCheck
  split
  · exact Nat.le_refl 1
  · dsimp only
    split
    · exact Nat.le_refl 1
    · dsimp only
      split <;> decide

theorem code_runCheck_eq_zero_iff (h : registry.isEmpty = false) :
    (runCheck files registry dataPath paths).code = 0 ↔
      ∀ path ∈ paths, IsClean files registry path := by
  rw [forall_isClean_iff, runCheck, if_neg (by rw [h]; decide)]
  cases hunreadable : (checkFiles files registry paths).unreadable with
  | some path => simp [hunreadable]
  | none => simp [hunreadable]

/-- What is shown of further files comes last, if the check gets to them. -/
theorem stdout_runCheck_append (h : registry.isEmpty = false) {front : List Path}
    (hfront : ∀ path ∈ front, isReadable files path = true) (back : List Path) :
    (runCheck files registry dataPath (front ++ back)).stdout =
      (runCheck files registry dataPath front).stdout ++
        (runCheck files registry dataPath back).stdout := by
  have hall : front.takeWhile (isReadable files) = front := List.takeWhile_eq_self_iff.2 hfront
  rw [stdout_runCheck h, stdout_runCheck h, stdout_runCheck h,
    List.takeWhile_append_of_pos hfront, List.map_append, String.join_append, hall]

theorem code_runCheck_append (h : registry.isEmpty = false) (front back : List Path) :
    (runCheck files registry dataPath (front ++ back)).code =
      max (runCheck files registry dataPath front).code
        (runCheck files registry dataPath back).code := by
  have hzero : (runCheck files registry dataPath (front ++ back)).code = 0 ↔
      (runCheck files registry dataPath front).code = 0 ∧
        (runCheck files registry dataPath back).code = 0 := by
    rw [code_runCheck_eq_zero_iff h, code_runCheck_eq_zero_iff h, code_runCheck_eq_zero_iff h,
      List.forall_mem_append]
  -- No code is larger than 1, so the larger one of two is 0 or 1 as well.
  have hall := code_runCheck_le_one files registry dataPath (front ++ back)
  have hfront := code_runCheck_le_one files registry dataPath front
  have hback := code_runCheck_le_one files registry dataPath back
  omega

end Files

/-! ## Command lines that check files -/

/-- A command line that checks files in a project. -/
def Checks (files : Files) (project : Project) (arguments : List String) (paths : List Path) : Prop :=
  ∃ invocation, Invocation.parse arguments = .ok invocation ∧
    invocation.project files = .ok project ∧ invocation.action = .check paths

theorem Checks.run_eq {files : Files} {project : Project} {arguments : List String}
    {paths : List Path} (h : Checks files project arguments paths) :
    run files arguments = runCheck files (project.registry files) project.dataPath paths := by
  obtain ⟨invocation, hparse, hproject, haction⟩ := h
  rw [run, hparse]
  show invocation.run files = _
  rw [Invocation.run, hproject]
  show runAction files project invocation.action = _
  rw [haction]
  rfl

theorem readAll_names {r : Reading} (honly : r.onlyOperands = true)
    (hcommand : r.command = some .check) {names : List String} (hnames : "" ∉ names) :
    Reading.readAll r names = .ok { r with operands := r.operands ++ names } := by
  induction names generalizing r with
  | nil => simp [Reading.readAll]
  | cons name names ih =>
      rw [List.mem_cons, not_or] at hnames
      have hname : name.isEmpty = false := by
        simpa [String.isEmpty_iff] using Ne.symm hnames.1
      have hword : r.addWord name = .ok { r with operands := r.operands ++ [name] } := by
        simp [Reading.addWord, Reading.addOperand, Reading.operandLimit, hcommand, hname]
      have hrest : Reading.readAll { r with operands := r.operands ++ [name] } names =
          .ok { r with operands := r.operands ++ [name] ++ names } :=
        ih honly hcommand hnames.2
      rw [List.append_assoc] at hrest
      rw [Reading.readAll, if_pos honly, hword]
      exact hrest

/-- Behind two hyphens any names of files may stand, empty ones apart. -/
theorem parse_check {names : List String} (hne : names ≠ []) (hnames : "" ∉ names) :
    Invocation.parse ("check" :: "--" :: names) =
      .ok { action := .check (names.map Path.mk) } := by
  have hcommand : Reading.readAll {} ("check" :: "--" :: names) =
      Reading.readAll { command := some .check } ("--" :: names) := by
    rw [Reading.readAll]
    rfl
  have hdashes : Reading.readAll { command := some .check } ("--" :: names) =
      Reading.readAll { command := some .check, onlyOperands := true } names := by
    rw [Reading.readAll]
    rfl
  rw [Invocation.parse, hcommand, hdashes, readAll_names rfl rfl hnames]
  obtain ⟨name, others, rfl⟩ := List.exists_cons_of_ne_nil hne
  rfl

/-- Names of files make up a command line that checks them in the project of the working directory. -/
theorem checks_names {files : Files} {project : Project} {names : List String} (hne : names ≠ [])
    (hnames : "" ∉ names)
    (hproject : Invocation.project { action := .check (names.map Path.mk) } files = .ok project) :
    Checks files project ("check" :: "--" :: names) (names.map Path.mk) :=
  ⟨_, parse_check hne hnames, hproject, rfl⟩

/-- Without data a check fails and shows nothing. With data it succeeds exactly when all files are
clean, and shows the reports of the files up to the first one that cannot be read. Where its files are
checked in two parts, its exit code is the larger one of the two, and if those of the first part can
be read, then it shows what is shown of the parts. -/
theorem check_exact {files : Files} {project : Project} {arguments : List String}
    {paths : List Path} (h : Checks files project arguments paths) :
    let registry := project.registry files
    let outcome := run files arguments
    (registry.isEmpty = true → outcome.code = 1 ∧ outcome.stdout = "") ∧
    (registry.isEmpty = false →
      (outcome.code = 0 ↔ ∀ path ∈ paths, IsClean files registry path) ∧
      (outcome.code ≠ 0 → outcome.code = 1) ∧
      outcome.stdout =
        String.join ((paths.takeWhile (isReadable files)).map (fileReport files registry)) ∧
      ∀ front back first second, paths = front ++ back →
        Checks files project first front → Checks files project second back →
          outcome.code = max (run files first).code (run files second).code ∧
          ((∀ path ∈ front, isReadable files path = true) →
            outcome.stdout = (run files first).stdout ++ (run files second).stdout)) := by
  intro registry outcome
  have hrun : outcome = runCheck files registry project.dataPath paths := h.run_eq
  rw [hrun]
  constructor
  · intro hempty
    rw [runCheck_of_isEmpty hempty]
    exact ⟨rfl, rfl⟩
  · intro hdata
    refine ⟨code_runCheck_eq_zero_iff hdata, ?_, stdout_runCheck hdata, ?_⟩
    · intro hfailed
      exact Nat.le_antisymm (code_runCheck_le_one ..) (Nat.pos_of_ne_zero hfailed)
    · rintro front back first second rfl hfirst hsecond
      rw [hfirst.run_eq, hsecond.run_eq]
      exact ⟨code_runCheck_append hdata front back, fun hfront =>
        stdout_runCheck_append hdata hfront back⟩

/-- Of a file that spells `grid` right and one that does not, only a check of the first one succeeds,
and a check of both shows what is shown of each. -/
theorem check_exact_grid_gird :
    let data := "\x7b\"browsers\":\x7b\x7d,\"features\":\x7b\"grid\":\x7b\"name\":\"Grid\"\x7d\x7d\x7d"
    let files : Files := ⟨⟨"/w"⟩, fun path =>
      if path = ⟨"/w/node_modules/web-features/data.json"⟩ then some (.file data.toUTF8)
      else if path = ⟨"a.html"⟩ then some (.file "baseline/grid".toUTF8)
      else if path = ⟨"b.html"⟩ then some (.file "baseline/gird".toUTF8)
      else none⟩
    let project : Project := ⟨⟨"/w"⟩, {}⟩
    Checks files project ["check", "--", "a.html"] [⟨"a.html"⟩] ∧
    Checks files project ["check", "--", "b.html"] [⟨"b.html"⟩] ∧
    Checks files project ["check", "--", "a.html", "b.html"] [⟨"a.html"⟩, ⟨"b.html"⟩] ∧
    (project.registry files).isEmpty = false ∧
    (run files ["check", "--", "a.html"]).code = 0 ∧
    (run files ["check", "--", "a.html", "b.html"]).code = 1 ∧
    (run files ["check", "--", "a.html", "b.html"]).stdout =
      (run files ["check", "--", "a.html"]).stdout ++
        (run files ["check", "--", "b.html"]).stdout := by
  intro data files project
  have hroot : Project.findRoot files ⟨"/w"⟩ = ⟨"/w"⟩ := by
    decide +kernel
  have hnone : files.contains (Project.configPath ⟨"/w"⟩) = false := by
    decide +kernel
  have hproject : ∀ action, Invocation.project { action := action } files = .ok project := by
    intro action
    have hplace : Invocation.projectRoot { action := action } files = ⟨"/w"⟩ := hroot
    rw [Invocation.project, Invocation.configPath, hplace, Project.loadConfigOrDefault]
    dsimp only
    rw [hnone]
    rfl
  have hdata : (project.registry files).isEmpty = false := by
    decide +kernel
  have hfirst : Checks files project ["check", "--", "a.html"] [⟨"a.html"⟩] :=
    checks_names (by decide) (by decide) (hproject _)
  have hsecond : Checks files project ["check", "--", "b.html"] [⟨"b.html"⟩] :=
    checks_names (by decide) (by decide) (hproject _)
  have hboth : Checks files project ["check", "--", "a.html", "b.html"] [⟨"a.html"⟩, ⟨"b.html"⟩] :=
    checks_names (by decide) (by decide) (hproject _)
  have hclean : IsClean files (project.registry files) ⟨"a.html"⟩ :=
    ⟨"baseline/grid", by decide +kernel, by decide +kernel⟩
  have hflagged : ¬ IsClean files (project.registry files) ⟨"b.html"⟩ := by
    have hread : files.readText? ⟨"b.html"⟩ = some "baseline/gird" := by decide +kernel
    rw [isClean_iff_of_some hread]
    decide +kernel
  have hreadable : ∀ path ∈ [(⟨"a.html"⟩ : Path)], isReadable files path = true := by
    decide +kernel
  obtain ⟨hzero, -⟩ := (check_exact hfirst).2 hdata
  obtain ⟨hall, hfailed, -, happend⟩ := (check_exact hboth).2 hdata
  refine ⟨hfirst, hsecond, hboth, hdata, hzero.2 (List.forall_mem_singleton.2 hclean), ?_, ?_⟩
  · exact hfailed fun hcode => hflagged (hall.1 hcode _ (by simp))
  · exact (happend [⟨"a.html"⟩] [⟨"b.html"⟩] _ _ rfl hfirst hsecond).2 hreadable

end FeatureRefs.CommandLine
