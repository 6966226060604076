import FeatureRefs.Proofs.Server.Coherence

/-!
# A server that has been set up

Setting a server up changes the directories it works in, the directory of the project, the configuration, and the
data. Each of them may stay as it was, and the data is not read again where its path is the same as before. All the
same the parts agree afterwards, and later messages leave them alone: the project is the first directory, and the data
is what its data file holds and will be read again from there.

Which directories these are depends on the schemes. A URI of any scheme stands for a path here, not only one of a file,
so an editor that names a folder of another kind makes the server work in a directory that may not exist.
-/

namespace FeatureRefs

/-- Whether a URI has the scheme of files. -/
def Uri.isFile (u : Uri) : Bool :=
  u.scheme == fileScheme

/-- The path that the URI of a file stands for. -/
def Uri.filePath? (u : Uri) : Option Path :=
  if u.isFile then u.toPath? else none

/-! ## Which URIs decide -/

namespace SetupParams

/-- The directories to work in for a reading of URIs: the workspace folders that have a path by it, or else the root, or
else the directory that the server was started in. -/
def rootsBy (path? : Uri → Option Path) (params : SetupParams) (start : Path) : List Path :=
  match params.workspaceFolders.filterMap path? with
  | [] => [(params.rootUri.bind path?).getD start]
  | folders => folders

/-- The workspace folders that have a path, whatever their scheme. -/
def foldersWithPath (params : SetupParams) : List Uri :=
  params.workspaceFolders.filter fun u => u.toPath?.isSome

/-- The URIs that the directories are taken from. -/
def deciding (params : SetupParams) : List Uri :=
  match params.foldersWithPath with
  | [] => (params.rootUri.filter fun u => u.toPath?.isSome).toList
  | folders => folders

variable {params : SetupParams}

theorem roots_eq_rootsBy (params : SetupParams) (start : Path) :
    (if params.roots.isEmpty then [start] else params.roots) = params.rootsBy Uri.toPath? start := by
  unfold roots rootsBy
  cases params.workspaceFolders.filterMap Uri.toPath? with
  | nil =>
      cases params.rootUri.bind Uri.toPath? with
      | none => rfl
      | some path => rfl
  | cons first others => rfl

theorem rootsBy_ne_nil (path? : Uri → Option Path) (params : SetupParams) (start : Path) :
    params.rootsBy path? start ≠ [] := by
  unfold rootsBy
  split
  · exact List.cons_ne_nil _ _
  · assumption

theorem config_eq_getD (params : SetupParams) (current : Config) :
    params.config current = (params.options.bind Config.ofJson?).getD current := by
  unfold config
  cases params.options with
  | none => rfl
  | some options => rfl

/-- A folder without a path does not count in any reading that leaves URIs out. -/
theorem filterMap_workspaceFolders {path? : Uri → Option Path}
    (h : ∀ u, path? u = u.toPath? ∨ path? u = none) (params : SetupParams) :
    params.workspaceFolders.filterMap path? = params.foldersWithPath.filterMap path? := by
  have hguard : (fun u => if u.toPath?.isSome then path? u else none) = path? := by
    funext u
    cases hpath : u.toPath? with
    | none => simpa [hpath, eq_comm] using h u
    | some path => rfl
  rw [foldersWithPath, List.filterMap_filter, hguard]

theorem filterMap_toPath?_workspaceFolders (params : SetupParams) :
    params.workspaceFolders.filterMap Uri.toPath? =
      params.foldersWithPath.filterMap Uri.toPath? :=
  filterMap_workspaceFolders (fun _ => Or.inl rfl) params

theorem filterMap_toPath?_eq_nil_iff :
    params.workspaceFolders.filterMap Uri.toPath? = [] ↔ params.foldersWithPath = [] := by
  rw [foldersWithPath, List.filterMap_eq_nil_iff, List.filter_eq_nil_iff]
  simp only [Bool.not_eq_true, Option.isSome_eq_false_iff, Option.isNone_iff_eq_none]

theorem filterMap_filePath?_workspaceFolders (params : SetupParams) :
    params.workspaceFolders.filterMap Uri.filePath? =
      (params.foldersWithPath.filter Uri.isFile).filterMap Uri.toPath? := by
  have hreading (u : Uri) : u.filePath? = u.toPath? ∨ u.filePath? = none := by
    unfold Uri.filePath?
    split
    · exact Or.inl rfl
    · exact Or.inr rfl
  rw [filterMap_workspaceFolders hreading, List.filterMap_filter]
  rfl

theorem rootsBy_of_eq_nil {path? : Uri → Option Path}
    (h : params.workspaceFolders.filterMap path? = []) (start : Path) :
    params.rootsBy path? start = [(params.rootUri.bind path?).getD start] := by
  rw [rootsBy, h]

theorem rootsBy_of_ne_nil {path? : Uri → Option Path}
    (h : params.workspaceFolders.filterMap path? ≠ []) (start : Path) :
    params.rootsBy path? start = params.workspaceFolders.filterMap path? := by
  unfold rootsBy
  split
  · contradiction
  · rfl

theorem deciding_of_eq_nil (h : params.foldersWithPath = []) :
    params.deciding = (params.rootUri.filter fun u => u.toPath?.isSome).toList := by
  rw [deciding, h]

theorem deciding_of_ne_nil (h : params.foldersWithPath ≠ []) :
    params.deciding = params.foldersWithPath := by
  unfold deciding
  split
  · contradiction
  · rfl

theorem isSome_toPath?_of_mem_deciding {u : Uri} (h : u ∈ params.deciding) :
    u.toPath?.isSome = true := by
  unfold deciding at h
  split at h
  · exact (Option.mem_filter_iff.1 (Option.mem_toList.1 h)).2
  · exact (List.mem_filter.1 h).2

/-- As many directories are taken from the URIs that decide as there are such URIs. -/
theorem length_filterMap_toPath? {uris : List Uri} (h : uris ⊆ params.deciding) :
    (uris.filterMap Uri.toPath?).length = uris.length :=
  List.filterMap_length_eq_length.2 fun _ hu => isSome_toPath?_of_mem_deciding (h hu)

theorem filterMap_deciding_eq_singleton_iff {path : Path} :
    params.deciding.filterMap Uri.toPath? = [path] ↔
      ∃ u, params.deciding = [u] ∧ u.toPath? = some path := by
  constructor
  · intro heq
    have hlength := length_filterMap_toPath? (List.Subset.refl params.deciding)
    rw [heq] at hlength
    obtain ⟨u, hu⟩ := List.length_eq_one_iff.1 hlength.symm
    rw [hu, List.filterMap_cons] at heq
    refine ⟨u, hu, ?_⟩
    cases hpath : u.toPath? with
    | none => simp [hpath] at heq
    | some other => simpa [hpath] using heq
  · rintro ⟨u, hu, hpath⟩
    simp [hu, hpath]

theorem rootsBy_toPath?_of_ne_nil (h : params.deciding ≠ []) (start : Path) :
    params.rootsBy Uri.toPath? start = params.deciding.filterMap Uri.toPath? := by
  by_cases hfolders : params.foldersWithPath = []
  · rw [rootsBy_of_eq_nil (filterMap_toPath?_eq_nil_iff.2 hfolders)]
    rw [deciding_of_eq_nil hfolders] at h ⊢
    cases hroot : params.rootUri with
    | none => simp [hroot] at h
    | some u =>
        cases hpath : u.toPath? with
        | none => simp [hroot, hpath] at h
        | some path => simp [hpath, Option.filter_some]
  · rw [rootsBy_of_ne_nil (mt filterMap_toPath?_eq_nil_iff.1 hfolders), deciding_of_ne_nil hfolders,
      filterMap_toPath?_workspaceFolders]

/-- Where all URIs that decide are URIs of files, the others make no difference. -/
theorem rootsBy_toPath?_of_forall_isFile (h : ∀ u ∈ params.deciding, u.isFile = true)
    (start : Path) : params.rootsBy Uri.toPath? start = params.rootsBy Uri.filePath? start := by
  by_cases hfolders : params.foldersWithPath = []
  · -- Nothing but the root may decide then.
    have hnone : params.workspaceFolders.filterMap Uri.filePath? = [] := by
      rw [filterMap_filePath?_workspaceFolders, hfolders]
      rfl
    have hroot : params.rootUri.bind Uri.filePath? = params.rootUri.bind Uri.toPath? := by
      rw [deciding_of_eq_nil hfolders] at h
      cases hroot : params.rootUri with
      | none => rfl
      | some u =>
          cases hpath : u.toPath? with
          | none => simp [Uri.filePath?, hpath]
          | some path =>
              have hfile : u.isFile = true := h u (by simp [hroot, hpath, Option.filter_some])
              simp [Uri.filePath?, hpath, hfile]
    rw [rootsBy_of_eq_nil (filterMap_toPath?_eq_nil_iff.2 hfolders), rootsBy_of_eq_nil hnone, hroot]
  · rw [deciding_of_ne_nil hfolders] at h
    have hnone := mt filterMap_toPath?_eq_nil_iff.1 hfolders
    have hsame : params.workspaceFolders.filterMap Uri.filePath? =
        params.workspaceFolders.filterMap Uri.toPath? := by
      rw [filterMap_filePath?_workspaceFolders, List.filter_eq_self.2 h,
        filterMap_toPath?_workspaceFolders]
    rw [rootsBy_of_ne_nil hnone, rootsBy_of_ne_nil (hsame ▸ hnone), hsame]

/-- Where they are not, the URIs of files alone give fewer directories or a single one. -/
theorem length_rootsBy_filePath? (h : ¬ ∀ u ∈ params.deciding, u.isFile = true) (start : Path) :
    (params.rootsBy Uri.filePath? start).length < params.deciding.length ∨
      ∃ path, params.rootsBy Uri.filePath? start = [path] := by
  by_cases hnil : params.workspaceFolders.filterMap Uri.filePath? = []
  · exact Or.inr ⟨_, rootsBy_of_eq_nil hnil start⟩
  · -- One of the folders that decide is no file, so fewer are left.
    left
    have hfolders : params.foldersWithPath ≠ [] := by
      intro heq
      rw [filterMap_filePath?_workspaceFolders, heq] at hnil
      exact hnil rfl
    have hdeciding := deciding_of_ne_nil hfolders
    rw [rootsBy_of_ne_nil hnil, filterMap_filePath?_workspaceFolders, ← hdeciding,
      length_filterMap_toPath? fun _ hu => (List.mem_filter.1 hu).1]
    rw [List.length_filter_lt_length_iff_exists]
    simpa using h

/-- The directories are those of the URIs of files exactly when all URIs that decide are URIs of files, or when a single
one decides that has the very path which would be taken without it. -/
theorem rootsBy_toPath?_eq_iff (params : SetupParams) (start : Path) :
    params.rootsBy Uri.toPath? start = params.rootsBy Uri.filePath? start ↔
      (∀ u ∈ params.deciding, u.isFile = true) ∨
        ∃ u, params.deciding = [u] ∧ u.toPath? = (params.rootsBy Uri.filePath? start).head? := by
  by_cases hfiles : ∀ u ∈ params.deciding, u.isFile = true
  · exact iff_of_true (rootsBy_toPath?_of_forall_isFile hfiles start) (Or.inl hfiles)
  · have hne : params.deciding ≠ [] := by
      intro hnil
      simp [hnil] at hfiles
    have hlength := length_filterMap_toPath? (List.Subset.refl params.deciding)
    rw [rootsBy_toPath?_of_ne_nil hne, or_iff_right hfiles]
    rcases length_rootsBy_filePath? hfiles start with hshort | ⟨path, hpath⟩
    · -- Two directories at least are taken, and the URIs of files would give fewer.
      have hpos := List.length_pos_iff.2 (rootsBy_ne_nil Uri.filePath? params start)
      constructor
      · intro heq
        rw [heq] at hlength
        omega
      · rintro ⟨u, hu, -⟩
        rw [hu, List.length_singleton] at hshort
        omega
    · rw [hpath, List.head?_cons]
      exact filterMap_deciding_eq_singleton_iff

end SetupParams

/-- What a data file holds is all that matters of the files. -/
theorem Registry.loadOrEmpty_congr {files files' : Files} {path : Path}
    (h : files.readText? path = files'.readText? path) :
    loadOrEmpty files path = loadOrEmpty files' path := by
  rw [loadOrEmpty, loadOrEmpty, load, load, h]

namespace Server

variable {server server' : Server}

/-! ## What later messages leave alone -/

/-- Whether a server goes on with the directories, the configuration and the data file of another one. -/
structure KeepsPlace (server server' : Server) : Prop where
  roots_eq : server'.roots = server.roots
  projectRoot_eq : server'.projectRoot = server.projectRoot
  config_eq : server'.config = server.config
  path_eq : server'.source.path = server.source.path

theorem KeepsPlace.refl (server : Server) : server.KeepsPlace server :=
  ⟨rfl, rfl, rfl, rfl⟩

theorem KeepsPlace.trans {server'' : Server} (h : server.KeepsPlace server')
    (h' : server'.KeepsPlace server'') : server.KeepsPlace server'' where
  roots_eq := h'.roots_eq.trans h.roots_eq
  projectRoot_eq := h'.projectRoot_eq.trans h.projectRoot_eq
  config_eq := h'.config_eq.trans h.config_eq
  path_eq := h'.path_eq.trans h.path_eq

theorem keepsPlace_scanTodos (server : Server) (files : Files) :
    server.KeepsPlace (server.scanTodos files).1 := by
  unfold scanTodos beginScan
  cases server.config.scanner with
  | error e => exact ⟨rfl, rfl, rfl, rfl⟩
  | ok scanner =>
      dsimp only
      split
      · exact ⟨rfl, rfl, rfl, rfl⟩
      · exact ⟨rfl, rfl, rfl, rfl⟩

/-- A command may put another registry in force, but it reads it from the same data file. -/
theorem keepsPlace_execute (server : Server) (files : Files) (command : Command) :
    server.KeepsPlace (server.execute files command).1 := by
  cases command with
  | search query => exact .refl server
  | scanTodos => exact keepsPlace_scanTodos server files
  | cancelScan => exact ⟨rfl, rfl, rfl, rfl⟩
  | reloadData => exact ⟨rfl, rfl, rfl, rfl⟩

theorem keepsPlace_handle {message : Message} (hready : ∀ params, message ≠ .setUp params)
    (server : Server) (files : Files) :
    server.KeepsPlace (server.handle files message).server := by
  -- What the other messages change are the documents, the scans and the registry in force.
  cases message with
  | setUp params => exact absurd rfl (hready params)
  | ready => exact .refl server
  | shutdown => exact ⟨rfl, rfl, rfl, rfl⟩
  | exit => exact .refl server
  | opened uri document => exact ⟨rfl, rfl, rfl, rfl⟩
  | changed uri version texts =>
      simp only [handle]
      rcases server.changeDocument_cases uri.text version texts with ⟨document, hchange⟩ | hchange
      · rw [hchange]
        exact ⟨rfl, rfl, rfl, rfl⟩
      · rw [hchange]
        exact .refl server
  | saved uri => exact .refl server
  | closed uri => exact ⟨rfl, rfl, rfl, rfl⟩
  | hover uri position => exact .refl server
  | complete uri position => exact .refl server
  | execute name arguments =>
      simp only [handle]
      cases Command.ofName? name arguments with
      | none => exact .refl server
      | some command => exact keepsPlace_execute server files command

theorem keepsPlace_run {steps : List (Files × Message)}
    (hready : ∀ step ∈ steps, ∀ params, step.2 ≠ .setUp params) (server : Server) :
    server.KeepsPlace (server.run steps).1 := by
  induction steps generalizing server with
  | nil => exact .refl server
  | cons step steps ih =>
      have hfirst := keepsPlace_handle (hready _ List.mem_cons_self) server step.1
      exact hfirst.trans (ih (fun later hlater => hready later (List.mem_cons_of_mem _ hlater)) _)

/-! ## Parts that agree -/

/-- Whether the parts of a server agree: the directory of the project is the first one that is scanned, and the data
file is where the configuration has it in that project. Paths are the same that have the same components. -/
structure IsAligned (server : Server) : Prop where
  head?_roots : server.roots.head? = some server.projectRoot
  isSame_path : server.source.path.isSame (server.config.dataPath server.projectRoot) = true

theorem isAligned_start (files : Files) (config : Config) (root : Path) :
    (start files config root).IsAligned where
  head?_roots := rfl
  isSame_path := beq_self_eq_true _

theorem IsAligned.of_keepsPlace (h : server.IsAligned) (hkeeps : server.KeepsPlace server') :
    server'.IsAligned where
  head?_roots := by
    rw [hkeeps.roots_eq, hkeeps.projectRoot_eq]
    exact h.head?_roots
  isSame_path := by
    rw [hkeeps.path_eq, hkeeps.config_eq, hkeeps.projectRoot_eq]
    exact h.isSame_path

theorem IsAligned.setUp (h : server.IsAligned) (files : Files) (params : SetupParams) :
    (server.setUp files params).IsAligned where
  head?_roots := by
    simp only [Server.setUp]
    cases params.roots with
    | nil => exact h.head?_roots
    | cons first others => rfl
  isSame_path := by
    simp only [Server.setUp]
    split
    · next hsame =>
        rw [Path.isSame, beq_iff_eq] at hsame ⊢
        exact hsame.symm
    · exact beq_self_eq_true _

/-- The parts agree whatever a server is told, and if it were set up again. -/
theorem IsAligned.handle (h : server.IsAligned) (files : Files) (message : Message) :
    (server.handle files message).server.IsAligned := by
  cases message with
  | setUp params => exact h.setUp files params
  | _ => exact h.of_keepsPlace (keepsPlace_handle (by simp) server files)

theorem IsAligned.run (h : server.IsAligned) (steps : List (Files × Message)) :
    (server.run steps).1.IsAligned := by
  induction steps generalizing server with
  | nil => exact h
  | cons step steps ih => exact ih (h.handle step.1 step.2)

/-! ## Setting up -/

/-- The registry in force is what the data file holds, whether it is read anew or was read before. -/
theorem registry_setUp {files : Files} (h : server.registry = .loadOrEmpty files server.source.path)
    (params : SetupParams) :
    (server.setUp files params).registry =
      .loadOrEmpty files (server.setUp files params).source.path := by
  simp only [setUp, registry]
  split
  · -- The file is not read again, so it matters that what was read before is still right.
    exact h
  · exact DataSource.registry_reload _ files

theorem roots_setUp_start (files₀ files : Files) (config : Config) (root : Path)
    (params : SetupParams) :
    ((start files₀ config root).setUp files params).roots =
      params.rootsBy Uri.toPath? root :=
  params.roots_eq_rootsBy root

/-- The parts of a server that was started and set up, where its data file is unchanged since. There is a directory
to work in, and the project is the first one. The configuration is the one that was sent, or else the one from the
start. The data is what the data file of that project and that configuration holds, and whenever it is read anew
later, it is read from the same file. The directories are those of the URIs of files, or else the one from the start,
exactly when no URI of another scheme decides, or a single one does that has the path which would be taken without
it. -/
theorem setUp_start (files₀ files : Files) (config : Config) (root : Path) (params : SetupParams)
    (hdata : files.readText? (config.dataPath root) = files₀.readText? (config.dataPath root)) :
    let server := (start files₀ config root).setUp files params
    server.roots = params.rootsBy Uri.toPath? root ∧ server.roots ≠ [] ∧
    server.roots.head? = some server.projectRoot ∧
    server.config = (params.options.bind Config.ofJson?).getD config ∧
    server.source.path.isSame (server.config.dataPath server.projectRoot) = true ∧
    server.registry = .loadOrEmpty files server.source.path ∧
    (∀ (steps : List (Files × Message)) (files' : Files),
      (∀ step ∈ steps, ∀ params, step.2 ≠ .setUp params) →
      ((server.run steps).1.reloadData files').1.registry =
        .loadOrEmpty files' server.source.path) ∧
    (server.roots = params.rootsBy Uri.filePath? root ↔
      (∀ u ∈ params.deciding, u.isFile = true) ∨
        ∃ u, params.deciding = [u] ∧
          u.toPath? = (params.rootsBy Uri.filePath? root).head?) := by
  intro server
  have hroots : server.roots = params.rootsBy Uri.toPath? root :=
    roots_setUp_start files₀ files config root params
  have haligned : server.IsAligned := (isAligned_start files₀ config root).setUp files params
  have hstart : (start files₀ config root).registry =
      .loadOrEmpty files (start files₀ config root).source.path :=
    Registry.loadOrEmpty_congr hdata.symm
  refine ⟨hroots, ?_, haligned.head?_roots, params.config_eq_getD config, haligned.isSame_path,
    registry_setUp hstart params, ?_, ?_⟩
  · rw [hroots]
    exact SetupParams.rootsBy_ne_nil _ params root
  · intro steps files' hready
    rw [← (keepsPlace_run hready server).path_eq]
    exact DataSource.registry_reload _ files'
  · rw [hroots]
    exact params.rootsBy_toPath?_eq_iff root

/-- A folder without a path is left out, and the data is read from where the options have it. -/
theorem setUp_start_folder :
    let files : Files := ⟨⟨"/"⟩, fun _ => none⟩
    let params : SetupParams := {
      workspaceFolders := [
        { scheme := "untitled", path := .rootless "a" },
        { scheme := "file", authority := some {}, path := .rooted ["w", "b"] }]
      options := some (.object [("data", .string "data.json")]) }
    let server := (start files {} ⟨"/p"⟩).setUp files params
    server.roots = [⟨"/w/b"⟩] ∧ server.roots = params.rootsBy Uri.filePath? ⟨"/p"⟩ ∧
      server.source.path.isSame ⟨"/w/b/data.json"⟩ = true ∧
      server.registry = .loadOrEmpty files server.source.path := by
  intro files params server
  obtain ⟨hroots, -, hhead, hconfig, hpath, hregistry, -, hfiles⟩ :=
    setUp_start files files {} ⟨"/p"⟩ params rfl
  have hroots' : server.roots = [⟨"/w/b"⟩] := hroots.trans (by decide)
  have hproject : server.projectRoot = ⟨"/w/b"⟩ := by
    have hfirst : server.roots.head? = some server.projectRoot := hhead
    rw [hroots'] at hfirst
    exact (Option.some.inj hfirst).symm
  have hconfig' : server.config = { data := some ⟨"data.json"⟩ } := hconfig.trans (by decide)
  have hdata : server.config.dataPath server.projectRoot = ⟨"/w/b/data.json"⟩ := by
    rw [hconfig', hproject]
    decide
  exact ⟨hroots', hfiles.2 (Or.inl (by decide)), hdata ▸ hpath, hregistry⟩

/-- A root of another scheme takes the place of the directory that the server was started in, and the data of the project
is not found any more. -/
theorem roots_setUp_other_scheme :
    let data := "\x7b\"browsers\":\x7b\x7d,\"features\":\x7b\"grid\":\x7b\"name\":\"Grid\"\x7d\x7d\x7d"
    let files : Files := ⟨⟨"/w"⟩, fun path =>
      if path = (⟨"/w/node_modules/web-features/data.json"⟩ : Path) then some (.file data.toUTF8)
      else none⟩
    let uri : Uri := { scheme := "memfs", path := .rooted ["sample"] }
    let params : SetupParams := { rootUri := some uri }
    let server := (start files {} ⟨"/w"⟩).setUp files params
    (Uri.parse "memfs:/sample").toOption = some uri ∧ uri.isFile = false ∧
      params.rootsBy Uri.filePath? ⟨"/w"⟩ = [⟨"/w"⟩] ∧ server.roots = [⟨"/sample"⟩] ∧
      (start files {} ⟨"/w"⟩).registry.size = 1 ∧ server.registry.size = 0 := by
  decide +kernel

end Server

end FeatureRefs
