import FeatureRefs.CommandLine.Arguments
import FeatureRefs.Project.Basic
import FeatureRefs.Project.Root
import FeatureRefs.Server.Json
import FeatureRefs.Terminal.Candidates
import FeatureRefs.Terminal.Diagnostics

/-!
# Running commands

A command answers with an exit code and with what it writes. Files are checked in the order of the
arguments up to the first one that cannot be read. The command fails if there are diagnostics.
-/

namespace FeatureRefs.CommandLine

/-- What a command answers. -/
structure Outcome where
  code : Nat := 0
  stdout : String := ""
  stderr : String := ""
deriving Repr, DecidableEq

namespace Outcome

/-- An error in words. -/
def errorText (message : String) : String :=
  "Error: " ++ message

/-- The outcome of a command that cannot do its work. -/
def failed (message : String) : Outcome :=
  { code := 1, stderr := errorText message }

end Outcome

/-- How the program is called. -/
def usage : String :=
  "Usage: baseline [--root <ROOT>] [--config <CONFIG>] <COMMAND>\n\n" ++
    "Commands:\n" ++
    "  check <FILES>...                  Report unrecognized feature ids in files\n" ++
    "  todos [ROOTS]... [-f <FORMAT>]    List TODO markers in the workspace\n" ++
    "  search <QUERY> [--limit <LIMIT>]  Search features by id, name or description\n" ++
    "  lsp                               Run the language server over stdio\n"

/-- The outcome of arguments that name no action. -/
def Interruption.outcome : Interruption → Outcome
  | version => { stdout := programName ++ " " ++ programVersion ++ "\n" }
  | help => { stdout := usage }
  | usageError => { code := 2, stderr := usage }

/-! ## Projects -/

/-- The root of the project. -/
def Invocation.projectRoot (invocation : Invocation) (files : Files) : Path :=
  match invocation.root with
  | some root => root
  | none => Project.findRoot files files.workingDirectory

/-- The path of the configuration file. -/
def Invocation.configPath (invocation : Invocation) (files : Files) : Path :=
  match invocation.config with
  | some path => path
  | none => Project.configPath (invocation.projectRoot files)

/-- The project. -/
def Invocation.project (invocation : Invocation) (files : Files) :
    Except Project.ConfigError Project :=
  (Project.loadConfigOrDefault files (invocation.configPath files)).map fun config =>
    ⟨invocation.projectRoot files, config⟩

/-! ## Checking files -/

/-- What checking files has found. -/
structure CheckResult where
  stdout : String := ""
  /-- The number of diagnostics. -/
  count : Nat := 0
  /-- The file at which checking ended. -/
  unreadable : Option Path := none
deriving Repr, DecidableEq

/-- Checks files up to the first one that cannot be read. -/
def checkFiles (files : Files) (registry : Registry) : List Path → CheckResult
  | [] => {}
  | path :: paths =>
      match files.readText? path with
      | none => { unreadable := some path }
      | some text =>
          let diagnostics := validate text registry
          let others := checkFiles files registry paths
          { others with
            stdout := Terminal.renderDiagnostics path text diagnostics ++ others.stdout
            count := diagnostics.length + others.count }

/-- What is said when there is nothing to check against. -/
def noDataMessage (dataPath : Path) : String :=
  "No feature data loaded from " ++ dataPath.text ++
    "\n\nInstall it with `npm install --save-dev web-features`, or set `data` in " ++
    Project.configFile.text

/-- What is said of `n` checked files with `count` diagnostics. -/
def checkSummary (n count : Nat) : String :=
  if count = 0 then
    Terminal.strong .green "OK" ++ " " ++ toString n ++ " file(s), all feature ids recognized\n"
  else
    "\n" ++ Terminal.strong .red "!" ++ " " ++ toString count ++ " unrecognized feature id(s)\n"

/-- Checks files against a registry. -/
def runCheck (files : Files) (registry : Registry) (dataPath : Path) (paths : List Path) : Outcome :=
  if registry.isEmpty then
    .failed (noDataMessage dataPath)
  else
    let result := checkFiles files registry paths
    match result.unreadable with
    | some path =>
        { code := 1
          stdout := result.stdout
          stderr := Outcome.errorText ("Failed to read " ++ path.text) }
    | none =>
        { code := if result.count = 0 then 0 else 1
          stdout := result.stdout
          stderr := checkSummary paths.length result.count }

/-! ## Other commands -/

/-- Lists the TODO entries below roots. -/
def runTodos (files : Files) (config : Config) (registry : Registry) (roots : List Path)
    (format : ReportFormat) : Outcome :=
  match config.scanner with
  | .error e => .failed e.message
  | .ok scanner =>
      let result := scanner.scan files roots [] false
      let report := TodoReport.ofEntries registry files.workingDirectory result.entries
      { stdout := report.render format }

/-- Searches a registry. -/
def runSearch (registry : Registry) (query : String) (limit : Nat) : Outcome :=
  let candidates := registry.search query
  { stdout := Terminal.renderCandidates candidates limit
    stderr :=
      match candidates with
      | [] => ""
      | best :: _ => "\n" ++ Terminal.strong .blue "->" ++ " " ++ best.summary ++ "\n" }

/-- The server of a project. -/
def startServer (files : Files) (invocation : Invocation) :
    Except Project.ConfigError Server :=
  (invocation.project files).map fun project => .start files project.config project.root

/-- Carries an action of a project out. A server only begins here. -/
def runAction (files : Files) (project : Project) : Action → Outcome
  | .check paths => runCheck files (project.registry files) project.dataPath paths
  | .todos roots format =>
      runTodos files project.config (project.registry files) (project.scanRoots roots) format
  | .search query limit _ => runSearch (project.registry files) query limit
  | .serve => {}

/-- Carries an invocation out. -/
def Invocation.run (invocation : Invocation) (files : Files) : Outcome :=
  match invocation.project files with
  | .error e => .failed e.message
  | .ok project => runAction files project invocation.action

/-- Runs the program. -/
def run (files : Files) (arguments : List String) : Outcome :=
  match Invocation.parse arguments with
  | .error interruption => interruption.outcome
  | .ok invocation => invocation.run files

end FeatureRefs.CommandLine
