import FeatureRefs.CommandLine.Needs
import FeatureRefs.Files.Capture
import FeatureRefs.Server.Framing

/-!
# The program

Looks at the files that an action needs, carries the action out, and writes what it answers. A language
server goes on with messages from standard input until it is told to stop or something else arrives.
-/

open FeatureRefs

/-- A file with its bytes. One that cannot be read counts as a directory. -/
def readTree (path : String) : IO Tree := do
  try
    return .file (← IO.FS.readBinFile path)
  catch _ =>
    return .directory []

/-- What is found at a path, without what is below a directory. -/
def captureFile (path : Path) : IO (Option Capture) := do
  try
    let place ← IO.FS.realPath path.text
    if path.text.isEmpty || !(← place.pathExists) then
      return none
    else if ← place.isDir then
      return some (path, .directory [])
    else
      return some (path, ← readTree path.text)
  catch _ =>
    return none

/-- What is found at a place, with everything below. `above` are the directories around it. -/
partial def treeAt (above : List String) (place : String) : IO (Option Tree) := do
  try
    let place ← IO.FS.realPath place
    if ← place.isDir then
      if above.contains place.toString then
        return none
      else
        let mut entries := []
        for entry in ← place.readDir do
          let below := place.toString ++ "/" ++ entry.fileName
          if let some tree ← treeAt (place.toString :: above) below then
            entries := (entry.fileName, tree) :: entries
        return some (.directory entries)
    else if ← place.pathExists then
      return some (← readTree place.toString)
    else
      return none
  catch _ =>
    return none

/-- What is found at a path, with everything below. -/
def captureTree (path : Path) : IO (Option Capture) := do
  if path.text.isEmpty then return none
  return (← treeAt [] path.text).map (path, ·)

/-- What is found at the paths that are needed. -/
def capture (needs : Needs) : IO (List Capture) := do
  let trees ← needs.trees.filterMapM captureTree
  let files ← needs.files.filterMapM captureFile
  return trees ++ files

/-- The view of the files for an invocation, and the project. -/
def captureProject (directory : Path) (invocation : CommandLine.Invocation) :
    IO (List Capture × Except Project.ConfigError Project) := do
  let markers ← (Project.markerPaths directory).filterMapM captureFile
  let files := Files.ofCaptures directory markers
  let config ← [invocation.configPath files].filterMapM captureFile
  let captures := markers ++ config
  return (captures, invocation.project (.ofCaptures directory captures))

/-- Writes what a command answers. -/
def report (outcome : CommandLine.Outcome) : IO UInt32 := do
  (← IO.getStdout).putStr outcome.stdout
  let stderr ← IO.getStderr
  stderr.putStr outcome.stderr
  unless outcome.stderr.isEmpty || outcome.stderr.endsWith "\n" do stderr.putStr "\n"
  return UInt32.ofNat outcome.code

/-- Reads the lines of a header. -/
partial def readHeader (input : IO.FS.Stream) (lines : List String) : IO (List String) := do
  let line ← input.getLine
  if line.isEmpty || line == "\r\n" || line == "\n" then return lines
  readHeader input (line :: lines)

/-- Reads bytes. -/
partial def readBytes (input : IO.FS.Stream) (count : Nat) (read : ByteArray) : IO ByteArray := do
  if read.size ≥ count then return read
  let more ← input.read (USize.ofNat (count - read.size))
  if more.isEmpty then return read
  readBytes input count (read ++ more)

/-- Answers messages from standard input. -/
partial def serve (directory : Path) (connection : Connection) : IO Unit := do
  if connection.stage = .exited then return
  let input ← IO.getStdin
  let output ← IO.getStdout
  match Framing.length? (← readHeader input []) with
  | none => return
  | some count =>
      let body ← readBytes input count .empty
      match (String.fromUTF8? body).bind Framing.message? with
      | none =>
          output.putStr (Framing.frame Framing.parseError)
          output.flush
      | some value =>
          let needs := ((connection.pending? value).map connection.server.needs).getD {}
          let files := Files.ofCaptures directory (← capture needs)
          let (connection, sent) := connection.receive files value
          for message in sent do
            output.putStr (Framing.frame message)
          output.flush
          serve directory connection

/-- Runs the program. -/
def main (arguments : List String) : IO UInt32 := do
  let directory : Path := ⟨(← IO.currentDir).toString⟩
  match CommandLine.Invocation.parse arguments with
  | .error interruption => report interruption.outcome
  | .ok invocation =>
      let (captures, project) ← captureProject directory invocation
      match project with
      | .error e => report (.failed e.message)
      | .ok project =>
          let more ← capture (project.needs invocation.action)
          let files := Files.ofCaptures directory (captures ++ more)
          match invocation.action with
          | .serve =>
              serve directory { server := .start files project.config project.root }
              return 0
          | action => report (CommandLine.runAction files project action)
