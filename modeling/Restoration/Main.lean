/-
The program on this machine. It sees the variables of its environment that
have a meaning for it, and the files below the input directory. It has no
way to other programs and to the network, and says so where a command
needs them.
-/
import Restoration.CommandLine

namespace Restoration.Machine

-- =============================================================== variables

/-- The variables that have a meaning. -/
def variableNames : List String :=
  ["HOME", "PATH", "TMPDIR", "PYTHONPATH", "XDG_CONFIG_HOME", "AENEAS_LOG",
    "AENEAS_URL", "AENEAS_HOST", "AENEAS_INPUT_DIR", "AENEAS_CHECKPOINT_MARKER",
    "AENEAS_CHECKPOINT_EXT", "AENEAS_CHECKPOINT_EXCLUDE", "AENEAS_REPO_URL",
    "AENEAS_REPO_DIR", "AENEAS_PYTHON", "AENEAS_PIP_PACKAGES",
    "AENEAS_BEAM_WIDTH", "AENEAS_TEMPERATURE", "AENEAS_UNK_MAX_LEN",
    "NGROK_AUTHTOKEN", "NGROK_DOMAIN", "NGROK_BIN"]

/-- The variables that are set. -/
def readVariables : IO (List (String × Bytes)) :=
  variableNames.filterMapM fun name => do
    return (← IO.getEnv name).map fun value => (name, Utf8.encode value)

-- =================================================================== world

/-- A world without programs and without a network. -/
def aloneWith (bindings : List (String × Bytes)) : World :=
  { environment := ⟨bindings, none⟩
    run := fun launch => ⟨.code 127, [], launch.files⟩
    converse := fun _ => ⟨⟨[], true⟩, fun _ => ⟨[], true⟩⟩
    tend := fun _ => ⟨fun _ => .exited (.code 127), fun _ => .error .dropped⟩
    agentAddress := "127.0.0.1:4040"
    send := fun _ _ => .error (.unconnected .networkUnreachable)
    listen := fun _ => .error .addressUnavailable
    names := ⟨"0", "0", toString, toString⟩ }

-- =================================================================== files

/-- The tree at an entry of a directory. Contents are not read, and a link
is a file if it leads to one, and otherwise leads nowhere. -/
partial def readTree (entry : IO.FS.DirEntry) : IO Node := do
  match (← entry.path.symlinkMetadata).type with
  | .dir =>
    match ← entry.path.readDir.toBaseIO with
    | .error _ => return .directory false []
    | .ok entries =>
      return .directory true
        (← entries.toList.mapM fun e =>
          return (Utf8.encode e.fileName, ← readTree e))
  | .symlink =>
    if (← entry.path.pathExists) && !(← entry.path.isDir) then
      return .file [] false
    else return .link ⟨[]⟩
  | _ => return .file [] false

/-- Puts a node where names lead from a directory, with the directories on
the way. What is there already stays. -/
def plant (files : Files) (directory : Path) (node : Node) : List Bytes → Files
  | [] => files
  | name :: rest =>
    let next := directory.join ⟨name⟩
    let found := if rest.isEmpty then node else .empty
    let files := if files.isPresent next then files
      else (files.put directory name found).toOption.getD files
    plant files next node rest

/-- The root of the tree. -/
def root : Path := ⟨[Path.slash]⟩

/-- The files below a directory, in a tree without other files. -/
def readFiles (directory : Path) : IO Files := do
  let here ← IO.currentDir
  let names := (Path.ofString here.toString).names
  let entry : IO.FS.DirEntry := ⟨here, directory.display⟩
  let tree ← (do
    let real ← IO.FS.realPath entry.path
    let node ← readTree ⟨here, real.toString⟩
    return plant ⟨.empty, names⟩ root node
      (Path.ofString real.toString).names).toBaseIO
  match tree with
  | .error _ => return plant ⟨.empty, names⟩ root .empty names
  | .ok files =>
    let start := if directory.isAbsolute then root else ⟨Path.dot⟩
    return plant (plant files root .empty names) start .empty directory.names

/-- The directory whose files a command line asks for. -/
def directoryOf (w : World) (arguments : List Bytes) : Path :=
  match CommandLine.read false arguments with
  | .ok (_, given) =>
    (CommandLine.settingsFor w (.ofGiven given)).inputDirectory
  | .error _ => ⟨Path.dot⟩

end Restoration.Machine

open Restoration in
/-- Runs the program and ends with its code. -/
def main (arguments : List String) : IO UInt32 := do
  let arguments := arguments.map Utf8.encode
  let w := Machine.aloneWith (← Machine.readVariables)
  match CommandLine.run w
    (← Machine.readFiles (Machine.directoryOf w arguments)) arguments with
  | none => return 0
  | some outcome =>
    IO.print outcome.output
    IO.eprint outcome.errors
    return outcome.code
