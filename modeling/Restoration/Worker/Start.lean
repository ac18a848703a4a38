/-
Starting a worker. It is told where the checkpoint is, and the server
waits for its handshake. The worker program is written to a file of its
own, which is there for as long as the worker is; the checkout of the
model comes first among the places where its modules are looked for.
-/
import Restoration.Worker.Script
import Restoration.World

namespace Restoration.Worker

-- ============================================================== command

/-- A worker that is ready: the checkpoint it has loaded and the session
with it. -/
structure Ready where
  checkpoint : Checkpoint
  session : Session

/-- Sets a variable, which loses the value that it had. -/
def withVariable (c : Command) (name : String) (value : Bytes) : Command :=
  { c with bindings := c.bindings.filter (·.1 ≠ name) ++ [(name, value)] }

/-- The command that loads a checkpoint. -/
def loading (c : Command) (checkpoint : Path) : Command :=
  withVariable c "AENEAS_CHECKPOINT" checkpoint.bytes

-- ================================================================ start

/-- The start of a worker: the attempt, and the worker or what failed. -/
structure Start where
  attempt : Attempt
  result : Except Failure Ready

/-- Starts a worker. There is no end to it if the worker neither says that
it is ready nor leaves. -/
def start (w : World) (files : Files) (command : Command)
    (checkpoint : Path) : Option Start :=
  let attempt := w.attempt files (loading command checkpoint)
  match attempt.image with
  | .error reason =>
    some ⟨attempt, .error (.worker (.notStarted command.program reason))⟩
  | .ok image =>
    let peer := w.converse (w.launch attempt image)
    match (Session.start peer w.names.calls).handshake checkpoint with
    | none => none
    | some (.error f) => some ⟨attempt, .error f⟩
    | some (.ok (checkpoint, session)) =>
      some ⟨attempt, .ok ⟨checkpoint, session⟩⟩

-- =============================================================== script

/-- The name of the file that holds the worker program. -/
def scriptName (w : World) : Bytes :=
  Utf8.encode s!"aeneas-worker-{w.names.script}.py"

/-- The places where modules are looked for: the checkout, and those that
the environment names. There is no such list if a place has a colon. -/
def modulePath (w : World) (files : Files) (checkout : Path) : Bytes :=
  let first := (Path.absolute files.workingPath checkout).getD checkout
  let others :=
    match w.environment.bytes? "PYTHONPATH" with
    | some b => Path.ofList b
    | none => []
  (Path.toList (first :: others)).getD []

/-- The command that runs the worker program. -/
def scriptCommand (w : World) (files : Files) (python : String)
    (checkout : Path) : Command :=
  { program := python
    arguments :=
      [Utf8.encode "-u",
        (w.environment.temporaryDirectory.join ⟨scriptName w⟩).bytes]
    bindings := [("PYTHONPATH", modulePath w files checkout)] }

/-- The start of the worker program: the attempt, if it came to one; the
worker or what failed; and the files from then on. -/
structure ScriptStart where
  attempt : Option Attempt
  result : Except Failure Ready
  files : Files

/-- Takes the file of the worker program away. -/
def removeScript (w : World) (files : Files) : Files :=
  files.drop w.environment.temporaryDirectory (scriptName w)

/-- Starts the worker program. -/
def startScript (w : World) (files : Files) (python : String)
    (checkout checkpoint : Path) :
    Option ScriptStart :=
  match files.put w.environment.temporaryDirectory (scriptName w)
    (.file script false) with
  | .error reason => some ⟨none, .error (.io reason), files⟩
  | .ok files =>
    match start w files (scriptCommand w files python checkout) checkpoint with
    | none => none
    | some ⟨attempt, .ok ready⟩ => some ⟨some attempt, .ok ready, files⟩
    | some ⟨attempt, .error f⟩ =>
      some ⟨some attempt, .error f, removeScript w files⟩

end Restoration.Worker
