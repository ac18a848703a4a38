/-
Every way in which something can fail, as a cause, and the wording of each
in one place. Where another program reported the cause, its own words are
kept.
-/
import Restoration.Http.Message
import Restoration.Json.Fields
import Restoration.Path
import Restoration.Url.Fault

namespace Restoration

-- =============================================================== causes

/-- How a program ended. -/
inductive ExitStatus
  | code (n : Nat)
  | signal (n : Nat)
  deriving DecidableEq, Repr

namespace ExitStatus

/-- Whether the program reports success. -/
def isSuccess (s : ExitStatus) : Bool := s == .code 0

/-- The names of the signals that end a program. -/
def signalName : Nat → String
  | 1 => " (SIGHUP)"
  | 2 => " (SIGINT)"
  | 3 => " (SIGQUIT)"
  | 6 => " (SIGABRT)"
  | 9 => " (SIGKILL)"
  | 11 => " (SIGSEGV)"
  | 13 => " (SIGPIPE)"
  | 15 => " (SIGTERM)"
  | _ => ""

/-- The wording of an end. -/
def message : ExitStatus → String
  | .code n => s!"exit status: {n}"
  | .signal n => s!"signal: {n}{signalName n}"

end ExitStatus

/-- What is wrong with a checkpoint. -/
inductive CheckpointFault
  | notMapping (found : Json.Value)
  | noVocabularySize
  /-- The worker is not ready and does not tell why. -/
  | notReady
  | stated (words : String)

/-- What is wrong with the worker. -/
inductive WorkerFault
  | notStarted (program : String) (reason : SystemError)
  | emptyReply
  | stated (words : String)

/-- What is wrong with a request body. -/
inductive BodyFault
  | notObject (found : Json.Value)
  | stated (words : String)

/-- Why a client cannot be had, or makes nothing of an answer. -/
inductive ClientFault
  | invalidServerUrl (url : String) (fault : Url.Fault)
  | noPrediction
  | stated (words : String)

/-- What is wrong with the tunnel. -/
inductive TunnelFault
  | notStarted (program : String) (reason : SystemError)
  | exited (status : ExitStatus)
  | silent
  | stated (words : String)

/-- A failure. -/
inductive Failure
  | checkpointNotFound (root : Path) (marker extension : String)
  | checkpoint (path : Path) (fault : CheckpointFault)
  | worker (fault : WorkerFault)
  | workerExited
  | badRequest (fault : BodyFault)
  | client (fault : ClientFault)
  | tunnel (fault : TunnelFault)
  | io (reason : SystemError)
  | json (error : Json.Error)
  | http (fault : Http.Fault)

-- =============================================================== wording

/-- The wording of a checkpoint fault. -/
def CheckpointFault.message : CheckpointFault → String
  | .notMapping found => s!"model_config is not a mapping: {found.write}"
  | .noVocabularySize => "model_config has no vocab_char_size"
  | .notReady => "worker not ready"
  | .stated words => words

/-- The wording of a worker fault. -/
def WorkerFault.message : WorkerFault → String
  | .notStarted program reason =>
    s!"failed to start {program}: {reason.message}"
  | .emptyReply => "empty reply"
  | .stated words => words

/-- The wording of a body fault. -/
def BodyFault.message : BodyFault → String
  | .notObject found => s!"expected a JSON object, got {found.write}"
  | .stated words => words

/-- The wording of a client fault. -/
def ClientFault.message : ClientFault → String
  | .invalidServerUrl url fault => s!"invalid server URL {url}: {fault.message}"
  | .noPrediction => "response has no prediction"
  | .stated words => words

/-- The wording of a tunnel fault. -/
def TunnelFault.message : TunnelFault → String
  | .notStarted program reason =>
    s!"failed to start {program}: {reason.message}"
  | .exited status => s!"agent exited before its API came up ({status.message})"
  | .silent => "agent API did not come up"
  | .stated words => words

namespace Failure

/-- The wording of a failure. -/
def message : Failure → String
  | .checkpointNotFound root marker extension =>
    s!"{marker} .{extension} file not found under {root.display}"
  | .checkpoint path fault => s!"checkpoint {path.display}: {fault.message}"
  | .worker fault => s!"worker: {fault.message}"
  | .workerExited => "worker exited"
  | .badRequest fault => s!"bad request: {fault.message}"
  | .client fault => s!"client: {fault.message}"
  | .tunnel fault => s!"tunnel: {fault.message}"
  | .io reason => reason.message
  | .json error => error.message
  | .http fault => fault.message

/-- A failure and what lies behind it, outermost first. -/
def chain (f : Failure) : List String :=
  match f with
  | .http fault => fault.message :: fault.causes
  | _ => [f.message]

end Failure

end Restoration
