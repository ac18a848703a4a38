/-
Serving, from the first step to the requests. The machine is prepared,
the checkpoint is found and loaded, the address is bound, and the port is
published; then requests are answered. Only three things can stop this: no
checkpoint, a worker that does not start, and an address that cannot be
had. Everything else is told and left at that.
-/
import Restoration.Checkpoint.Search
import Restoration.Preparation
import Restoration.Route
import Restoration.Settings
import Restoration.Tunnel.Agent
import Restoration.Worker.Start

namespace Restoration.Startup

-- ============================================================== options

/-- What the user can leave out. -/
structure Options where
  withoutTunnel : Bool
  withoutPreparation : Bool
  deriving DecidableEq, Repr

/-- What stops the start. -/
inductive Stop
  | noCheckpoint (failure : Failure)
  | notLoaded (failure : Failure)
  | notBound (address : String) (reason : SystemError)

/-- What is said about a stop, outermost first. -/
def Stop.chain : Stop → List String
  | .noCheckpoint f => f.chain
  | .notLoaded f => "failed to load checkpoint" :: f.chain
  | .notBound address reason => [s!"failed to bind {address}", reason.message]

-- =============================================================== server

/-- A server that is up: the session with its worker, the settings of each
call, and the address and port that are bound. -/
structure Server where
  session : Worker.Session
  params : Params
  address : String
  port : UInt16

/-- A run: what happened, the requests made to the tunnel agent, the server
or what stopped it, the files while it is up, and the files when all is
over. -/
structure Run where
  history : History
  tunnelRequests : List Http.Request
  result : Except Stop Server
  files : Files
  filesAfter : Files

-- ================================================================ steps

/-- The plan of the preparation. -/
def planOf (s : Settings) : Preparation.Plan :=
  ⟨s.python, s.packages, s.repository, s.checkout⟩

/-- Prepares the machine, unless that is left out. -/
def prepare (w : World) (files : Files) (s : Settings)
    (o : Options) : History × Files :=
  if o.withoutPreparation then ([.told .skippingPreparation], files)
  else
    let prepared := Preparation.run w files (planOf s)
    (prepared.history, prepared.files)

/-- The port in public: what happened, the requests made to the agent, and
the files while it runs. -/
structure Opened where
  history : History
  requests : List Http.Request
  files : Files

/-- Publishes a port. -/
def openTunnel (w : World) (files : Files) (s : TunnelSettings)
    (port : UInt16) : Opened :=
  let started := Tunnel.startAgent w files s.program s.token
  let attempts : History := (started.attempt.map Act.attempted).toList
  match started.result with
  | .error f => ⟨attempts ++ [.told (.tunnelUnavailable f)], [], started.files⟩
  | .ok agent =>
    let running : Tunnel.Running := ⟨agent, w.agentAddress, w.names.tunnels, []⟩
    let published := Tunnel.publish Tunnel.connect running port s.domain
    let told :=
      match published.result with
      | .ok _ => published.events
      | .error f => published.events ++ [.tunnelFailed f]
    ⟨attempts ++ .ofEvents told, published.state.requests, started.files⟩

/-- The files when first the worker and then the agent is gone. -/
def cleanUp (w : World) (files : Files) : Files :=
  Tunnel.removeConfig w (Worker.removeScript w files)

/-- The server with a worker that is ready. -/
def serveWith (w : World) (files : Files) (s : Settings) (o : Options)
    (history : History) (ready : Worker.Ready) : Run :=
  let history := history ++
    [.told (.modelReady ready.checkpoint.name ready.checkpoint.vocabularySize)]
  match w.listen s.host with
  | .error reason =>
    ⟨history, [], .error (.notBound s.host.address reason), files,
      Worker.removeScript w files⟩
  | .ok (address, port) =>
    let opened :=
      if o.withoutTunnel then ⟨[], [], files⟩
      else openTunnel w files s.tunnel port
    ⟨history ++ opened.history ++ [.told (.listening address)], opened.requests,
      .ok ⟨ready.session, s.params, address, port⟩, opened.files,
      cleanUp w opened.files⟩

/-- Starts the server. There is no end to it if the worker neither says
that it is ready nor leaves. -/
def serve (w : World) (files : Files) (s : Settings)
    (o : Options) : Option Run :=
  let (history, files) := prepare w files s o
  let history := history ++ [.told (.findingCheckpoint s.inputDirectory)]
  let (found, events) := findCheckpoint files s.matcher s.inputDirectory
  let history := history ++ .ofEvents events
  match found with
  | .error f => some ⟨history, [], .error (.noCheckpoint f), files, files⟩
  | .ok path =>
    let history := history ++ [.told (.loadingCheckpoint path)]
    match Worker.startScript w files s.python s.checkout path with
    | none => none
    | some started =>
      let history := history ++ (started.attempt.map Act.attempted).toList
      match started.result with
      | .error f =>
        some ⟨history, [], .error (.notLoaded f), started.files, started.files⟩
      | .ok ready => some (serveWith w started.files s o history ready)

-- ============================================================= requests

/-- The responses of a server to requests that come one after the other. -/
def Server.respondAll (s : Server) (requests : List Http.Request) :
    Option (List (Route.Responded Worker.Session)) :=
  Route.respondAll Worker.Session.restore s.params s.session requests

end Restoration.Startup
