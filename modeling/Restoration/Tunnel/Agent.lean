/-
Tunnels through an agent, a program on this machine with an interface of
its own. It is told on which address to listen by a configuration file
that is there for as long as the agent is. The user's own configuration,
if there is one, comes before that file and so still counts.

The agent is looked at until its interface answers, forty times at most,
unless it has exited by then. After that each tunnel is one request. Its
answer is the last one, after all redirections, and one that does not come
in time is lost (`Http.Loss.timedOut`).
-/
import Restoration.Json.Message
import Restoration.Tunnel
import Restoration.World

namespace Restoration.Tunnel

-- ======================================================== configuration

/-- The configuration that names the address. -/
def configText (address : String) : String :=
  s!"version: \"2\"\nweb_addr: {address}\n"

/-- The name of the configuration file. -/
def configName (w : World) : Bytes :=
  Utf8.encode s!"aeneas-ngrok-{w.names.config}.yml"

/-- The user's own configuration, if there is one. -/
def userConfig (w : World) (files : Files) : Option Path :=
  match w.environment.configDirectory with
  | none => none
  | some directory =>
    let path :=
      directory.joinNames [Utf8.encode "ngrok", Utf8.encode "ngrok.yml"]
    if files.isFile path then some path else none

/-- The command that starts the agent. -/
def agentCommand (w : World) (files : Files) (program : String)
    (token : Option String) : Command :=
  let own := w.environment.temporaryDirectory.join ⟨configName w⟩
  let configs := (userConfig w files).toList ++ [own]
  { program := program
    arguments :=
      ["start", "--none", "--log", "stderr", "--log-format", "logfmt"].map
        Utf8.encode ++
        configs.flatMap fun p => [Utf8.encode "--config", p.bytes]
    bindings :=
      match token with
      | some token => [("NGROK_AUTHTOKEN", Utf8.encode token)]
      | none => [] }

-- ================================================================ start

/-- How often the agent is looked at. -/
def pollLimit : Nat := 40

/-- Looks at the agent for the `n`-th time and so many times more. -/
def waitFrom (agent : Agent) (n : Nat) : Nat → Except TunnelFault Unit
  | 0 => .error .silent
  | more + 1 =>
    match agent.poll n with
    | .exited status => .error (.exited status)
    | .running (.ok response) =>
      if response.status.isSuccess then .ok () else waitFrom agent (n + 1) more
    | .running (.error _) => waitFrom agent (n + 1) more

/-- Waits until the interface of the agent answers. -/
def waitReady (agent : Agent) : Except TunnelFault Unit :=
  waitFrom agent 0 pollLimit

/-- The start of an agent: the attempt, if it came to one; the agent or
what failed; and the files from then on. -/
structure AgentStart where
  attempt : Option Attempt
  result : Except Failure Agent
  files : Files

/-- Takes the configuration file away. -/
def removeConfig (w : World) (files : Files) : Files :=
  files.drop w.environment.temporaryDirectory (configName w)

/-- Starts the agent. -/
def startAgent (w : World) (files : Files) (program : String)
    (token : Option String) : AgentStart :=
  let config := Utf8.encode (configText w.agentAddress)
  match files.put w.environment.temporaryDirectory (configName w)
    (.file config false) with
  | .error reason => ⟨none, .error (.io reason), files⟩
  | .ok files =>
    let attempt := w.attempt files (agentCommand w files program token)
    match attempt.image with
    | .error reason =>
      ⟨some attempt, .error (.tunnel (.notStarted program reason)),
        removeConfig w files⟩
    | .ok image =>
      let agent := w.tend (w.launch attempt image)
      match waitReady agent with
      | .ok () => ⟨some attempt, .ok agent, files⟩
      | .error fault =>
        ⟨some attempt, .error (.tunnel fault), removeConfig w files⟩

-- ============================================================== requests

/-- An agent that is ready, and the requests made to it, oldest first. -/
structure Running where
  agent : Agent
  address : String
  names : Nat → String
  requests : List Http.Request

/-- The path of the interface at which tunnels are made. -/
def tunnelsPath : String := "/api/tunnels"

/-- The request for a tunnel. -/
def tunnelRequest (name : String) (port : UInt16)
    (domain : Option String) : Http.Request :=
  let body := Json.Value.ofMembers <|
    [("name", .string s!"aeneas-{name}"), ("addr", .string (toString port)),
      ("proto", .string "http")] ++
      (domain.map fun d => ("domain", .string d)).toList
  ⟨"POST", tunnelsPath, some Http.jsonType, Utf8.encode body.write⟩

/-- What the final answer to a request for a tunnel amounts to. -/
def ofAnswer (url : String) (domain : Option String)
    (answer : Except Http.Loss Http.Response) :
    Except Failure Tunnel :=
  match answer with
  | .error loss => .error (.http (.unanswered url loss))
  | .ok response =>
    if response.status.isSuccess then
      match Json.message? "public_url" response.body with
      | some publicUrl => .ok ⟨publicUrl, domain⟩
      | none => .error (.http .unreadable)
    else
      match Json.message? "msg" response.body with
      | some words => .error (.tunnel (.stated words))
      | none => .error (.tunnel (.stated response.status.text))

/-- An agent provides tunnels, one request each. -/
def connect : Provider Running := fun r port domain =>
  let request := tunnelRequest (r.names r.requests.length) port domain
  let requests := r.requests ++ [request]
  (ofAnswer s!"http://{r.address}{tunnelsPath}" domain
    (r.agent.answer requests), { r with requests := requests })

end Restoration.Tunnel
