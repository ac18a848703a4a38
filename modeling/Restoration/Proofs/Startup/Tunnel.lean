/-
The tunnel has no influence on service.

Two runs that differ in the tunnel only (`SameButTunnel`) go through the
same stages up to the point where the port is published, and there the
server is already settled. Their workers are started alike, whatever ids
the calls are to draw (`started?_inStep`), so either the same thing stops
both runs or both servers are in step.
-/
import Restoration.Proofs.Startup.Order
import Restoration.Proofs.Worker.InStep

namespace Restoration.Startup

/-- Two worlds and settings that differ only in the tunnel, what is given to
it and what becomes of it, and in the ids that are drawn. -/
structure SameButTunnel (w w' : World) (s s' : Settings) : Prop where
  environment : w'.environment = w.environment
  run : w'.run = w.run
  converse : w'.converse = w.converse
  listen : w'.listen = w.listen
  script : w'.names.script = w.names.script
  settings : s' = { s with tunnel := s'.tunnel }

variable {w w' : World} {s s' : Settings} {o o' : Options}

namespace SameButTunnel

/-- Which program is found, and with which files, has nothing to do with the
tunnel. -/
theorem attempt (h : SameButTunnel w w' s s') : w'.attempt = w.attempt := by
  funext files command
  unfold World.attempt
  rw [h.environment]

/-- Nor has what a program is given when it starts. -/
theorem launch (h : SameButTunnel w w' s s') : w'.launch = w.launch := by
  funext a image
  unfold World.launch
  rw [h.environment]

/-- Nor what is to be prepared. -/
theorem planOf (h : SameButTunnel w w' s s') : planOf s' = planOf s := by
  rw [h.settings]
  rfl

/-- Nor how a step of it goes, since it is known by the launch alone. -/
theorem runStep (h : SameButTunnel w w' s s') :
    Preparation.runStep w' = Preparation.runStep w := by
  funext files step command
  unfold Preparation.runStep
  rw [h.attempt, h.launch, h.run]

/-- So the two preparations are one, with the same files and the same
history. -/
theorem prepare (h : SameButTunnel w w' s s')
    (hprepare : o'.withoutPreparation = o.withoutPreparation) (files : Files) :
    prepare w' files s' o' = prepare w files s o := by
  unfold Startup.prepare Preparation.run Preparation.replaceCheckout
  rw [hprepare, h.planOf, h.runStep]

/-- And so is the search for the checkpoint in what it leaves. -/
theorem searched (h : SameButTunnel w w' s s')
    (hprepare : o'.withoutPreparation = o.withoutPreparation) (files : Files) :
    searched w' files s' o' = searched w files s o := by
  unfold Startup.searched prepared
  rw [h.prepare hprepare, h.settings]

end SameButTunnel

-- ================================================================ worker

open Worker (Session ScriptStart Ready)

/-- Two workers have been started alike. -/
inductive ReadyInStep (params : Params) :
    Except Failure Ready → Except Failure Ready → Prop
  | failed (f : Failure) : ReadyInStep params (.error f) (.error f)
  | ready (checkpoint : Checkpoint) {s t : Session} (h : s.InStep params t) :
      ReadyInStep params (.ok ⟨checkpoint, s⟩) (.ok ⟨checkpoint, t⟩)

/-- Two workers that are blind to the ids of their sessions start alike, or
neither does. Only the ids differ between the two sessions. -/
theorem start_inStep (h : SameButTunnel w w' s s') {params : Params}
    (blind : ∀ launch,
      (w.converse launch).Blind w.names.calls w'.names.calls params)
    (files : Files) (command : Command) (path : Path) :
    Option.Rel (fun a b : Worker.Start => ReadyInStep params a.result b.result)
      (Worker.start w files command path)
      (Worker.start w' files command path) := by
  unfold Worker.start
  rw [h.attempt, h.launch, h.converse]
  dsimp only
  cases (w.attempt files (Worker.loading command path)).image with
  | error reason => exact .some (.failed _)
  | ok image =>
    dsimp only
    have hshake := Session.handshake_inStep (blind
      (w.launch (w.attempt files (Worker.loading command path)) image)) path
    generalize (Session.start _ w.names.calls).handshake path = x at hshake ⊢
    generalize (Session.start _ w'.names.calls).handshake path = y at hshake ⊢
    cases hshake with
    | none => exact .none
    | some hshake =>
      cases hshake with
      | failed f => exact .some (.failed f)
      | ready checkpoint hsession => exact .some (.ready checkpoint hsession)

/-- The same for the worker's program, which is put among the temporary
files first. -/
theorem started?_inStep (h : SameButTunnel w w' s s')
    (hprepare : o'.withoutPreparation = o.withoutPreparation)
    (blind : ∀ launch,
      (w.converse launch).Blind w.names.calls w'.names.calls s.params)
    (files : Files) (path : Path) :
    Option.Rel (fun a b : ScriptStart => ReadyInStep s.params a.result b.result)
      (started? w files s o path) (started? w' files s' o' path) := by
  have hname : Worker.scriptName w' = Worker.scriptName w := by
    rw [Worker.scriptName, h.script]
    rfl
  have hcommand : Worker.scriptCommand w' = Worker.scriptCommand w := by
    funext files python checkout
    unfold Worker.scriptCommand Worker.modulePath
    rw [h.environment, hname]
  unfold started? prepared Worker.startScript
  rw [h.prepare hprepare, h.settings, h.environment, hname, hcommand]
  dsimp only
  cases (prepare w files s o).2.put w.environment.temporaryDirectory
    (Worker.scriptName w)
      (.file Worker.script false) with
  | error reason => exact .some (.failed _)
  | ok scripted =>
    dsimp only
    have hstart := start_inStep h blind scripted
      (Worker.scriptCommand w scripted s.python s.checkout) path
    generalize Worker.start w _ _ _ = x at hstart ⊢
    generalize Worker.start w' _ _ _ = y at hstart ⊢
    cases hstart with
    | none => exact .none
    | @some a b hresult =>
      obtain ⟨attempt, result⟩ := a
      obtain ⟨attempt', result'⟩ := b
      cases hresult with
      | failed f => exact .some (.failed f)
      | ready checkpoint hsession => exact .some (.ready checkpoint hsession)

-- =================================================================== run

/-- Two runs end alike: the same thing stops both, or there are two servers
at one address that answer all requests alike, with their workers in
step. -/
inductive EndsAlike (params : Params) :
    Except Stop Server → Except Stop Server → Prop
  | stopped (stop : Stop) : EndsAlike params (.error stop) (.error stop)
  | up {a b : Server} (address : a.address = b.address) (port : a.port = b.port)
      (session : a.session.InStep params b.session)
      (responses : ∀ requests, Option.Rel
        (List.Forall₂ (Route.Responded.Alike (Session.InStep params)))
        (a.respondAll requests) (b.respondAll requests)) :
      EndsAlike params (.ok a) (.ok b)

/-- From the handshake on only the listening and the answers count, so both
runs end alike, whatever comes of the tunnel. -/
theorem serveWith_endsAlike (h : SameButTunnel w w' s s') {a b : Session}
    (hsession : a.InStep s.params b) (files files' : Files)
    (history history' : History) (checkpoint : Checkpoint) :
    EndsAlike s.params (serveWith w files s o history ⟨checkpoint, a⟩).result
      (serveWith w' files' s' o' history' ⟨checkpoint, b⟩).result := by
  have hhost : s'.host = s.host := by rw [h.settings]
  have hparams : s'.params = s.params := by rw [h.settings]
  unfold serveWith
  rw [h.listen, hhost, hparams]
  dsimp only
  cases w.listen s.host with
  | error reason => exact .stopped _
  | ok bound =>
    refine .up rfl rfl hsession fun requests => ?_
    exact Route.respondAll_simulates (Session.simulates_inStep s.params)
      hsession requests

/-- The tunnel has no influence on service. Whatever becomes of the agent
and of the requests to it, and if there is none, two runs of the same
service end alike, or neither ends. The worker may be any if the runs draw
the same ids; if not, it must not tell the ids apart. -/
theorem serve_tunnel (h : SameButTunnel w w' s s')
    (hprepare : o'.withoutPreparation = o.withoutPreparation)
    (hids : w'.names.calls = w.names.calls ∨
      ∀ launch, (w.converse launch).Blind w.names.calls w'.names.calls s.params)
    (files : Files) :
    Option.Rel (fun run run' => EndsAlike s.params run.result run'.result)
      (serve w files s o) (serve w' files s' o') := by
  have blind : ∀ launch,
      (w.converse launch).Blind w.names.calls w'.names.calls s.params := by
    intro launch
    rcases hids with hsame | hblind
    · rw [hsame]
      exact .refl _ _ _
    · exact hblind launch
  rw [serve_eq, serve_eq, h.searched hprepare]
  cases (searched w files s o).1 with
  | error f => exact .some (.stopped _)
  | ok path =>
    dsimp only
    have hstarted := started?_inStep h hprepare blind files path
    generalize started? w files s o path = x at hstarted ⊢
    generalize started? w' files s' o' path = y at hstarted ⊢
    cases hstarted with
    | none => exact .none
    | @some a b hresult =>
      refine .some ?_
      obtain ⟨attempt, result, files⟩ := a
      obtain ⟨attempt', result', files'⟩ := b
      unfold resumed
      cases hresult with
      | failed f => exact .stopped _
      | ready checkpoint hsession =>
          exact serveWith_endsAlike h hsession _ _ _ _ checkpoint

-- =============================================================== two runs

/-- What a worker says that is ready. -/
def readyWords : Bytes :=
  Utf8.encode
    "\x7b\"ready\":true,\"model_config\":\x7b\"vocab_char_size\":34\x7d\x7d"

/-- What it says to every request. -/
def refusal : Bytes := Utf8.encode "\x7b\"error\":\"no\"\x7d"

/-- A worker that is ready, and then refuses every text. -/
def refusingWorker : Worker.Peer where
  greeting := ⟨readyWords ++ [10], false⟩
  react _ := ⟨refusal ++ [10], false⟩

/-- A worker that says the same to everybody names nobody. -/
theorem refusingWorker_blind (ids ids' : Nat → String) (params : Params) :
    refusingWorker.Blind ids ids' params := by
  refine Session.blind_of_same (fun _ => rfl) fun heard => ?_
  have hready : Worker.Means ids ids' readyWords readyWords :=
    fun k => by with_unfolding_all rfl
  have hrefusal : Worker.Means ids ids' refusal refusal :=
    fun k => by with_unfolding_all rfl
  -- what has been said is whole lines, and all of them are these two
  suffices h : (refusingWorker.said heard).start = [] ∧
      ∀ line ∈ (refusingWorker.said heard).lines, line = readyWords ∨
        line = refusal by
    rintro line hline
    rcases h.2 line hline with rfl | rfl
    · exact hready
    · exact hrefusal
  induction heard using List.reverseRecOn with
  | nil =>
    have hsaid : refusingWorker.said [] = ⟨[readyWords], []⟩ := by
      with_unfolding_all rfl
    rw [hsaid]
    exact ⟨rfl, fun line hline => .inl (List.mem_singleton.mp hline)⟩
  | append_singleton heard line ih =>
    have hreact : ∀ lines,
        Worker.Output.react ⟨lines, []⟩ ⟨refusal ++ [10], false⟩ =
        ⟨lines ++ [refusal], []⟩ := fun lines => by with_unfolding_all rfl
    obtain ⟨hstart, hlines⟩ := ih
    rw [Worker.Peer.said_concat]
    generalize refusingWorker.said heard = output at hstart hlines
    obtain ⟨lines, start⟩ := output
    obtain rfl : start = [] := hstart
    rw [show refusingWorker.react _ = ⟨refusal ++ [10], false⟩ from rfl, hreact]
    refine ⟨rfl, fun l hl => ?_⟩
    rcases List.mem_append.mp hl with hl | hl
    · exact hlines l hl
    · exact .inr (List.mem_singleton.mp hl)

/-- A world with this worker and an agent, both of them the program `/w`. -/
def refusingWorld (agent : Agent) (ids : Nat → String) : World where
  environment := ⟨[], none⟩
  run launch := ⟨.code 0, [], launch.files⟩
  converse _ := refusingWorker
  tend _ := agent
  agentAddress := "127.0.0.1:4040"
  send _ _ := .error .dropped
  listen host := .ok (host.address, 8000)
  names := ⟨"0", "0", ids, fun _ => "0"⟩

/-- That program and a checkpoint. -/
def refusingFiles : Files where
  root := .directory true [
    (Utf8.encode "w", .file [] true),
    (Utf8.encode "in",
      .directory true [(Utf8.encode "aeneas.pkl", .file [] false)]),
    (Utf8.encode "tmp", .directory true [])]
  workingDirectory := []

def refusingSettings (tunnel : TunnelSettings) : Settings :=
  { Settings.ofLookup none (fun _ => none) with
    inputDirectory := .ofString "in", python := "/w", tunnel := tunnel }

/-- An agent that is gone before it can be asked anything. -/
def goneAgent : Agent := ⟨fun _ => .exited (.code 1), fun _ => .error .dropped⟩

/-- An agent that makes every tunnel. -/
def readyAgent : Agent where
  poll _ := .running (.ok ⟨⟨200⟩, none, none, []⟩)
  answer _ :=
    .ok ⟨⟨201⟩, none, none,
      Utf8.encode "\x7b\"public_url\":\"https://a.test\"\x7d"⟩

/-- A service without an agent, and the same one behind a tunnel. -/
theorem serve_tunnel_refusing :
    ∃ w w' s s' run run', SameButTunnel w w' s s' ∧
      (∀ launch,
        (w.converse launch).Blind w.names.calls w'.names.calls s.params) ∧
      serve w refusingFiles s ⟨false, true⟩ = some run ∧
      serve w' refusingFiles s' ⟨false, true⟩ = some run' ∧
      run.tunnelRequests.length = 0 ∧ run'.tunnelRequests.length = 1 ∧
      EndsAlike s.params run.result run'.result := by
  have hsame : SameButTunnel (refusingWorld goneAgent toString)
      (refusingWorld readyAgent fun k => s!"call {k}")
      (refusingSettings ⟨none, none, "ngrok"⟩)
      (refusingSettings ⟨some "token", some "a.test", "/w"⟩) :=
    ⟨rfl, rfl, rfl, rfl, rfl, rfl⟩
  have hblind : ∀ launch,
      ((refusingWorld goneAgent toString).converse launch).Blind
      toString (fun k => s!"call {k}")
      (refusingSettings ⟨none, none, "ngrok"⟩).params :=
    fun _ => refusingWorker_blind _ _ _
  have hrun : (serve (refusingWorld goneAgent toString) refusingFiles
      (refusingSettings ⟨none, none, "ngrok"⟩) ⟨false, true⟩).map
        (fun run => run.tunnelRequests.length) = some 0 := by
    decide +kernel
  have hrun' :
      (serve (refusingWorld readyAgent fun k => s!"call {k}") refusingFiles
      (refusingSettings ⟨some "token", some "a.test", "/w"⟩) ⟨false, true⟩).map
        (fun run => run.tunnelRequests.length) = some 1 := by
    decide +kernel
  obtain ⟨run, hserve, hrequests⟩ := Option.map_eq_some_iff.mp hrun
  obtain ⟨run', hserve', hrequests'⟩ := Option.map_eq_some_iff.mp hrun'
  have hends : Option.Rel (fun run run' => EndsAlike _ run.result run'.result)
      (serve _ refusingFiles _ ⟨false, true⟩)
      (serve _ refusingFiles _ ⟨false, true⟩) :=
    serve_tunnel hsame rfl (.inr hblind) refusingFiles
  rw [hserve, hserve'] at hends
  cases hends with
  | some hends =>
    exact ⟨_, _, _, _, run, run', hsame, hblind, hserve, hserve', hrequests,
      hrequests', hends⟩

end Restoration.Startup
