/-
The order of a run, and what stops it.

A run comes through its stages one by one: the files are prepared, the
checkpoint is found in them, the worker is started with it, the address is
bound and the port is published (`serve_eq`). Everything below is read off
the four ways in which that can go (`serve_ends`).

What happens up to the start of the worker is settled before the worker
says a word (`opening`), so it has happened also where the worker hangs and
the run gets no further (`happened`). Either that is all that is ever
attempted, or a worker is ready, the address is bound and there is a server
(`serve_cases`).

Only three stages can stop a run (`Stops`). What the programs of the
preparation did shows in the files that they left and nowhere else, and
what became of the agent shows nowhere.
-/
import Mathlib
import Restoration.Proofs.Preparation
import Restoration.Proofs.Tunnel
import Restoration.Proofs.Worker.Starting
import Restoration.Startup

namespace Restoration.Startup

variable (w : World) (files : Files) (s : Settings) (o : Options)

-- ================================================================ stages

/-- The files when the preparation is over. -/
def prepared : Files := (prepare w files s o).2

/-- The search for the checkpoint in them. -/
def searched : Except Failure Path × List Event :=
  findCheckpoint (prepared w files s o) s.matcher s.inputDirectory

/-- What happens until the search is over. -/
def searching : History :=
  (prepare w files s o).1 ++ [.told (.findingCheckpoint s.inputDirectory)] ++
    .ofEvents (searched w files s o).2

/-- The start of the worker with a checkpoint. -/
def started? (path : Path) : Option Worker.ScriptStart :=
  Worker.startScript w (prepared w files s o) s.python s.checkout path

/-- The attempt to start the worker, if it comes to one. -/
def workerAttempt? : Option Attempt :=
  match (searched w files s o).1 with
  | .error _ => none
  | .ok path =>
    Worker.scriptAttempt? w (prepared w files s o) s.python s.checkout path

/-- What happens before the worker says anything. -/
def opening : History :=
  match (searched w files s o).1 with
  | .error _ => searching w files s o
  | .ok path =>
    searching w files s o ++ [.told (.loadingCheckpoint path)] ++
      ((workerAttempt? w files s o).map Act.attempted).toList

/-- A run from then on. -/
def resumed (history : History) (started : Worker.ScriptStart) : Run :=
  match started.result with
  | .error f =>
    ⟨history, [], .error (.notLoaded f), started.files, started.files⟩
  | .ok ready => serveWith w started.files s o history ready

/-- A run stage by stage. -/
theorem serve_eq :
    serve w files s o =
      match (searched w files s o).1 with
      | .error f =>
        some ⟨opening w files s o, [], .error (.noCheckpoint f),
          prepared w files s o, prepared w files s o⟩
      | .ok path =>
        (started? w files s o path).map
          (resumed w s o (opening w files s o)) := by
  unfold serve opening workerAttempt?
  simp only [searching, searched, prepared, started?]
  generalize prepare w files s o = preparation
  obtain ⟨history, files'⟩ := preparation
  dsimp only
  cases findCheckpoint files' s.matcher s.inputDirectory with
  | mk found events =>
    cases found with
    | error f => rfl
    | ok path =>
      dsimp only
      cases hstarted : Worker.startScript w files' s.python s.checkout path with
      | none => rfl
      | some started =>
        rw [← (Worker.startScript_cases hstarted).1]
        dsimp only [Option.map_some]
        unfold resumed
        cases started.result <;> rfl

variable {w files s o}

/-- Without a checkpoint the run ends before a worker is started. -/
theorem serve_of_error {f : Failure}
    (hsearched : (searched w files s o).1 = .error f) :
    serve w files s o = some ⟨opening w files s o, [], .error (.noCheckpoint f),
      prepared w files s o, prepared w files s o⟩ := by
  rw [serve_eq, hsearched]

/-- With one it goes on as the start of the worker does. -/
theorem serve_of_ok {path : Path}
    (hsearched : (searched w files s o).1 = .ok path) :
    serve w files s o =
      (started? w files s o path).map
        (resumed w s o (opening w files s o)) := by
  rw [serve_eq, hsearched]

variable (w files s o) in
/-- What becomes of a run: there is no checkpoint, the worker hangs, it does
not start, or it is ready. -/
inductive Ends : Option Run → Prop
  | noCheckpoint {f : Failure}
      (hsearched : (searched w files s o).1 = .error f) :
      Ends (some ⟨opening w files s o, [], .error (.noCheckpoint f),
        prepared w files s o, prepared w files s o⟩)
  | hangs {path : Path} (hsearched : (searched w files s o).1 = .ok path)
      (hstarted : started? w files s o path = none) : Ends none
  | notLoaded {path : Path} {started : Worker.ScriptStart} {f : Failure}
      (hsearched : (searched w files s o).1 = .ok path)
      (hstarted : started? w files s o path = some started)
      (hresult : started.result = .error f) :
      Ends (some ⟨opening w files s o, [], .error (.notLoaded f),
        started.files, started.files⟩)
  | ready {path : Path} {started : Worker.ScriptStart} {ready : Worker.Ready}
      (hsearched : (searched w files s o).1 = .ok path)
      (hstarted : started? w files s o path = some started)
      (hresult : started.result = .ok ready) :
      Ends (some (serveWith w started.files s o (opening w files s o) ready))

variable (w files s o) in
/-- Every end of a run is one of those listed. -/
theorem serve_ends : Ends w files s o (serve w files s o) := by
  cases hsearched : (searched w files s o).1 with
  | error f =>
    rw [serve_of_error hsearched]
    exact .noCheckpoint hsearched
  | ok path =>
    rw [serve_of_ok hsearched]
    cases hstarted : started? w files s o path with
    | none => exact .hangs hsearched hstarted
    | some started =>
      rw [Option.map_some, resumed]
      split
      case h_1 f hresult => exact .notLoaded hsearched hstarted hresult
      case h_2 ready hresult => exact .ready hsearched hstarted hresult

/-- The worker is started only with a checkpoint and a script in place. -/
theorem workerAttempt?_eq_some {a : Attempt} :
    workerAttempt? w files s o = some a ↔
      ∃ path scripted, (searched w files s o).1 = .ok path ∧
        (prepared w files s o).put w.environment.temporaryDirectory
          (Worker.scriptName w) (.file Worker.script false) = .ok scripted ∧
        a = w.attempt scripted
          (Worker.loading (Worker.scriptCommand w scripted s.python s.checkout)
            path) := by
  unfold workerAttempt?
  cases (searched w files s o).1 with
  | error f => simp
  | ok path => simp [Worker.scriptAttempt?_eq_some]

variable (w files s o)

-- ============================================================== attempts

/-- The preparation tries to install and then to clone, unless it is
switched off. -/
theorem attempts_prepare :
    (prepare w files s o).1.attempts =
      if o.withoutPreparation then []
      else (Preparation.installAttempt? w files (planOf s)).toList ++
        (Preparation.cloneAttempt? w files (planOf s)).toList := by
  unfold prepare
  split
  · rfl
  · exact Preparation.run_attempts w files (planOf s)

/-- Up to the worker, the attempts are those of the preparation and then
that of the worker. -/
theorem attempts_opening :
    (opening w files s o).attempts =
      (prepare w files s o).1.attempts ++
        (workerAttempt? w files s o).toList := by
  unfold opening
  cases hsearched : (searched w files s o).1 with
  | error f =>
    have hnone : workerAttempt? w files s o = none := by
      rw [workerAttempt?, hsearched]
    simp [searching, hnone]
  | ok path => cases workerAttempt? w files s o <;> simp [searching]

-- ================================================================ server

/-- The worker that was attempted has its checkpoint ready, and the address
is bound. -/
structure Bound (worker : Attempt) (ready : Worker.Ready) (address : String)
    (port : UInt16) :
    Prop where
  found : ∃ path, (searched w files s o).1 = .ok path ∧
    Worker.GetsReady w worker path ready
  listens : w.listen s.host = .ok (address, port)

/-- What is attempted and asked for a server that is up. -/
structure Publishes (run : Run) (before : History) (port : UInt16)
    (agent : Option Attempt) :
    Prop where
  attempts : run.history.attempts = before.attempts ++ agent.toList
  agent_only : ∀ a, agent = some a → o.withoutTunnel = false ∧ ∃ configured,
    a = w.attempt configured
      (Tunnel.agentCommand w configured s.tunnel.program s.tunnel.token)
  requests : ∀ r ∈ run.tunnelRequests, agent ≠ none ∧ Tunnel.Asks r port

/-- The agent is attempted once at most, and every request to it names the
port. -/
theorem openTunnel_cases (s : TunnelSettings) (port : UInt16) :
    ∃ agent : Option Attempt,
      (openTunnel w files s port).history.attempts = agent.toList ∧
      (∀ a, agent = some a → ∃ configured,
        a = w.attempt configured
          (Tunnel.agentCommand w configured s.program s.token)) ∧
      ∀ r ∈ (openTunnel w files s port).requests, agent ≠ none ∧
        Tunnel.Asks r port := by
  rcases Tunnel.startAgent_cases w files s.program s.token with
    ⟨hattempt, reason, hfailed⟩ | ⟨configured, -, hattempt⟩
  · refine ⟨none, ?_, nofun, ?_⟩ <;> simp [openTunnel, hattempt, hfailed]
  · refine ⟨some (w.attempt configured
        (Tunnel.agentCommand w configured s.program s.token)),
      ?_, fun a ha => ⟨configured, (Option.some.inj ha).symm⟩, ?_⟩
    · unfold openTunnel
      dsimp only
      rw [hattempt]
      split <;> simp
    · unfold openTunnel
      dsimp only
      have nothing : ∀ r ∈ ([] : List Http.Request), Tunnel.Asks r port :=
        fun r hr => absurd hr List.not_mem_nil
      split
      · exact fun r hr => absurd hr List.not_mem_nil
      · exact fun r hr =>
          ⟨Option.some_ne_none _,
            Tunnel.publish_asks _ port s.domain nothing r hr⟩

/-- A worker that is ready serves, unless the address cannot be had. -/
theorem serveWith_cases (history : History) (ready : Worker.Ready) :
    (∃ reason, w.listen s.host = .error reason ∧
      (serveWith w files s o history ready).result
        = .error (.notBound s.host.address reason) ∧
      (serveWith w files s o history ready).history.attempts
        = history.attempts ∧
      (serveWith w files s o history ready).tunnelRequests = []) ∨
    ∃ address port agent, w.listen s.host = .ok (address, port) ∧
      (serveWith w files s o history ready).result =
        .ok ⟨ready.session, s.params, address, port⟩ ∧
      Publishes w s o (serveWith w files s o history ready) history
        port agent := by
  unfold serveWith
  dsimp only
  cases hlisten : w.listen s.host with
  | error reason => exact .inl ⟨reason, rfl, rfl, by simp, rfl⟩
  | ok bound =>
    obtain ⟨address, port⟩ := bound
    right
    cases htunnel : o.withoutTunnel with
    | true => exact ⟨address, port, none, rfl, rfl, by simp, nofun, by simp⟩
    | false =>
      obtain ⟨agent, hattempts, hagent, hrequests⟩ :=
        openTunnel_cases w files s.tunnel port
      refine ⟨address, port, agent, rfl, rfl, ?_,
        fun a ha => ⟨htunnel, hagent a ha⟩, hrequests⟩
      simp [hattempts]

-- =================================================================== run

/-- What has happened in a run, as far as it gets. -/
def happened : History :=
  ((serve w files s o).map Run.history).getD (opening w files s o)

variable {w files s o}

/-- What happened in a run that ended is its history. -/
theorem happened_of_some {run : Run} (h : serve w files s o = some run) :
    happened w files s o = run.history := by
  rw [happened, h, Option.map_some, Option.getD_some]

variable (w files s o)

/-- Nothing is attempted after the worker, or there is a server. -/
theorem serve_cases :
    ((happened w files s o).attempts = (opening w files s o).attempts ∧
      ∀ run, serve w files s o = some run →
        run.tunnelRequests = [] ∧ ∃ stop, run.result = .error stop) ∨
    ∃ worker ready address port run agent,
      workerAttempt? w files s o = some worker ∧
      Bound w files s o worker ready address port ∧
      serve w files s o = some run ∧
      run.result = .ok ⟨ready.session, s.params, address, port⟩ ∧
      Publishes w s o run (opening w files s o) port agent := by
  have hends := serve_ends w files s o
  unfold happened
  generalize serve w files s o = ending at hends ⊢
  cases hends with
  | noCheckpoint hsearched =>
    refine .inl ⟨rfl, fun run hrun => ?_⟩
    obtain rfl := Option.some.inj hrun
    exact ⟨rfl, _, rfl⟩
  | hangs => exact .inl ⟨rfl, nofun⟩
  | notLoaded =>
    refine .inl ⟨rfl, fun run hrun => ?_⟩
    obtain rfl := Option.some.inj hrun
    exact ⟨rfl, _, rfl⟩
  | @ready path started ready hsearched hstarted hresult =>
    -- the attempt of the worker lies in the opening, so only an agent can
    -- follow
    rcases serveWith_cases w started.files s o (opening w files s o) ready with
      ⟨reason, -, hstopped, hattempts, hrequests⟩ |
      ⟨address, port, agent, hlisten, hup, hpublishes⟩
    · refine .inl ⟨hattempts, fun run hrun => ?_⟩
      obtain rfl := Option.some.inj hrun
      exact ⟨hrequests, _, hstopped⟩
    · obtain ⟨hattempt, hready⟩ := Worker.startScript_cases hstarted
      obtain ⟨worker, hworker, hgets⟩ := hready ready hresult
      have hmade : workerAttempt? w files s o = some worker := by
        rw [workerAttempt?, hsearched, ← hworker]
        exact hattempt.symm
      exact .inr ⟨worker, ready, address, port, _, agent, hmade,
        ⟨⟨path, hsearched, hgets⟩, hlisten⟩, rfl, hup, hpublishes⟩

/-- Serving adds to the history and takes nothing back. -/
theorem prefix_serveWith (history : History) (ready : Worker.Ready) :
    history <+: (serveWith w files s o history ready).history := by
  unfold serveWith
  dsimp only
  split
  · exact List.prefix_append _ _
  · rw [List.append_assoc, List.append_assoc]
    exact List.prefix_append _ _

/-- What happens before the worker says anything has happened in every run. -/
theorem opening_prefix_happened :
    opening w files s o <+: happened w files s o := by
  have hends := serve_ends w files s o
  unfold happened
  generalize serve w files s o = ending at hends ⊢
  cases hends with
  | noCheckpoint => exact List.prefix_refl _
  | hangs => exact List.prefix_refl _
  | notLoaded => exact List.prefix_refl _
  | ready => exact prefix_serveWith w _ s o _ _

/-- So the attempt to start the worker is made if it can be. -/
theorem workerAttempt?_mem {a : Attempt}
    (h : workerAttempt? w files s o = some a) :
    a ∈ (happened w files s o).attempts := by
  have hopening : a ∈ (opening w files s o).attempts := by
    rw [attempts_opening, h]
    exact List.mem_append_right _ List.mem_cons_self
  exact ((opening_prefix_happened w files s o).filterMap _).mem hopening

-- ================================================================= stops

/-- What stops a run: there is no checkpoint, the worker does not start, or
the address cannot be had. -/
inductive Stops : Stop → Prop
  | noCheckpoint {f : Failure}
      (hsearched : (searched w files s o).1 = .error f) :
      Stops (.noCheckpoint f)
  | notLoaded {path : Path} {started : Worker.ScriptStart} {f : Failure}
      (hsearched : (searched w files s o).1 = .ok path)
      (hstarted : started? w files s o path = some started)
      (hresult : started.result = .error f) : Stops (.notLoaded f)
  | notBound {path : Path} {started : Worker.ScriptStart} {ready : Worker.Ready}
      {reason : SystemError} (hsearched : (searched w files s o).1 = .ok path)
      (hstarted : started? w files s o path = some started)
      (hresult : started.result = .ok ready)
      (hlisten : w.listen s.host = .error reason) :
      Stops (.notBound s.host.address reason)

/-- A run is stopped by these and by nothing else. -/
theorem stops_iff {stop : Stop} :
    (∃ run, serve w files s o = some run ∧ run.result = .error stop) ↔
      Stops w files s o stop := by
  constructor
  · rintro ⟨run, hserve, hresult⟩
    have hends := serve_ends w files s o
    rw [hserve] at hends
    cases hends with
    | noCheckpoint hsearched =>
      cases hresult
      exact .noCheckpoint hsearched
    | notLoaded hsearched hstarted hfailed =>
      cases hresult
      exact .notLoaded hsearched hstarted hfailed
    | @ready path started ready hsearched hstarted hready =>
      rcases serveWith_cases w started.files s o (opening w files s o)
          ready with
        ⟨reason, hlisten, hstopped, -⟩ | ⟨address, port, agent, -, hup, -⟩
      · rw [hstopped] at hresult
        cases hresult
        exact .notBound hsearched hstarted hready hlisten
      · rw [hup] at hresult
        cases hresult
  · rintro (hsearched | ⟨hsearched, hstarted, hfailed⟩ |
      ⟨hsearched, hstarted, hready, hlisten⟩)
    · exact ⟨_, serve_of_error hsearched, rfl⟩
    · refine ⟨_,
        (serve_of_ok hsearched).trans (congrArg (Option.map _) hstarted), ?_⟩
      unfold resumed
      rw [hfailed]
    · refine ⟨_,
        (serve_of_ok hsearched).trans (congrArg (Option.map _) hstarted), ?_⟩
      unfold resumed serveWith
      rw [hready]
      dsimp only
      rw [hlisten]

-- ================================================================= order

/-- What follows the preparation, and what each of it stands behind. -/
structure Follows (worker agent : Option Attempt) : Prop where
  attempts : (happened w files s o).attempts =
    (prepare w files s o).1.attempts ++ worker.toList ++ agent.toList
  /-- The agent is attempted after a server is up, unless there is to be no
  tunnel. -/
  agent_only : ∀ a, agent = some a → o.withoutTunnel = false ∧
    (∃ b ready address port, worker = some b ∧
      Bound w files s o b ready address port) ∧
    ∃ configured, a = w.attempt configured
      (Tunnel.agentCommand w configured s.tunnel.program s.tunnel.token)
  /-- Requests for tunnels name the port that is bound. -/
  requests : ∀ run, serve w files s o = some run → ∀ r ∈ run.tunnelRequests,
    agent ≠ none ∧ ∃ b ready address port, worker = some b ∧
      Bound w files s o b ready address port ∧ Tunnel.Asks r port
  /-- Requests are answered by a session that is ready. -/
  server : ∀ run server, serve w files s o = some run →
    run.result = .ok server → ∃ b ready, worker = some b ∧
      Bound w files s o b ready server.address server.port ∧
      server.session = ready.session

/-- All attempts of a run, what each of them stands behind, and what stops
the run. -/
structure InOrder (install clone worker agent : Option Attempt) : Prop
    extends Follows w files s o worker agent where
  preparation : (prepare w files s o).1.attempts = install.toList ++
    clone.toList
  install_iff : ∀ a, install = some a ↔ o.withoutPreparation = false ∧
    s.packages ≠ [] ∧ a = w.attempt files (planOf s).installCommand
  clone_iff : ∀ a, clone = some a ↔ o.withoutPreparation = false ∧
    (Preparation.cleared w files (planOf s)).result = .ok () ∧
    a = w.attempt (Preparation.cleared w files (planOf s)).files
      (planOf s).cloneCommand
  /-- The worker is attempted where a checkpoint is found and the worker
  program can be written down. -/
  worker_iff : ∀ a, worker = some a ↔ ∃ path scripted,
    (findCheckpoint (prepared w files s o) s.matcher s.inputDirectory).1
      = .ok path ∧
    (prepared w files s o).put w.environment.temporaryDirectory
      (Worker.scriptName w) (.file Worker.script false) = .ok scripted ∧
    a = w.attempt scripted
      (Worker.loading (Worker.scriptCommand w scripted s.python s.checkout)
        path)
  checkpoint : ∀ a, worker = some a → ∃ path,
    (findCheckpoint (prepared w files s o) s.matcher s.inputDirectory).1
      = .ok path ∧
    (w.environment.set a.command.bindings).bytes? "AENEAS_CHECKPOINT"
      = some path.bytes
  stops : ∀ stop,
    (∃ run, serve w files s o = some run ∧ run.result = .error stop) ↔
    Stops w files s o stop

/-- In every run the agent follows the worker, and both follow the
preparation. -/
theorem follows :
    ∃ agent, Follows w files s o (workerAttempt? w files s o) agent := by
  rcases serve_cases w files s o with ⟨hattempts, hstopped⟩ |
    ⟨worker, ready, address, port, run, agent, hworker, hbound, hserve,
      hup, hpublishes⟩
  · refine ⟨none, ?_, nofun, ?_, ?_⟩
    · rw [hattempts, attempts_opening, Option.toList_none, List.append_nil]
    · intro run hrun r hr
      rw [(hstopped run hrun).1] at hr
      cases hr
    · intro run server hrun hserver
      obtain ⟨stop, hstop⟩ := (hstopped run hrun).2
      rw [hstop] at hserver
      cases hserver
  · refine ⟨agent, ?_, ?_, ?_, ?_⟩
    · rw [happened_of_some hserve, hpublishes.attempts, attempts_opening]
    · intro a ha
      obtain ⟨htunnel, hcommand⟩ := hpublishes.agent_only a ha
      exact ⟨htunnel, ⟨worker, ready, address, port, hworker, hbound⟩, hcommand⟩
    · intro run' hrun' r hr
      obtain rfl := Option.some.inj (hserve.symm.trans hrun')
      obtain ⟨hagent, hasks⟩ := hpublishes.requests r hr
      exact ⟨hagent, worker, ready, address, port, hworker, hbound, hasks⟩
    · intro run' server hrun' hserver
      obtain rfl := Option.some.inj (hserve.symm.trans hrun')
      rw [hup] at hserver
      cases hserver
      exact ⟨worker, ready, hworker, hbound, rfl⟩

/-- Every run is in order. -/
theorem serve_inOrder :
    ∃ install clone worker agent,
      InOrder w files s o install clone worker agent := by
  obtain ⟨agent, hfollows⟩ := follows w files s o
  refine ⟨if o.withoutPreparation then none
    else Preparation.installAttempt? w files (planOf s),
    if o.withoutPreparation then none
    else Preparation.cloneAttempt? w files (planOf s),
    workerAttempt? w files s o, agent, ?_⟩
  constructor
  case toFollows => exact hfollows
  case preparation =>
    rw [attempts_prepare]
    split <;> rfl
  case install_iff =>
    intro a
    cases o.withoutPreparation with
    | true => simp
    | false =>
      rw [if_neg Bool.false_ne_true, Preparation.installAttempt?_eq_some,
        eq_self, true_and]
      exact Iff.rfl
  case clone_iff =>
    intro a
    cases o.withoutPreparation <;> simp [Preparation.cloneAttempt?_eq_some]
  case worker_iff => exact fun a => workerAttempt?_eq_some
  case checkpoint =>
    intro a ha
    obtain ⟨path, scripted, hsearched, -, rfl⟩ := workerAttempt?_eq_some.mp ha
    exact ⟨path, hsearched, rfl⟩
  case stops => exact fun stop => stops_iff w files s o

variable {w files s o}

/-- A world without programs. -/
def idleWorld : World where
  environment := ⟨[], none⟩
  run launch := ⟨.code 0, [], launch.files⟩
  converse _ := ⟨⟨[], true⟩, fun _ => ⟨[], true⟩⟩
  tend _ := ⟨fun _ => .exited (.code 0), fun _ => .error .dropped⟩
  agentAddress := "127.0.0.1:4040"
  send _ _ := .error .dropped
  listen host := .ok (host.address, 8000)
  names := ⟨"0", "0", fun _ => "0", fun _ => "0"⟩

/-- A checkpoint below the working directory, and a directory of temporary
files. -/
def idleFiles : Files where
  root := .directory true [
    (Utf8.encode "cwd", .directory true [
      (Utf8.encode "in",
        .directory true [(Utf8.encode "aeneas.pkl", .file [] false)])]),
    (Utf8.encode "tmp", .directory true [])]
  workingDirectory := [Utf8.encode "cwd"]

/-- The checkout is to stand where the temporary files do. -/
def idleSettings : Settings :=
  { Settings.ofLookup none (fun _ => none) with
    inputDirectory := .ofString "in", checkout :=
      .ofString "../tmp", python := "nope" }

/-- The preparation removes the temporary directory, as that is where the
checkout is to stand. -/
theorem prepared_idle :
    prepared idleWorld idleFiles idleSettings ⟨true, false⟩ =
      ⟨.directory true [(Utf8.encode "cwd", .directory true [
        (Utf8.encode "in",
          .directory true [(Utf8.encode "aeneas.pkl", .file [] false)])])],
        [Utf8.encode "cwd"]⟩ := by
  with_unfolding_all rfl

/-- A checkpoint that is found is not loaded where the worker program cannot
be written down: all that is attempted is what prepares the files. -/
theorem serve_unwritable :
    (findCheckpoint (prepared idleWorld idleFiles idleSettings ⟨true, false⟩)
      idleSettings.matcher idleSettings.inputDirectory).1
      = .ok (.ofString "in/aeneas.pkl") ∧
    (happened idleWorld idleFiles idleSettings ⟨true, false⟩).attempts.map
      (·.command.bindings) = [[], []] := by
  constructor
  · rw [prepared_idle, show idleSettings.matcher = .default from rfl,
      show idleSettings.inputDirectory = .ofString "in" from rfl]
    cbv
  · have hworker : workerAttempt? idleWorld idleFiles idleSettings ⟨true, false⟩
        = none := by
      rw [Option.eq_none_iff_forall_ne_some]
      intro a ha
      obtain ⟨path, scripted, -, hput, -⟩ := workerAttempt?_eq_some.mp ha
      have hnone : ∀ n,
          (prepared idleWorld idleFiles idleSettings ⟨true, false⟩).put
          idleWorld.environment.temporaryDirectory
          (Worker.scriptName idleWorld) n = .error .noEntry := by
        intro n
        with_unfolding_all rfl
      rw [hnone] at hput
      cases hput
    obtain ⟨agent, hfollows⟩ :=
      follows idleWorld idleFiles idleSettings ⟨true, false⟩
    have hagent : agent = none := by
      rw [Option.eq_none_iff_forall_ne_some]
      exact fun a ha => Bool.noConfusion (hfollows.agent_only a ha).1
    rw [hfollows.attempts, hworker, hagent]
    with_unfolding_all rfl

end Restoration.Startup
