/-
Temporary files do not outlive their owners.

Worker program and configuration of the agent are each written down for a
program that is to be started, and there are three ways in which that can go
(`Files.Lends`): the file cannot be had, it is taken away again because
nothing was started, or it is left to what was. Under a fresh name it goes
without a trace in all of them (`Files.Lends.tidy`).

In a run the agent is started beside a worker that is ready, and outlives
it. Without the worker program its configuration stands there as if it had
been put in alone (`Files.Lends.beside`). So when both are gone the files
are those that the preparation has left (`serve_files`). The preparation
itself may well work among the temporary files, for instance if the
checkout is to stand there.
-/
import Restoration.Proofs.Files.Fresh
import Restoration.Proofs.Preparation.Frame
import Restoration.Proofs.Startup.Order
import Restoration.Proofs.Startup.Tunnel
import Restoration.Proofs.Text.Encoding

namespace Restoration

open Files (SameOutside)

variable {w : World} {files : Files}

-- ================================================================= files

namespace Files

variable {ε α : Type} {f g : Files} {directory : Path} {name : Bytes} {n : Node}
  {result : Except ε α}

variable (f directory name n) in
/-- A file for something that is to be started: it cannot be had, it is
taken away again, or it is left. -/
inductive Lends : Except ε α → Files → Prop
  | unwritten (e : ε) : Lends (.error e) f
  | takenBack {g : Files} (hput : f.put directory name n = .ok g) (e : ε) :
      Lends (.error e) (g.drop directory name)
  | left {g : Files} (hput : f.put directory name n = .ok g)
      (a : α) : Lends (.ok a) g

/-- The file is there with what was started, and all is as it was when that
failed, or when the file is gone. -/
structure Tidy (f : Files) (directory : Path) (name : Bytes) (n : Node)
    (result : Except ε α) (g : Files) : Prop where
  failed : ∀ e, result = .error e → g = f
  started : ∀ a, result = .ok a → g.look (directory.join ⟨name⟩) = .ok n
  gone : g.drop directory name = f

/-- A name that is only lent, and was fresh, leaves nothing behind. -/
theorem Lends.tidy {contents : Bytes} {executable : Bool}
    (h : f.Lends directory name (.file contents executable) result g)
    (hfresh : f.Fresh name) :
    f.Tidy directory name (.file contents executable) result g := by
  cases h with
  | unwritten e => exact ⟨fun _ _ => rfl, nofun, hfresh.drop directory⟩
  | takenBack hput e =>
    rw [hfresh.drop_put hput]
    exact ⟨fun _ _ => rfl, nofun, hfresh.drop directory⟩
  | left hput a =>
      exact ⟨nofun, fun _ _ => hfresh.look_put hput, hfresh.drop_put hput⟩

/-- What was found before is found while the file is there. -/
theorem Lends.look (h : f.Lends directory name n result g)
    (hfresh : f.Fresh name) {p : Path} {contents : Bytes} {executable : Bool}
    (hlook : f.look p = .ok (.file contents executable)) :
    g.look p = .ok (.file contents executable) := by
  cases h with
  | unwritten e => exact hlook
  | takenBack hput e => rwa [hfresh.drop_put hput]
  | left hput a => exact hfresh.look_put_of_file hput hlook

/-- What is lent beside a file is lent without it, once that is taken out. -/
theorem Lends.beside {contents : Bytes} {executable : Bool} {other : Bytes}
    {g' : Files} (h : g.Lends directory other n result g')
    (hname : f.Fresh name) (hother : f.Fresh other) (hne : other ≠ name)
    (hput : f.put directory name (.file contents executable) = .ok g) :
    f.Lends directory other n result (g'.drop directory name) := by
  cases h with
  | unwritten e =>
    rw [hname.drop_put hput]
    exact .unwritten e
  | takenBack hput' e =>
    have hfresh := hother.put hne hput
    rw [hfresh.drop_put hput', hname.drop_put hput]
    exact .unwritten e
  | left hput' a => exact .left (hname.drop_put_put hother hne hput hput') a

end Files

-- ================================================================ worker

namespace Worker

variable {python : String} {checkout path : Path}

/-- The file of the worker program. -/
def scriptFile : Node := .file script false

/-- Where it is. -/
def scriptPath (w : World) : Path :=
  w.environment.temporaryDirectory.join ⟨scriptName w⟩

/-- The script of the worker lends its name in the temporary directory. -/
theorem startScript_lends {started : ScriptStart}
    (h : startScript w files python checkout path = some started) :
    files.Lends w.environment.temporaryDirectory (scriptName w) scriptFile
      started.result started.files := by
  unfold startScript at h
  split at h
  case h_1 reason hput =>
    cases h
    exact .unwritten _
  case h_2 scripted hput =>
    split at h
    · cases h
    · cases h
      exact .left hput _
    · cases h
      exact .takenBack hput _

variable (w files python checkout path) in
/-- The worker program is there for as long as the worker. -/
structure TidyScript : Prop where
  /-- A worker that is started finds the program that it is to run, also one
  that then hangs. -/
  attempted : ∀ a, scriptAttempt? w files python checkout path = some a →
    (scriptPath w).bytes ∈ a.command.arguments ∧
    a.files.look (scriptPath w) = .ok scriptFile
  /-- Where the start comes to an end, the file is left to a worker that is
  ready. -/
  ended : ∀ started, startScript w files python checkout path = some started →
    files.Tidy w.environment.temporaryDirectory (scriptName w) scriptFile
      started.result started.files

/-- So the start of the worker is tidy. -/
theorem tidyScript (h : files.Fresh (scriptName w)) :
    TidyScript w files python checkout path where
  attempted a ha := by
    obtain ⟨scripted, hput, rfl⟩ := scriptAttempt?_eq_some.mp ha
    exact ⟨List.mem_cons_of_mem _ List.mem_cons_self, h.look_put hput⟩
  ended started hstarted := (startScript_lends hstarted).tidy h

end Worker

-- ================================================================= agent

namespace Tunnel

variable {program : String} {token : Option String}

/-- The configuration file, which names the address of the agent. -/
def configFile (w : World) : Node :=
  .file (Utf8.encode (configText w.agentAddress)) false

/-- Where it is. -/
def configPath (w : World) : Path :=
  w.environment.temporaryDirectory.join ⟨configName w⟩

/-- The configuration of the agent lends a name in the same way. -/
theorem startAgent_lends (w : World) (files : Files) (program : String)
    (token : Option String) :
    files.Lends w.environment.temporaryDirectory (configName w) (configFile w)
      (startAgent w files program token).result
        (startAgent w files program token).files := by
  unfold startAgent
  dsimp only
  split
  case h_1 => exact .unwritten _
  case h_2 configured hput =>
    split
    · exact .takenBack hput _
    · split
      · exact .left hput _
      · exact .takenBack hput _

variable (w files program token) in
/-- The configuration is there for as long as the agent. -/
structure TidyConfig : Prop where
  /-- An agent that is started finds its address, also one that does not get
  ready. -/
  attempted : ∀ a, (startAgent w files program token).attempt = some a →
    (configPath w).bytes ∈ a.command.arguments ∧
    a.files.look (configPath w) = .ok (configFile w)
  /-- The file is left to an agent that is ready. -/
  ended : files.Tidy w.environment.temporaryDirectory (configName w)
    (configFile w)
    (startAgent w files program token).result
    (startAgent w files program token).files

/-- So the start of the agent is tidy. -/
theorem tidyConfig (h : files.Fresh (configName w)) :
    TidyConfig w files program token where
  attempted a ha := by
    rcases startAgent_cases w files program token with
      ⟨hnone, -⟩ | ⟨configured, hput, hattempt⟩
    · rw [hnone] at ha
      cases ha
    · rw [hattempt] at ha
      cases ha
      refine ⟨?_, h.look_put hput⟩
      -- the file is the last one that the command names
      simp [World.attempt, agentCommand, configPath]
  ended := (startAgent_lends w files program token).tidy h

/-- The two names differ. -/
theorem configName_ne (w : World) : configName w ≠ Worker.scriptName w := by
  have hhead (s rest : String) (hs : 8 ≤ (Utf8.encode s).length) :
      (Utf8.encode (s ++ rest)).take 8 = (Utf8.encode s).take 8 := by
    rw [Utf8.encode_append, List.take_append_of_le_length hs]
  intro h
  have hheads : (Utf8.encode "aeneas-ngrok-").take 8
      = (Utf8.encode "aeneas-worker-").take 8 := by
    rw [← hhead "aeneas-ngrok-" (w.names.config ++ ".yml")
        (by with_unfolding_all decide),
      ← hhead "aeneas-worker-" (w.names.script ++ ".py")
        (by with_unfolding_all decide),
      ← String.append_assoc, ← String.append_assoc]
    exact congrArg (List.take 8) h
  revert hheads
  with_unfolding_all decide

end Tunnel

-- =================================================================== run

namespace Startup

variable {s : Settings} {o : Options}

/-- Opening a tunnel leaves the files that the agent leaves. -/
theorem openTunnel_files (w : World) (files : Files) (s : TunnelSettings)
    (port : UInt16) :
    (openTunnel w files s port).files
      = (Tunnel.startAgent w files s.program s.token).files := by
  unfold openTunnel
  dsimp only
  split <;> rfl

variable (w s o) in
/-- While a server is up with the worker that was started, the files of
worker and agent are there. -/
structure Holds (run : Run) (started : Worker.ScriptStart) : Prop where
  script : run.files.look (Worker.scriptPath w) = .ok Worker.scriptFile
  agent : Tunnel.TidyConfig w started.files s.tunnel.program s.tunnel.token
  config : o.withoutTunnel = false → ∀ agent,
    (Tunnel.startAgent w started.files s.tunnel.program s.tunnel.token).result
      = .ok agent →
      run.files.look (Tunnel.configPath w) = .ok (Tunnel.configFile w)

/-- With a worker that is ready, both files are there and are taken away. -/
theorem serveWith_files (s : Settings) (o : Options)
    {started : Worker.ScriptStart} (ready : Worker.Ready) (history : History)
    (hscript : files.Fresh (Worker.scriptName w))
    (hconfig : files.Fresh (Tunnel.configName w))
    (hput : files.put w.environment.temporaryDirectory (Worker.scriptName w)
      Worker.scriptFile = .ok started.files) :
    (serveWith w started.files s o history ready).filesAfter = files ∧
      ∀ server,
        (serveWith w started.files s o history ready).result = .ok server →
        Holds w s o (serveWith w started.files s o history ready) started := by
  have hgone : Worker.removeScript w started.files = files :=
    hscript.drop_put hput
  have hfound : started.files.look (Worker.scriptPath w)
      = .ok Worker.scriptFile :=
    hscript.look_put hput
  have hfresh := hconfig.put (Tunnel.configName_ne w) hput
  have htidy :
      Tunnel.TidyConfig w started.files s.tunnel.program s.tunnel.token :=
    Tunnel.tidyConfig hfresh
  unfold serveWith
  dsimp only
  split
  case h_1 => exact ⟨hgone, nofun⟩
  case h_2 address port hlisten =>
    cases htunnel : o.withoutTunnel with
    | true =>
      refine ⟨?_, fun server _ => ⟨hfound, htidy, fun h => ?_⟩⟩
      · rw [if_pos rfl, cleanUp, hgone]
        exact hconfig.drop _
      · rw [htunnel] at h
        cases h
    | false =>
      rw [if_neg Bool.false_ne_true]
      dsimp only
      rw [openTunnel_files]
      have hlends :=
        Tunnel.startAgent_lends w started.files s.tunnel.program s.tunnel.token
      refine ⟨?_, fun server _ => ⟨hlends.look hfresh hfound, htidy, fun _ =>
        htidy.ended.started⟩⟩
      exact ((hlends.beside hscript hconfig (Tunnel.configName_ne w) hput).tidy
        hconfig).gone

variable (w files s) in
/-- The places of the checkout: the entry that its path names, before the
packages are installed and after, and what is where that path leads. -/
def OfCheckout (q : List Bytes) : Prop :=
  files.Inside s.checkout q ∨
    (Preparation.installed w files (planOf s)).Inside s.checkout q ∨
    (Preparation.installed w files (planOf s)).Reaches s.checkout q

variable (w files s o) in
/-- Of a run nothing is left but what the preparation has done. -/
structure TidyRun : Prop where
  worker : ∀ path, (searched w files s o).1 = .ok path →
    Worker.TidyScript w (prepared w files s o) s.python s.checkout path
  up : ∀ run server, serve w files s o = some run → run.result = .ok server →
    ∃ path started, (searched w files s o).1 = .ok path ∧
      started? w files s o path = some started ∧ Holds w s o run started
  ended : ∀ run, serve w files s o = some run →
    run.filesAfter = prepared w files s o
  unprepared : ∀ run, serve w files s o = some run →
    o.withoutPreparation = true → run.filesAfter = files
  /-- Nothing but the checkout is touched by a run whose preparation touches
  nothing else. -/
  outside : ∀ run, serve w files s o = some run →
    w.Confined (planOf s).installCommand s.checkout →
    w.Confined (planOf s).cloneCommand s.checkout →
    SameOutside (OfCheckout w files s) files run.filesAfter

/-- The preparation changes nothing outside the checkout if the tools it
runs do not. -/
theorem prepared_sameOutside
    (hinstall : w.Confined (planOf s).installCommand s.checkout)
    (hclone : w.Confined (planOf s).cloneCommand s.checkout) :
    SameOutside (OfCheckout w files s) files (prepared w files s o) := by
  unfold prepared prepare
  split
  · exact .refl _ files
  · exact
      ((Preparation.installed_sameOutside hinstall).mono fun _ => Or.inl).trans
      ((Preparation.replaced_sameOutside hclone).mono fun _ => Or.inr)

/-- How a run ends: what the preparation has left is there again, and a
server that is up holds its files. -/
theorem serve_files {run : Run}
    (hscript : (prepared w files s o).Fresh (Worker.scriptName w))
    (hconfig : (prepared w files s o).Fresh (Tunnel.configName w))
    (hserve : serve w files s o = some run) :
    run.filesAfter = prepared w files s o ∧ ∀ server, run.result = .ok server →
      ∃ path started, (searched w files s o).1 = .ok path ∧
        started? w files s o path = some started ∧ Holds w s o run started := by
  have hends := serve_ends w files s o
  rw [hserve] at hends
  cases hends with
  | noCheckpoint => exact ⟨rfl, nofun⟩
  | notLoaded _ hstarted hresult =>
    have htidy := (Worker.startScript_lends hstarted).tidy hscript
    exact ⟨htidy.failed _ hresult, nofun⟩
  | @ready path started ready hsearched hstarted hresult =>
    obtain ⟨attempt, result, scripted⟩ := started
    obtain rfl : result = .ok ready := hresult
    cases Worker.startScript_lends hstarted with
    | left hput =>
      obtain ⟨hended, hholds⟩ :=
        serveWith_files s o ready (opening w files s o) hscript hconfig hput
      exact ⟨hended,
        fun server hup => ⟨path, _, hsearched, hstarted, hholds server hup⟩⟩

/-- A whole run is tidy if both of its names are fresh when it starts to use
them. -/
theorem tidyRun (hscript : (prepared w files s o).Fresh (Worker.scriptName w))
    (hconfig : (prepared w files s o).Fresh (Tunnel.configName w)) :
    TidyRun w files s o where
  worker _ _ := Worker.tidyScript hscript
  up _ server hserve := (serve_files hscript hconfig hserve).2 server
  ended _ hserve := (serve_files hscript hconfig hserve).1
  unprepared _ hserve hnone := by
    rw [(serve_files hscript hconfig hserve).1, prepared, prepare, if_pos hnone]
  outside _ hserve hinstall hclone := by
    rw [(serve_files hscript hconfig hserve).1]
    exact prepared_sameOutside hinstall hclone

/-- Temporary files do not outlive their owners: not the worker program, not
the configuration of the agent, and neither of them in a run. -/
theorem temporary_tidy (w : World) :
    (∀ files : Files, files.Fresh (Worker.scriptName w) →
      ∀ python checkout path, Worker.TidyScript w files python checkout path) ∧
    (∀ files : Files, files.Fresh (Tunnel.configName w) → ∀ program token,
      Tunnel.TidyConfig w files program token) ∧
    ∀ files s o, (prepared w files s o).Fresh (Worker.scriptName w) →
      (prepared w files s o).Fresh (Tunnel.configName w) →
      TidyRun w files s o :=
  ⟨fun _ h _ _ _ => Worker.tidyScript h, fun _ h _ _ => Tunnel.tidyConfig h,
    fun _ _ _ hscript hconfig => tidyRun hscript hconfig⟩

/-- A name that is none of the four in the tree is fresh. -/
theorem fresh_refusing {name : Bytes} (hname : Files.IsName name)
    (hother : ∀ other ∈ ["w", "in", "aeneas.pkl", "tmp"],
      Utf8.encode other ≠ name) :
    refusingFiles.Fresh name where
  isName := hname
  inTree := by
    simp only [List.forall_mem_cons] at hother
    obtain ⟨hw, hin, hpkl, htmp, -⟩ := hother
    refine Node.at?_none_of_entries ?_
    simp only [List.forall_mem_cons]
    refine ⟨⟨hw, Node.at?_file⟩, ⟨hin, Node.at?_none_of_entries ?_⟩,
      ⟨htmp, Node.at?_none_of_entries nofun⟩, nofun⟩
    exact List.forall_mem_singleton.mpr ⟨hpkl, Node.at?_file⟩
  onTheWay := List.not_mem_nil

/-- A service behind a tunnel holds both files, and leaves none. -/
theorem temporary_tidy_refusing :
    ∃ w s run, serve w refusingFiles s ⟨false, true⟩ = some run ∧
      run.tunnelRequests.length = 1 ∧
      run.files.look (Worker.scriptPath w) = .ok Worker.scriptFile ∧
      run.files.look (Tunnel.configPath w) = .ok (Tunnel.configFile w) ∧
      run.filesAfter = refusingFiles := by
  have hrun : (serve (refusingWorld readyAgent toString) refusingFiles
      (refusingSettings ⟨some "token", some "a.test", "/w"⟩) ⟨false, true⟩).map
        (fun run => (run.tunnelRequests.length, run.result.toBool))
          = some (1, true) := by
    decide +kernel
  have hagent : ((searched (refusingWorld readyAgent toString) refusingFiles
      (refusingSettings ⟨some "token", some "a.test", "/w"⟩)
      ⟨false, true⟩).1.toOption.bind
        (started? (refusingWorld readyAgent toString) refusingFiles
          (refusingSettings ⟨some "token", some "a.test", "/w"⟩)
          ⟨false, true⟩)).map
        (fun started =>
          (Tunnel.startAgent (refusingWorld readyAgent toString)
            started.files "/w" (some "token")).result.toBool) = some true := by
    decide +kernel
  obtain ⟨run, hserve, hrun⟩ := Option.map_eq_some_iff.mp hrun
  obtain ⟨hrequests, hresult⟩ := Prod.mk.inj hrun
  have hscript : refusingFiles.Fresh
      (Worker.scriptName (refusingWorld readyAgent toString)) :=
    fresh_refusing (by with_unfolding_all decide) (by with_unfolding_all decide)
  have hconfig : refusingFiles.Fresh
      (Tunnel.configName (refusingWorld readyAgent toString)) :=
    fresh_refusing (by with_unfolding_all decide) (by with_unfolding_all decide)
  obtain ⟨-, -, hruns⟩ := temporary_tidy (refusingWorld readyAgent toString)
  have htidy :=
    hruns refusingFiles (refusingSettings ⟨some "token", some "a.test", "/w"⟩)
    ⟨false, true⟩ hscript hconfig
  cases hup : run.result with
  | error stop => rw [hup] at hresult; cases hresult
  | ok server =>
    obtain ⟨path, started, hsearched, hstarted, hholds⟩ :=
      htidy.up run server hserve hup
    rw [hsearched, Except.toOption, Option.bind_some, hstarted, Option.map_some]
      at hagent
    cases hready :
      (Tunnel.startAgent (refusingWorld readyAgent toString) started.files "/w"
        (some "token")).result with
    | error f => rw [hready] at hagent; cases hagent
    | ok agent =>
      exact ⟨_, _, run, hserve, hrequests, hholds.script,
        hholds.config rfl agent hready, htidy.unprepared run hserve rfl⟩

-- ========================================================= among the files

/-- A world with a program that makes a checkout among the temporary files. -/
def cloningWorld : World :=
  { idleWorld with
    run := fun launch =>
      ⟨.code 0, [], ((launch.files.put (.ofString "/tmp") (Utf8.encode "model")
      .empty).toOption.getD launch.files)⟩ }

/-- That program, a checkpoint, and no temporary files. -/
def cloningFiles : Files where
  root := .directory true [
    (Utf8.encode "bin", .directory true [(Utf8.encode "git", .file [] true)]),
    (Utf8.encode "in",
      .directory true [(Utf8.encode "aeneas.pkl", .file [] false)]),
    (Utf8.encode "tmp", .directory true [])]
  workingDirectory := []

def cloningSettings : Settings :=
  { idleSettings with checkout := .ofString "/tmp/model" }

/-- The names of the temporary files. -/
def temporaryNames (w : World) (files : Files) : Option (List Bytes) :=
  (files.look w.environment.temporaryDirectory).toOption.map fun n =>
    n.entries.map Prod.fst

/-- The checkout stays where it is made, also among the temporary files, and
so they are not what they were. The worker program can be written down. -/
theorem serve_clones :
    ((prepared cloningWorld cloningFiles cloningSettings ⟨true, false⟩).put
      cloningWorld.environment.temporaryDirectory
        (Worker.scriptName cloningWorld) Worker.scriptFile).toBool = true ∧
    temporaryNames cloningWorld cloningFiles = some [] ∧
    (serve cloningWorld cloningFiles cloningSettings ⟨true, false⟩).map
      (fun run => temporaryNames cloningWorld run.filesAfter) =
        some (some [Utf8.encode "model"]) := by
  refine ⟨?_, ?_, ?_⟩
  · decide +kernel
  · decide +kernel
  · decide +kernel

end Startup

end Restoration
