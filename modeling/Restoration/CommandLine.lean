/-
The program as it is called: from arguments and environment to what it
prints and the code it ends with. The settings come from the environment;
what is given on the command line counts more.

A command that fails says so in one line, from the outermost cause to the
innermost, after the log.
-/
import Restoration.Client
import Restoration.CommandLine.Help
import Restoration.Log
import Restoration.Startup

namespace Restoration.CommandLine

-- ============================================================== commands

/-- The settings that are given on the command line. -/
structure Overrides where
  inputDirectory : Option String
  host : Option String
  port : Option UInt16
  domain : Option String
  python : Option String
  checkout : Option String
  deriving DecidableEq, Repr

namespace Overrides

/-- The settings among what was given. -/
def ofGiven (g : Given) : Overrides :=
  { inputDirectory := g.text? .inputDirectory
    host := g.text? .host
    port := g.port? .port
    domain := g.text? .domain
    python := g.text? .python
    checkout := g.text? .checkout }

/-- The settings in which these count more. Only the input directory can
stand below the home directory. -/
def apply (o : Overrides) (home : Option Path) (s : Settings) : Settings :=
  { s with
    inputDirectory :=
      (o.inputDirectory.map (expandHome home)).getD s.inputDirectory
    host := ⟨o.host.getD s.host.name, o.port.getD s.host.port⟩
    tunnel := { s.tunnel with domain := o.domain.or s.tunnel.domain }
    python := o.python.getD s.python
    checkout := (o.checkout.map Path.ofString).getD s.checkout }

end Overrides

/-- What there is to do: a command with what was given to it. -/
inductive Job
  | serve (overrides : Overrides) (options : Startup.Options)
  | findCheckpoint (overrides : Overrides)
  | restore (text : String) (server : Option String)
  | version
  deriving DecidableEq, Repr

/-- The job that was given. -/
def Job.ofGiven (verb : Verb) (g : Given) : Job :=
  match verb with
  | .serve =>
    .serve (.ofGiven g) ⟨g.has .withoutTunnel, g.has .withoutPreparation⟩
  | .findCheckpoint => .findCheckpoint (.ofGiven g)
  | .restore => .restore ((g.text? .text).getD "") (g.text? .url)
  | .version => .version

-- ============================================================== outcomes

/-- The end of a run: the code, what was printed, what was printed about
errors, what happened, and the files that are left. -/
structure Outcome where
  code : UInt32
  output : String
  errors : String
  history : History
  files : Files

/-- The settings for a command. -/
def settingsFor (w : World) (o : Overrides) : Settings :=
  o.apply w.environment.home (.ofEnvironment w.environment)

/-- The log of a history, as far as the environment wants it. -/
def logText (w : World) (h : History) : String :=
  String.join ((Log.lines (Log.shown w.environment) h.events).map (· ++ "\n"))

/-- A run that did what it should. -/
def succeed (w : World) (files : Files) (history : History)
    (output : String) : Outcome :=
  ⟨0, output, logText w history, history, files⟩

/-- A run that failed. -/
def fail (w : World) (files : Files) (history : History)
    (chain : List String) : Outcome :=
  ⟨1, "", logText w history ++ "Error: " ++ String.intercalate ": " chain ++
    "\n", history, files⟩

-- =============================================================== running

/-- Prints the checkpoint that would be loaded. -/
def find (w : World) (files : Files) (o : Overrides) : Outcome :=
  let settings := settingsFor w o
  let (found, events) :=
    Restoration.findCheckpoint files settings.matcher settings.inputDirectory
  match found with
  | .ok path => succeed w files (.ofEvents events) (path.display ++ "\n")
  | .error f => fail w files (.ofEvents events) f.chain

/-- Asks a server for the restoration of a text. -/
def restore (w : World) (files : Files) (text : String)
    (server : Option String) : Outcome :=
  match Client.ofText (server.getD w.environment.serverUrl) with
  | .error f => fail w files [] f.chain
  | .ok client =>
    match client.restore w.send text with
    | .ok prediction => succeed w files [] (prediction ++ "\n")
    | .error f =>
      fail w files []
        (s!"request to {client.restoreUrl.write} failed" :: f.chain)

/-- Serves. There is no end to it once the server is up. -/
def serve (w : World) (files : Files) (o : Overrides)
    (options : Startup.Options) : Option Outcome :=
  match Startup.serve w files (settingsFor w o) options with
  | none => none
  | some run =>
    match run.result with
    | .ok _ => none
    | .error stop => some (fail w run.filesAfter run.history stop.chain)

/-- Carries out a job. -/
def execute (w : World) (files : Files) : Job → Option Outcome
  | .serve overrides options => serve w files overrides options
  | .findCheckpoint overrides => some (find w files overrides)
  | .restore text server => some (restore w files text server)
  | .version =>
    some (succeed w files [] s!"{programName} version {programVersion}\n")

/-- What is printed where there is no command. -/
def conclude (files : Files) : Ending → Outcome
  | .help topic => ⟨0, topic.description, "", [], files⟩
  | .version => ⟨0, s!"{programName} {programVersion}\n", "", [], files⟩
  | .nothing => ⟨2, "", overview, [], files⟩
  | .misuse fault =>
    ⟨2, "", s!"error: {fault.message}\n\nFor more information, try '--help'.\n",
      [], files⟩

/-- Runs the program. -/
def run (w : World) (files : Files) (arguments : List Bytes) : Option Outcome :=
  match read false arguments with
  | .error ending => some (conclude files ending)
  | .ok (verb, given) => execute w files (.ofGiven verb given)

end Restoration.CommandLine
