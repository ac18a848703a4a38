/-
What the program meets outside: the variables it is given, the programs it
starts, the network, and names that nobody has used before. Of a program
only its behaviour is known. It may hang on everything that the program is
given and on the whole tree of files.
-/
import Restoration.Failure
import Restoration.Files.Programs
import Restoration.Settings.Host
import Restoration.Url
import Restoration.Worker.Session

namespace Restoration

-- ============================================================= programs

/-- What a program is given when it starts: which program it is, by its
contents, the command, the environment and the files. -/
structure Launch where
  image : Bytes
  command : Command
  environment : Environment
  files : Files

/-- The end of a program that was waited for: its status, what it wrote
about errors, and the files that it leaves. -/
structure Finished where
  status : ExitStatus
  errors : Bytes
  files : Files

/-- What is found when a tunnel agent is looked at. -/
inductive Poll
  | exited (status : ExitStatus)
  /-- It runs, and its interface answers like this. -/
  | running (answer : Except Http.Loss Http.Response)

/-- A tunnel agent: what is found when it is looked at for the first, the
second time and so on while it starts, and its answer to the last of the
requests made to it, oldest first. -/
structure Agent where
  poll : Nat → Poll
  answer : List Http.Request → Except Http.Loss Http.Response

/-- An attempt to start a program: the files at that moment, and the
program that was found or the reason why none was. -/
structure Attempt where
  command : Command
  files : Files
  image : Except SystemError Bytes

-- ================================================================ world

/-- Names that nobody has used before. -/
structure Names where
  script : String
  config : String
  calls : Nat → String
  tunnels : Nat → String

/-- What the program meets outside. -/
structure World where
  environment : Environment
  /-- A program that is waited for. -/
  run : Launch → Finished
  /-- A program that becomes the worker. -/
  converse : Launch → Worker.Peer
  /-- A program that becomes the tunnel agent. -/
  tend : Launch → Agent
  /-- The local address that the tunnel agent is told to use. -/
  agentAddress : String
  /-- Sending a request to the server of a URL. -/
  send : Url → Http.Request → Except Http.Loss Http.Response
  /-- Listening on an address: the address and port that are bound. -/
  listen : Host → Except SystemError (String × UInt16)
  names : Names

namespace World

/-- Tries to start a program. -/
def attempt (w : World) (files : Files) (command : Command) : Attempt :=
  ⟨command, files, files.locate w.environment command⟩

/-- What a program that was found is given. -/
def launch (w : World) (a : Attempt) (image : Bytes) : Launch :=
  ⟨image, a.command, w.environment.set a.command.bindings, a.files⟩

end World

-- ============================================================== history

/-- Something that happened. -/
inductive Act
  | told (event : Event)
  | attempted (attempt : Attempt)

/-- What happened, in order. -/
abbrev History := List Act

namespace History

/-- The events of a history. -/
def events (h : History) : List Event :=
  h.filterMap fun
    | .told e => some e
    | .attempted _ => none

/-- The attempts of a history. -/
def attempts (h : History) : List Attempt :=
  h.filterMap fun
    | .told _ => none
    | .attempted a => some a

/-- The history in which events were told. -/
def ofEvents (events : List Event) : History := events.map .told

end History

end Restoration
