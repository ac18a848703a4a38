/-
Which file a command runs. A name with a slash is a path; any other name
is looked for in the directories of the search path, in order, passing
over those that do not have it. A file that is found and is no program
counts as a refusal only if none is found later.
-/
import Restoration.Environment
import Restoration.Files

namespace Restoration

-- ============================================================= commands

/-- A command: the program as it is asked for, its arguments, and the
variables set for it beyond those that it inherits. -/
structure Command where
  program : String
  arguments : List Bytes
  bindings : List (String × Bytes)
  deriving DecidableEq, Repr

namespace Command

/-- The longest string that a program can be given. -/
def longestString : Nat := 131071

/-- All strings of a command, a variable being one string. -/
def strings (c : Command) : List Bytes :=
  Utf8.encode c.program :: c.arguments ++
    c.bindings.map fun (name, value) => Utf8.encode name ++ 0x3D :: value

end Command

-- =============================================================== search

namespace Files

/-- The contents of the program that a path leads to. -/
def programAt (f : Files) (p : Path) : Except SystemError Bytes :=
  match f.look p with
  | .error reason => .error reason
  | .ok (.file contents true) => .ok contents
  | .ok _ => .error .denied

/-- The directories that are searched where no variable names them. -/
def defaultSearchPath : Bytes := Utf8.encode "/bin:/usr/bin"

/-- Looks for a program in directories; `refusal` is what to report if
none has it. -/
def searchProgram (f : Files) (name : Bytes) (refusal : SystemError) :
    List Path → Except SystemError Bytes
  | [] => .error refusal
  | directory :: rest =>
    match f.programAt (directory.join ⟨name⟩) with
    | .ok contents => .ok contents
    | .error .denied => searchProgram f name .denied rest
    | .error .noEntry => searchProgram f name refusal rest
    | .error .notDirectory => searchProgram f name refusal rest
    | .error reason => .error reason

/-- The contents of the program that a command runs. -/
def locate (f : Files) (e : Environment) (c : Command) :
    Except SystemError Bytes :=
  let name := Utf8.encode c.program
  if c.strings.any (·.contains 0) then .error .zeroByte
  else if name = [] then .error .noEntry
  else if name.contains Path.slash then launchable c (f.programAt ⟨name⟩)
  else if longestName < name.length then .error .nameTooLong
  else
    let directories := Path.ofList ((e.bytes? "PATH").getD defaultSearchPath)
    launchable c (f.searchProgram name .noEntry directories)
where
  /-- A program that was found can be handed the strings of the command. -/
  launchable (c : Command) (found : Except SystemError Bytes) :
    Except SystemError Bytes :=
    match found with
    | .error reason => .error reason
    | .ok contents =>
      if c.strings.any (Command.longestString < ·.length) then
        .error .argumentsTooLong
      else .ok contents

end Files

end Restoration
