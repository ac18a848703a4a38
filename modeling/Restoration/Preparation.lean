/-
Preparing the machine: packages are installed, and the checkout of the
model is replaced by a new one. A step that fails is reported and does not
keep the others from being tried; what is missing then shows when the
worker is started.
-/
import Restoration.Files.Removal
import Restoration.Text.Blank
import Restoration.World

namespace Restoration.Preparation

-- ============================================================= outcomes

/-- Why a step failed. -/
inductive StepFault
  | exited (status : ExitStatus) (errors : Bytes)
  | notStarted (reason : SystemError)
  | notRemoved (checkout : Path) (reason : SystemError)

/-- The exit code of a program, minus one if a signal ended it. -/
def exitCode : ExitStatus → Int
  | .code n => n
  | .signal _ => -1

/-- The wording of a fault. -/
def StepFault.message : StepFault → String
  | .exited status errors =>
    s!"exit {exitCode status}: {Text.trim (Utf8.lossy errors)}"
  | .notStarted reason => reason.message
  | .notRemoved checkout reason =>
    s!"could not remove {checkout.display}: {reason.message}"

/-- The steps. -/
inductive Step
  | install
  | clone
  deriving DecidableEq, Repr

/-- What a step is called. -/
def Step.name : Step → String
  | .install => "pip install"
  | .clone => "git clone"

/-- How a step came out. -/
structure Outcome where
  step : Step
  fault : Option StepFault

namespace Outcome

/-- Whether the step succeeded. -/
def success (o : Outcome) : Bool := o.fault.isNone

/-- What is to be said about a step that failed. -/
def detail (o : Outcome) : String :=
  match o.fault with
  | some fault => fault.message
  | none => ""

/-- What is told about an outcome. -/
def event (o : Outcome) : Event :=
  match o.fault with
  | some fault => .stepFailed o.step.name fault.message
  | none => .stepDone o.step.name

end Outcome

-- ============================================================= settings

/-- What is to be prepared. -/
structure Plan where
  python : String
  packages : List String
  repository : String
  checkout : Path

/-- The command that installs packages. -/
def Plan.installCommand (p : Plan) : Command :=
  ⟨p.python, ["-m", "pip", "install", "-q"].map Utf8.encode ++
    p.packages.map Utf8.encode, []⟩

/-- The command that makes a checkout. -/
def Plan.cloneCommand (p : Plan) : Command :=
  ⟨"git", ["clone", "--depth=1", p.repository].map Utf8.encode ++
    [p.checkout.bytes], []⟩

-- ================================================================ steps

/-- A step that was taken: how it came out, what happened, and the files
that it leaves. -/
structure Taken where
  outcome : Outcome
  history : History
  files : Files

/-- Runs the command of a step. -/
def runStep (w : World) (files : Files) (step : Step)
    (command : Command) : Taken :=
  let attempt := w.attempt files command
  match attempt.image with
  | .error reason =>
    ⟨⟨step, some (.notStarted reason)⟩, [.attempted attempt], files⟩
  | .ok image =>
    let finished := w.run (w.launch attempt image)
    let fault :=
      if finished.status.isSuccess then none
      else some (StepFault.exited finished.status finished.errors)
    ⟨⟨step, fault⟩, [.attempted attempt], finished.files⟩

/-- Removes the old checkout, if the path leads to anything. -/
def clear (files : Files) (checkout : Path) : Files.Removal :=
  if files.leadsSomewhere checkout then files.removeAll checkout
  else ⟨files, .ok ()⟩

/-- Replaces the checkout. -/
def replaceCheckout (w : World) (files : Files) (p : Plan) : Taken :=
  let cleared := clear files p.checkout
  match cleared.result with
  | .error reason =>
    ⟨⟨.clone, some (.notRemoved p.checkout reason)⟩, [], cleared.files⟩
  | .ok () => runStep w cleared.files .clone p.cloneCommand

/-- A step between what is told before and after it. -/
def Taken.reported (before : Event) (t : Taken) : Taken :=
  { t with history := .told before :: t.history ++ [.told t.outcome.event] }

/-- What was prepared: the outcomes, what happened, and the files. -/
structure Prepared where
  outcomes : List Outcome
  history : History
  files : Files

/-- Prepares the machine. -/
def run (w : World) (files : Files) (p : Plan) : Prepared :=
  let clone := fun (files : Files) =>
    (replaceCheckout w files p).reported (.cloning p.repository p.checkout)
  if p.packages.isEmpty then
    let cloned := clone files
    ⟨[cloned.outcome], cloned.history, cloned.files⟩
  else
    let installed :=
      (runStep w files .install p.installCommand).reported
        (.installing p.packages)
    let cloned := clone installed.files
    ⟨[installed.outcome, cloned.outcome], installed.history ++ cloned.history,
      cloned.files⟩

end Restoration.Preparation
