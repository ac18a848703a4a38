/-
What a preparation attempts, and the files that it leaves.

A preparation has two steps, and the second does not hang on how the first
came out but only on the files that it left. So the whole of it can be said
in terms of two trees: the one in which the packages are installed
(`installed`), and the one from which the old checkout has been removed
(`cleared`). Packages are installed in the first tree if there are any, and
the repository is cloned in the second one if the removal succeeded
(`run_attempts`, `run_files`).
-/
import Mathlib.Data.List.Basic
import Restoration.Preparation

namespace Restoration

-- =============================================================== history

namespace History

@[simp] theorem attempts_nil : History.attempts [] = [] := rfl

@[simp] theorem attempts_told (e : Event) (h : History) :
    History.attempts (.told e :: h) = h.attempts := rfl

@[simp] theorem attempts_attempted (a : Attempt) (h : History) :
    History.attempts (.attempted a :: h) = a :: h.attempts := rfl

@[simp] theorem attempts_append (h h' : History) :
    History.attempts (h ++ h') = h.attempts ++ h'.attempts :=
  List.filterMap_append

/-- What is only told is not attempted. -/
@[simp] theorem attempts_ofEvents (events : List Event) :
    (History.ofEvents events).attempts = [] := by
  unfold History.ofEvents
  induction events with
  | nil => rfl
  | cons e events ih => exact ih

end History

-- ============================================================= two trees

namespace Preparation

variable (w : World) (files : Files) (p : Plan)

/-- The files when the packages have been installed, if there are any. -/
def installed : Files :=
  if p.packages.isEmpty then files
  else (runStep w files .install p.installCommand).files

/-- The removal of the old checkout from them. -/
def cleared : Files.Removal := clear (installed w files p) p.checkout

/-- The attempt to install the packages, if there are any. -/
def installAttempt? : Option Attempt :=
  if p.packages.isEmpty then none else some (w.attempt files p.installCommand)

/-- The attempt to clone the repository, if the old checkout is gone. -/
def cloneAttempt? : Option Attempt :=
  match (cleared w files p).result with
  | .ok () => some (w.attempt (cleared w files p).files p.cloneCommand)
  | .error _ => none

variable {w files p}

/-- Packages are installed with the one command for all of them, if there
are any. -/
theorem installAttempt?_eq_some {a : Attempt} :
    installAttempt? w files p = some a ↔
      p.packages ≠ [] ∧ a = w.attempt files p.installCommand := by
  unfold installAttempt?
  cases p.packages with
  | nil => simp
  | cons => simp [eq_comm]

/-- The model is cloned once the checkout is cleared. -/
theorem cloneAttempt?_eq_some {a : Attempt} :
    cloneAttempt? w files p = some a ↔
      (cleared w files p).result = .ok () ∧
        a = w.attempt (cleared w files p).files p.cloneCommand := by
  unfold cloneAttempt?
  cases (cleared w files p).result with
  | error => simp
  | ok => simp [eq_comm]

-- ================================================================= steps

variable (w files p)

/-- A step attempts its command and nothing else. -/
theorem runStep_attempts (step : Step) (command : Command) :
    (runStep w files step command).history.attempts
      = [w.attempt files command] := by
  unfold runStep
  dsimp only
  split <;> rfl

/-- Reporting a step attempts nothing. -/
theorem reported_attempts (before : Event) (t : Taken) :
    (t.reported before).history.attempts = t.history.attempts := by
  simp [Taken.reported]

/-- The old checkout is replaced where it can be removed. -/
theorem replaceCheckout_cases :
    ((cleared w files p).result = .ok () ∧
      replaceCheckout w (installed w files p) p =
        runStep w (cleared w files p).files .clone p.cloneCommand) ∨
    ∃ reason, (cleared w files p).result = .error reason ∧
      replaceCheckout w (installed w files p) p =
        ⟨⟨.clone, some (.notRemoved p.checkout reason)⟩, [],
          (cleared w files p).files⟩ := by
  unfold replaceCheckout
  rw [show clear (installed w files p) p.checkout = cleared w files p from rfl]
  dsimp only
  cases (cleared w files p).result with
  | ok => exact .inl ⟨rfl, rfl⟩
  | error reason => exact .inr ⟨reason, rfl, rfl⟩

/-- A step leaves the files as they are, or as its program leaves them. -/
theorem runStep_files (step : Step) (command : Command) :
    (runStep w files step command).files = files ∨
      ∃ image, (runStep w files step command).files =
        (w.run (w.launch (w.attempt files command) image)).files := by
  unfold runStep
  dsimp only
  split
  · exact .inl rfl
  · exact .inr ⟨_, rfl⟩

/-- The preparation attempts to install, and then to clone. -/
theorem run_attempts :
    (run w files p).history.attempts =
      (installAttempt? w files p).toList ++
        (cloneAttempt? w files p).toList := by
  have hclone : (replaceCheckout w (installed w files p) p).history.attempts =
      (cloneAttempt? w files p).toList := by
    unfold cloneAttempt?
    rcases replaceCheckout_cases w files p with ⟨hcleared, hclone⟩ |
      ⟨reason, hcleared, hclone⟩
    · rw [hclone, hcleared, runStep_attempts]
      rfl
    · rw [hclone, hcleared]
      rfl
  rw [← hclone]
  unfold run installAttempt? installed
  dsimp only
  split
  · exact reported_attempts _ _
  · rw [History.attempts_append, reported_attempts, reported_attempts,
      runStep_attempts]
    rfl

/-- What is left is what the removal leaves, or what is cloned into that. -/
theorem run_files :
    (run w files p).files = (cleared w files p).files ∨
      (cleared w files p).result = .ok () ∧ (run w files p).files =
        (runStep w (cleared w files p).files .clone p.cloneCommand).files := by
  have hrun : (run w files p).files
      = (replaceCheckout w (installed w files p) p).files := by
    unfold run installed
    dsimp only
    split <;> rfl
  rw [hrun]
  rcases replaceCheckout_cases w files p with ⟨hcleared, hclone⟩ |
    ⟨reason, -, hclone⟩ <;>
  rw [hclone]
  · exact .inr ⟨hcleared, rfl⟩
  · exact .inl rfl

end Preparation

end Restoration
