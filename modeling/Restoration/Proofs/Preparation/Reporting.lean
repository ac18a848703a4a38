/-
What a preparation reports.

Every step comes to one outcome, and the outcome says no more than how the
program of the step ended, or why there was none to start (`runStep_outcome`).
No outcome ends the preparation: the second step is taken whatever became of
the first, and hangs on it only through the tree that is left. So if what the
path of the checkout meets in that tree is as it was, the old checkout is
removed as it would have been (`clear_untouched`), and the program that clones
finds the path as it would have found it (`untouched_clear`). Two installations
that leave the checkout alone therefore cannot be told apart by the clone.
-/
import Restoration.Proofs.Files.Untouched
import Restoration.Proofs.Preparation.Cloning

namespace Restoration

open Files (Untouched)

-- =============================================================== replies

/-- How a program that was found ends, and what it writes about errors. -/
def World.ending (w : World) (f : Files) (command : Command) (image : Bytes) :
    ExitStatus × Bytes :=
  let finished := w.run (w.launch (w.attempt f command) image)
  (finished.status, finished.errors)

/-- What comes of a command: the end of its program, or why there is none. -/
def World.reply (w : World) (f : Files) (command : Command) :
    Except SystemError (ExitStatus × Bytes) :=
  (w.attempt f command).image.map (w.ending f command)

namespace Preparation

/-- What is reported about a reply: whether it is a success, and the detail. -/
inductive Reported :
    Except SystemError (ExitStatus × Bytes) → Bool → String → Prop
  | done {errors : Bytes} : Reported (.ok (.code 0, errors)) true ""
  | exited {n : Nat} {errors : Bytes} (h : n ≠ 0) :
    Reported (.ok (.code n, errors)) false
      s!"exit {n}: {Text.trim (Utf8.lossy errors)}"
  | killed {n : Nat} {errors : Bytes} :
    Reported (.ok (.signal n, errors)) false
      s!"exit -1: {Text.trim (Utf8.lossy errors)}"
  | notStarted {reason : SystemError} :
      Reported (.error reason) false reason.message

/-- The outcome of a step whose program replied. -/
def Outcome.ofReply (step : Step) :
    Except SystemError (ExitStatus × Bytes) → Outcome
  | .error reason => ⟨step, some (.notStarted reason)⟩
  | .ok (status, errors) =>
    ⟨step, if status.isSuccess then none else some (.exited status errors)⟩

variable (w : World) (files f : Files) (p : Plan)

/-- The outcome of a step hangs on the reply to its command and on nothing
else. -/
theorem runStep_outcome (step : Step) (command : Command) :
    (runStep w f step command).outcome = .ofReply step (w.reply f command) := by
  unfold runStep World.reply
  dsimp only
  cases (w.attempt f command).image with
  | error reason => rfl
  | ok image => rfl

/-- What is reported of a step is what became of its command. -/
theorem reported_ofReply (step : Step)
    (reply : Except SystemError (ExitStatus × Bytes)) :
    Reported reply (Outcome.ofReply step reply).success
      (Outcome.ofReply step reply).detail := by
  cases reply with
  | error reason => exact .notStarted
  | ok ending =>
    obtain ⟨status, errors⟩ := ending
    cases status with
    | signal n => exact .killed
    | code n =>
      cases n with
      | zero => exact .done
      | succ n => exact .exited (Nat.succ_ne_zero n)

/-- It is reported under the name of the step. -/
theorem ofReply_step (step : Step)
    (reply : Except SystemError (ExitStatus × Bytes)) :
    (Outcome.ofReply step reply).step = step := by
  cases reply <;> rfl

-- ============================================================== outcomes

/-- The outcome of the installation, if there is anything to install. -/
def installOutcome? : Option Outcome :=
  if p.packages = [] then none
  else some (.ofReply .install (w.reply files p.installCommand))

/-- The outcome of the clone. -/
def cloneOutcome : Outcome :=
  match (cleared w files p).result with
  | .ok () => .ofReply .clone (w.reply (cleared w files p).files p.cloneCommand)
  | .error reason => ⟨.clone, some (.notRemoved p.checkout reason)⟩

/-- What is reported of cloning tells of the clearing before it, too. -/
theorem replaceCheckout_outcome :
    (replaceCheckout w (installed w files p) p).outcome
      = cloneOutcome w files p := by
  unfold cloneOutcome
  rcases replaceCheckout_cases w files p with ⟨hcleared, hclone⟩ |
    ⟨reason, hcleared, hclone⟩
  · rw [hclone, hcleared, runStep_outcome]
  · rw [hclone, hcleared]

/-- Whatever becomes of the installation, the clone has its outcome. -/
theorem run_outcomes :
    (run w files p).outcomes =
      (installOutcome? w files p).toList ++ [cloneOutcome w files p] := by
  rw [← replaceCheckout_outcome]
  unfold run installOutcome? installed
  dsimp only
  cases p.packages with
  | nil => rfl
  | cons package packages =>
    rw [← runStep_outcome]
    rfl

/-- The outcomes there are. -/
theorem mem_outcomes {o : Outcome} : o ∈ (run w files p).outcomes ↔
    (p.packages ≠ [] ∧ o = .ofReply .install (w.reply files p.installCommand)) ∨
      o = cloneOutcome w files p := by
  rw [run_outcomes, List.mem_append, Option.mem_toList, List.mem_singleton,
    installOutcome?]
  by_cases hpackages : p.packages = []
  · simp [hpackages]
  · simp [hpackages, eq_comm]

/-- All of it is reported as the cloning. -/
theorem cloneOutcome_step : (cloneOutcome w files p).step = .clone := by
  unfold cloneOutcome
  split
  · exact ofReply_step _ _
  · rfl

/-- What is reported about the clone. -/
theorem cloneOutcome_reported :
    match (cleared w files p).result with
    | .ok () => Reported (w.reply (cleared w files p).files p.cloneCommand)
        (cloneOutcome w files p).success (cloneOutcome w files p).detail
    | .error reason => (cloneOutcome w files p).success = false ∧
      (cloneOutcome w files p).detail =
        s!"could not remove {p.checkout.display}: {reason.message}" := by
  unfold cloneOutcome
  cases (cleared w files p).result with
  | ok => exact reported_ofReply .clone _
  | error reason => exact ⟨rfl, rfl⟩

-- =============================================================== the log

/-- What is told before a step. -/
def announcement : Step → String
  | .install => "Installing " ++ String.intercalate " " p.packages
  | .clone => s!"Cloning {p.repository} into {p.checkout.display}"

/-- What is told about an outcome, and how much it matters. -/
def verdict (o : Outcome) : Level × String :=
  if o.success then (.info, s!"{o.step.name} done")
  else (.warn, s!"{o.step.name} failed ({o.detail}), continuing")

/-- An outcome is logged with its verdict. -/
theorem event_verdict (o : Outcome) :
    (o.event.level, o.event.message) = verdict o := by
  obtain ⟨step, fault⟩ := o
  cases fault <;> rfl

/-- The levels and wordings of what was told. -/
def log (h : History) : List (Level × String) :=
  h.events.map fun e => (e.level, e.message)

/-- The log of two histories is the one after the other. -/
theorem log_append (h h' : History) : log (h ++ h') = log h ++ log h' := by
  unfold log History.events
  rw [List.filterMap_append, List.map_append]

/-- A step of which nothing is told while it is taken is told before and
after. -/
theorem log_reported {t : Taken} (h : log t.history = []) (before : Event) :
    log (t.reported before).history
      = [(before.level, before.message), verdict t.outcome] := by
  change (before.level, before.message) ::
    log (t.history ++ [.told t.outcome.event]) = _
  rw [log_append, h, ← event_verdict]
  rfl

/-- Running a command logs nothing by itself. -/
theorem log_runStep (step : Step) (command : Command) :
    log (runStep w f step command).history = [] := by
  unfold runStep
  dsimp only
  split <;> rfl

/-- Nor does replacing the checkout. -/
theorem log_replaceCheckout : log (replaceCheckout w f p).history = [] := by
  unfold replaceCheckout
  dsimp only
  split
  · rfl
  · exact log_runStep w _ .clone p.cloneCommand

/-- A preparation is made of the two steps, each announced and then
reported; without packages there is only the second. -/
theorem run_history :
    (run w files p).history =
      (if p.packages = [] then [] else
        ((runStep w files .install p.installCommand).reported
          (.installing p.packages)).history) ++
      ((replaceCheckout w (installed w files p) p).reported
        (.cloning p.repository p.checkout)).history := by
  unfold run installed
  dsimp only
  cases p.packages <;> rfl

/-- Every outcome is told once, behind the announcement of its step. -/
theorem run_log :
    log (run w files p).history =
      (run w files p).outcomes.flatMap fun o =>
      [(.info, announcement p o.step), verdict o] := by
  rw [run_history, log_append,
    log_reported (log_replaceCheckout w (installed w files p) p),
    replaceCheckout_outcome, run_outcomes, List.flatMap_append,
    List.flatMap_singleton, cloneOutcome_step, installOutcome?]
  refine congrArg (· ++ _) ?_
  by_cases hpackages : p.packages = []
  · rw [if_pos hpackages, if_pos hpackages]
    rfl
  · rw [if_neg hpackages, if_neg hpackages,
      log_reported (log_runStep w files _ _), runStep_outcome,
      Option.toList_some, List.flatMap_singleton, ofReply_step]
    rfl

-- ======================================================= one preparation

/-- What a preparation reports, each step by itself. -/
structure Reports (w : World) (files : Files) (p : Plan) : Prop where
  /-- An outcome for the installation if there are packages, and one for the
  clone. -/
  steps : (run w files p).outcomes.map Outcome.step =
    (if p.packages = [] then [] else [.install]) ++ [.clone]
  installation : ∀ o ∈ (run w files p).outcomes, o.step = .install →
    Reported (w.reply files p.installCommand) o.success o.detail
  clone : ∀ o ∈ (run w files p).outcomes, o.step = .clone →
    match (cleared w files p).result with
    | .ok () => Reported (w.reply (cleared w files p).files p.cloneCommand)
      o.success o.detail
    | .error reason => o.success = false ∧
      o.detail = s!"could not remove {p.checkout.display}: {reason.message}"
  attempts : (run w files p).history.attempts =
    (installAttempt? w files p).toList ++ (cloneAttempt? w files p).toList
  /-- All packages are handed over, in order. -/
  installs : ∀ a, installAttempt? w files p = some a ↔ p.packages ≠ [] ∧
    a = w.attempt files
    ⟨p.python, (["-m", "pip", "install", "-q"] ++ p.packages).map Utf8.encode,
      []⟩
  /-- The repository is cloned if the old checkout could be cleared away. -/
  clones : ∀ a, cloneAttempt? w files p = some a ↔
    (cleared w files p).result = .ok () ∧
    a = w.attempt (cleared w files p).files
      ⟨"git", ["clone", "--depth=1", p.repository].map Utf8.encode ++
        [p.checkout.bytes], []⟩
  told : log (run w files p).history =
    (run w files p).outcomes.flatMap fun o =>
    [(.info, announcement p o.step), verdict o]

/-- Every preparation reports what its commands did. -/
theorem reports : Reports w files p where
  steps := by
    rw [run_outcomes, List.map_append, List.map_singleton, cloneOutcome_step,
      installOutcome?]
    refine congrArg (· ++ _) ?_
    by_cases hpackages : p.packages = []
    · rw [if_pos hpackages, if_pos hpackages]
      rfl
    · rw [if_neg hpackages, if_neg hpackages, Option.toList_some,
        List.map_singleton, ofReply_step]
  installation o ho hstep := by
    obtain ⟨-, rfl⟩ | rfl := (mem_outcomes w files p).mp ho
    · exact reported_ofReply .install _
    · rw [cloneOutcome_step] at hstep
      cases hstep
  clone o ho hstep := by
    obtain ⟨-, rfl⟩ | rfl := (mem_outcomes w files p).mp ho
    · rw [ofReply_step] at hstep
      cases hstep
    · exact cloneOutcome_reported w files p
  attempts := run_attempts w files p
  installs a := by
    rw [installAttempt?_eq_some, List.map_append]
    rfl
  clones a := cloneAttempt?_eq_some
  told := run_log w files p

-- ====================================================== two preparations

/-- What was there before and is gone after. -/
def Removed (before after : Files) (q : List Bytes) : Prop :=
  (Node.at? q before.root).isSome = true ∧ Node.at? q after.root = none

variable {w files f p} {f' : Files} {checkout : Path}

/-- Nothing is removed where all nodes are the same. -/
theorem not_removed {q : List Bytes} {inside : List Bytes → Prop}
    (h : Files.SameOutside inside f f')
    (hq : ¬ inside q) : ¬ Removed f f' q := by
  rintro ⟨hsome, hnone⟩
  have hbare := h.alike q hq
  rw [hnone, Option.map_none, eq_comm, Option.map_eq_none_iff] at hbare
  rw [hbare] at hsome
  cases hsome

/-- An old checkout is cleared away to the same end in either tree, and the
same with it. -/
theorem clear_untouched (h : Untouched f f' checkout) :
    (clear f' checkout).result = (clear f checkout).result ∧
      ∀ q, Removed f' (clear f' checkout).files q ↔
        Removed f (clear f checkout).files q := by
  have houtside := clear_sameOutside f checkout
  have houtside' := clear_sameOutside f' checkout
  have hends :
      Files.EndsAlike f checkout (clear f checkout) (clear f' checkout) := by
    unfold clear
    rw [Files.leadsSomewhere_untouched h]
    split
    · exact Files.removeAll_untouched h
    · exact ⟨rfl, fun q hq _ => h.whole q (.inr hq)⟩
  refine ⟨hends.result, fun q => ?_⟩
  by_cases hq : f.Reaches checkout q
  · unfold Removed
    rw [h.whole q (.inr hq)]
    exact and_congr_right fun hsome => by rw [hends.left q hq hsome]
  · exact iff_of_false
      (not_removed houtside' (mt (Files.reaches_untouched h q).mp hq))
      (not_removed houtside hq)

/-- And if it is cleared away, its path meets the same afterwards. -/
theorem untouched_clear (h : Untouched f f' checkout)
    (hcleared : (clear f checkout).result = .ok ()) :
    Untouched (clear f checkout).files (clear f' checkout).files checkout := by
  unfold clear at hcleared ⊢
  rw [Files.leadsSomewhere_untouched h]
  split
  case isTrue hleads =>
    rw [if_pos hleads] at hcleared
    exact h.removeAll hcleared
  case isFalse => exact h

/-- The command of the cloning, if it comes to that. -/
theorem cloneAttempt?_command (w : World) (files : Files) (p : Plan) :
    (cloneAttempt? w files p).map Attempt.command =
      match (cleared w files p).result with
      | .ok () => some p.cloneCommand
      | .error _ => none := by
  unfold cloneAttempt?
  cases (cleared w files p).result <;> rfl

/-- The program that clones is the same in two worlds and minds nothing but
the checkout: once found, it ends in the same way wherever the path of the
checkout meets the same. -/
def ClonesAlike (w w' : World) (p : Plan) : Prop :=
  ∀ f f' image, Untouched f f' p.checkout →
    w'.ending f' p.cloneCommand image = w.ending f p.cloneCommand image

/-- What two preparations have in common whose installations leave the
checkout alone. -/
structure SecondStepAlike (w w' : World) (files : Files) (p : Plan) : Prop where
  result : (cleared w' files p).result = (cleared w files p).result
  removed : ∀ q, Removed (installed w' files p) (cleared w' files p).files q ↔
    Removed (installed w files p) (cleared w files p).files q
  command : (cloneAttempt? w' files p).map Attempt.command =
    (cloneAttempt? w files p).map Attempt.command
  /-- A program that is found in both, or in neither for the same reason, and
  that minds nothing but the checkout, has the same outcome. -/
  outcome : ClonesAlike w w' p →
    (cloneAttempt? w' files p).map Attempt.image
      = (cloneAttempt? w files p).map Attempt.image →
    (run w' files p).outcomes.getLast? = (run w files p).outcomes.getLast?

/-- What comes of the clone does not tell one installation from another. -/
theorem reply_untouched {w w' : World} {p : Plan} {f f₁ f₂ : Files}
    (halike : ClonesAlike w w' p) (h₁ : Untouched f f₁ p.checkout)
    (h₂ : Untouched f f₂ p.checkout)
    (himage : (w'.attempt f₂ p.cloneCommand).image
      = (w.attempt f₁ p.cloneCommand).image) :
    w'.reply f₂ p.cloneCommand = w.reply f₁ p.cloneCommand := by
  have hending (image : Bytes) : w'.ending f₂ p.cloneCommand image =
      w.ending f₁ p.cloneCommand image :=
    calc w'.ending f₂ p.cloneCommand image
        = w.ending f p.cloneCommand image := halike f f₂ image h₂
      _ = w'.ending f₁ p.cloneCommand image := (halike f f₁ image h₁).symm
      _ = w.ending f₁ p.cloneCommand image :=
          halike f₁ f₁ image (.refl f₁ p.checkout)
  unfold World.reply
  rw [himage, funext hending]

/-- What becomes of the second step hangs on the first only through the
checkout. -/
theorem secondStepAlike {w w' : World} {files : Files} {p : Plan}
    (h : Untouched files (installed w files p) p.checkout)
    (h' : Untouched files (installed w' files p) p.checkout) :
    SecondStepAlike w w' files p := by
  have hresult : (cleared w files p).result = (clear files p.checkout).result :=
    (clear_untouched h).1
  have hresult' : (cleared w' files p).result
      = (clear files p.checkout).result :=
    (clear_untouched h').1
  refine ⟨hresult'.trans hresult.symm, fun q => ?_, ?_, fun halike himage => ?_⟩
  · exact ((clear_untouched h').2 q).trans ((clear_untouched h).2 q).symm
  · rw [cloneAttempt?_command, cloneAttempt?_command, hresult, hresult']
  · rw [run_outcomes, run_outcomes, List.getLast?_concat, List.getLast?_concat]
    refine congrArg some ?_
    unfold cloneOutcome
    cases hcleared : (clear files p.checkout).result with
    | error reason =>
      rw [hcleared] at hresult hresult'
      rw [hresult, hresult']
    | ok =>
      rw [hcleared] at hresult hresult'
      have hmet : Untouched (clear files p.checkout).files
          (cleared w files p).files p.checkout :=
        untouched_clear h hcleared
      have hmet' : Untouched (clear files p.checkout).files
          (cleared w' files p).files p.checkout :=
        untouched_clear h' hcleared
      have hattempt := cloneAttempt?_eq_some.mpr ⟨hresult, rfl⟩
      have hattempt' := cloneAttempt?_eq_some.mpr ⟨hresult', rfl⟩
      rw [hattempt, hattempt', Option.map_some, Option.map_some,
        Option.some.injEq] at himage
      rw [hresult, hresult']
      dsimp only
      rw [reply_untouched halike hmet hmet' himage]

/-- A preparation reports every step and stops at none: what the second step
comes to is the same for any two installations that leave the checkout
alone. -/
theorem run_reports (w : World) (files : Files) (p : Plan) :
    Reports w files p ∧
      ∀ w', Untouched files (installed w files p) p.checkout →
        Untouched files (installed w' files p) p.checkout →
        SecondStepAlike w w' files p :=
  ⟨reports w files p, fun _ => secondStepAlike⟩

/-- A world where nothing can be cloned, and packages are installed like
this. -/
def failingClone (install : Launch → Finished) : World :=
  { Startup.idleWorld with
    run := fun l =>
      if l.command.program = "git" then
        ⟨.code 128, Utf8.encode "fatal\n", l.files⟩
      else install l }

/-- An old checkout and two programs, and what else there is. -/
def oldCheckout (others : Entries) : Files := ⟨.directory true ([
  (Utf8.encode "bin", .directory true [
    (Utf8.encode "git", .file [] true), (Utf8.encode "py", .file [] true)]),
  (Utf8.encode "repo",
    .directory true [(Utf8.encode "stale", .file [] false)])] ++ others), []⟩

/-- A plan with a package. -/
def packagePlan : Plan := ⟨"py", ["dm-haiku"], "u", .ofString "repo"⟩

/-- The installation is killed. -/
def killed : World := failingClone fun l => ⟨.signal 9, [], l.files⟩

/-- The installation succeeds and leaves a library. -/
def provided : World :=
  failingClone fun _ =>
    ⟨.code 0, [], oldCheckout [(Utf8.encode "lib", .directory true [])]⟩

/-- What else there is does not touch the checkout. -/
theorem untouched_oldCheckout (others : Entries) :
    Untouched (oldCheckout []) (oldCheckout others) packagePlan.checkout := by
  have hlooks : Files.looks (oldCheckout []).root Files.linkLimit
      ((oldCheckout []).start packagePlan.checkout) packagePlan.checkout.steps
        = [[], [Utf8.encode "repo"]] := by
    with_unfolding_all rfl
  have hat : Node.at? [Utf8.encode "repo"] (oldCheckout others).root =
      Node.at? [Utf8.encode "repo"] (oldCheckout []).root := by
    with_unfolding_all rfl
  refine ⟨rfl, fun q hq => ?_, fun q hq => ?_⟩
  · have hplaces : q ∈ [[], [Utf8.encode "repo"]] := hlooks ▸ hq
    rcases List.mem_cons.mp hplaces with rfl | hplaces
    · rfl
    · rw [List.mem_singleton.mp hplaces, hat]
  · have hbelow : [Utf8.encode "repo"] <+: q := by
      have hnamed : (oldCheckout []).named? packagePlan.checkout
          = some [Utf8.encode "repo"] := by
        with_unfolding_all rfl
      have hresolve : ((oldCheckout []).resolve false packagePlan.checkout).map
          Trail.names = .ok [Utf8.encode "repo"] := by
        with_unfolding_all rfl
      rcases hq with ⟨place, hplace, hq⟩ | ⟨t, ht, hq⟩
      · rw [hnamed] at hplace
        cases hplace
        exact hq
      · rw [ht] at hresolve
        rwa [Except.ok.inj hresolve] at hq
    obtain ⟨below, rfl⟩ := hbelow
    rw [Node.at?_append, Node.at?_append, hat]

/-- Killed or not, the installation leaves the clone to fail in the same way. -/
theorem run_reports_failingClone :
    Untouched (oldCheckout []) (installed killed (oldCheckout []) packagePlan)
        packagePlan.checkout ∧
      Untouched (oldCheckout [])
        (installed provided (oldCheckout []) packagePlan) packagePlan.checkout ∧
      (run killed (oldCheckout []) packagePlan).outcomes.map
        (fun o => (o.success, o.detail)) =
        [(false, "exit -1: "), (false, "exit 128: fatal")] ∧
      (run provided (oldCheckout []) packagePlan).outcomes.map Outcome.success
        = [true, false] ∧
      (run provided (oldCheckout []) packagePlan).outcomes.getLast? =
        (run killed (oldCheckout []) packagePlan).outcomes.getLast? := by
  have hsame :
      Untouched (oldCheckout []) (installed killed (oldCheckout []) packagePlan)
      packagePlan.checkout := by
    have hkilled : installed killed (oldCheckout []) packagePlan
        = oldCheckout [] := by
      with_unfolding_all rfl
    rw [hkilled]
    exact untouched_oldCheckout []
  have hsame' : Untouched (oldCheckout [])
      (installed provided (oldCheckout []) packagePlan)
      packagePlan.checkout := by
    have hprovided : installed provided (oldCheckout []) packagePlan =
        oldCheckout [(Utf8.encode "lib", .directory true [])] := by
      with_unfolding_all rfl
    rw [hprovided]
    exact untouched_oldCheckout _
  refine ⟨hsame, hsame', ?_, ?_, ?_⟩
  · have hinstall : installOutcome? killed (oldCheckout []) packagePlan =
        some ⟨.install, some (.exited (.signal 9) [])⟩ := by
      with_unfolding_all rfl
    have hclone : cloneOutcome killed (oldCheckout []) packagePlan =
        ⟨.clone, some (.exited (.code 128) (Utf8.encode "fatal\n"))⟩ := by
      with_unfolding_all rfl
    rw [run_outcomes, hinstall, hclone]
    with_unfolding_all rfl
  · with_unfolding_all rfl
  · refine ((run_reports killed (oldCheckout []) packagePlan).2 provided hsame
      hsame').outcome ?_ ?_
    · exact fun _ _ _ _ => rfl
    · with_unfolding_all rfl

end Preparation

end Restoration
