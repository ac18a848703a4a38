/-
What stands at the checkout when it is cloned.

Before the clone the old checkout is removed, but only if its path leads
somewhere. If it does, and the removal succeeds, the path names nothing any
more (`isPresent_removeAll`). If it does not, it names nothing either, unless
it names a link that leads nowhere: that is left in place, and the clone is
attempted on top of it. So this link is the one thing that can stand in the
way of a clone (`run_clones_over_iff`).
-/
import Restoration.Proofs.Files.Presence
import Restoration.Proofs.Preparation.Frame

namespace Restoration.Preparation

variable {w : World} {files f : Files} {p : Plan} {checkout : Path}

/-- An old checkout that is cleared away is there no more, unless it was a
link that leads nowhere. -/
theorem isPresent_clear_iff (direct : f.Direct)
    (h : (clear f checkout).result = .ok ()) :
    (clear f checkout).files.isPresent checkout = true ↔
      f.Dangling checkout := by
  rw [Files.dangling_iff]
  unfold clear at h ⊢
  split at h
  case isTrue hleads =>
    rw [if_pos hleads, Files.isPresent_removeAll direct h, hleads]
    simp
  case isFalse hleads =>
    rw [if_neg hleads]
    simp [hleads]

/-- A link that leads nowhere is not cleared away. -/
theorem clear_of_dangling (h : f.Dangling checkout) :
    clear f checkout = ⟨f, .ok ()⟩ := by
  rw [clear, (Files.dangling_iff.mp h).2]
  rfl

/-- Packages are not installed by the command that clones. -/
theorem installCommand_ne_cloneCommand (p : Plan) :
    p.installCommand ≠ p.cloneCommand := by
  intro h
  have harguments := congrArg (fun c : Command => c.arguments.head?) h
  simp only [Plan.installCommand, Plan.cloneCommand, List.map_cons,
    List.cons_append, List.head?_cons, Option.some.injEq] at harguments
  revert harguments
  decide +kernel

/-- A clone is attempted where the old checkout could be cleared away. -/
theorem mem_attempts_clone_iff {a : Attempt} :
    a ∈ (run w files p).history.attempts ∧ a.command = p.cloneCommand ↔
      cloneAttempt? w files p = some a := by
  rw [run_attempts, List.mem_append, Option.mem_toList, Option.mem_toList]
  constructor
  · rintro ⟨hinstall | hclone, hcommand⟩
    · obtain ⟨-, rfl⟩ := installAttempt?_eq_some.mp hinstall
      exact absurd hcommand (installCommand_ne_cloneCommand p)
    · exact hclone
  · intro hclone
    obtain ⟨-, rfl⟩ := cloneAttempt?_eq_some.mp hclone
    exact ⟨.inr hclone, rfl⟩

/-- A clone is attempted at a place that is taken exactly if the checkout is
a link that leads nowhere. -/
theorem run_clones_over_iff (direct : (installed w files p).Direct) :
    (∃ a ∈ (run w files p).history.attempts,
      a.command = p.cloneCommand ∧ a.files.isPresent p.checkout = true) ↔
      (installed w files p).Dangling p.checkout := by
  constructor
  · rintro ⟨a, ha, hcommand, hpresent⟩
    obtain ⟨hcleared, rfl⟩ :=
      cloneAttempt?_eq_some.mp (mem_attempts_clone_iff.mp ⟨ha, hcommand⟩)
    exact (isPresent_clear_iff direct hcleared).mp hpresent
  · intro hdangling
    have hcleared : cleared w files p = ⟨installed w files p, .ok ()⟩ :=
      clear_of_dangling hdangling
    have hclone : cloneAttempt? w files p =
        some (w.attempt (installed w files p) p.cloneCommand) :=
      cloneAttempt?_eq_some.mpr (by rw [hcleared]; exact ⟨rfl, rfl⟩)
    obtain ⟨ha, hcommand⟩ := mem_attempts_clone_iff.mpr hclone
    exact ⟨_, ha, hcommand, (Files.dangling_iff.mp hdangling).1⟩

/-- A link to a directory, in place of a checkout, is taken away before the
clone. -/
theorem run_clones_over_linkInPlace :
    linkInPlace.Direct ∧
      (∃ a
        ∈ (run Startup.idleWorld linkInPlace
          (checkoutPlan "repo")).history.attempts,
        a.command = (checkoutPlan "repo").cloneCommand) ∧
      ∀ a ∈ (run Startup.idleWorld linkInPlace
        (checkoutPlan "repo")).history.attempts,
        a.command = (checkoutPlan "repo").cloneCommand →
          a.files.isPresent (.ofString "repo") = false := by
  have direct : linkInPlace.Direct := by
    rintro place target hplace
    rw [List.prefix_nil.mp hplace]
    exact fun h => nomatch h
  refine ⟨direct, ?_, fun a ha hcommand => ?_⟩
  · have hcleared :
        (cleared Startup.idleWorld linkInPlace (checkoutPlan "repo")).result
          = .ok () := by
      with_unfolding_all rfl
    exact ⟨_,
      mem_attempts_clone_iff.mpr (cloneAttempt?_eq_some.mpr ⟨hcleared, rfl⟩)⟩
  · rw [← Bool.not_eq_true]
    intro hpresent
    have hinstalled :
        (installed Startup.idleWorld linkInPlace
          (checkoutPlan "repo")).Direct :=
      direct
    have hdangling :=
      (run_clones_over_iff hinstalled).mp ⟨a, ha, hcommand, hpresent⟩
    have hleads : linkInPlace.leadsSomewhere (.ofString "repo") = true := by
      with_unfolding_all rfl
    have hnone := (Files.dangling_iff.mp hdangling).2
    rw [show installed Startup.idleWorld linkInPlace (checkoutPlan "repo")
        = linkInPlace from rfl,
      show (checkoutPlan "repo").checkout = .ofString "repo" from rfl, hleads]
    at hnone
    cases hnone

/-- A program for cloning, and a link to nothing in place of a checkout. -/
def danglingInPlace : Files := ⟨.directory true [
  (Utf8.encode "bin", .directory true [(Utf8.encode "git", .file [] true)]),
  (Utf8.encode "repo", .link (.ofString "gone"))], []⟩

/-- The program is found and started while the link still stands there. -/
theorem run_clones_over_danglingInPlace :
    ∃ a ∈ (run Startup.idleWorld danglingInPlace
      (checkoutPlan "repo")).history.attempts,
      a.command = (checkoutPlan "repo").cloneCommand ∧ a.image = .ok [] ∧
        a.files.lookAt (.ofString "repo") = .ok (.link (.ofString "gone")) := by
  refine ⟨Startup.idleWorld.attempt danglingInPlace
    (checkoutPlan "repo").cloneCommand, ?_, rfl, ?_, ?_⟩
  · have hcleared :
        cleared Startup.idleWorld danglingInPlace (checkoutPlan "repo") =
        ⟨danglingInPlace, .ok ()⟩ := by
      with_unfolding_all rfl
    have hclone :
        cloneAttempt? Startup.idleWorld danglingInPlace (checkoutPlan "repo")
          = some (Startup.idleWorld.attempt danglingInPlace
              (checkoutPlan "repo").cloneCommand) :=
      cloneAttempt?_eq_some.mpr (by rw [hcleared]; exact ⟨rfl, rfl⟩)
    exact (mem_attempts_clone_iff.mpr hclone).1
  · with_unfolding_all rfl
  · with_unfolding_all rfl

end Restoration.Preparation
