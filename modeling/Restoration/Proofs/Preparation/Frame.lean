/-
What a preparation leaves alone.

A preparation changes the tree three times: packages are installed, the old
checkout is removed, and a new one is made. If the programs touch nothing
outside the checkout (`Confined`), the first and the last change show only
at the entry that its path names, and the removal shows only where that path
leads. Both are one place unless the path names a link with a slash behind
it, and then `run_linkBehindSlash` is what happens.

The entry is the one that the path names when a change is made. A removal
that succeeds does not make the path name another one (`inside_of_clear`),
and neither do the programs if the path is not on its own way (`Aside`).
-/
import Restoration.Proofs.Files.Frame
import Restoration.Proofs.Preparation
import Restoration.Proofs.Startup.Order

namespace Restoration

open Files (SameOutside)

/-- Programs that are started with a command touch nothing outside the
checkout. -/
def World.Confined (w : World) (command : Command) (checkout : Path) : Prop :=
  ∀ l : Launch, l.command = command →
    SameOutside (l.files.Inside checkout) l.files (w.run l).files

namespace Preparation

-- =============================================================== changes

variable {w : World} {files : Files} {p : Plan} {f : Files} {checkout : Path}

/-- A step changes nothing outside the checkout if its command does not. -/
theorem runStep_sameOutside (step : Step) {command : Command}
    (h : w.Confined command checkout) :
    SameOutside (f.Inside checkout) f (runStep w f step command).files := by
  rcases runStep_files w f step command with
    hfiles | ⟨image, hfiles⟩ <;> rw [hfiles]
  · exact .refl _ f
  · exact h (w.launch (w.attempt f command) image) rfl

/-- Installing changes nothing there. -/
theorem installed_sameOutside (h : w.Confined p.installCommand checkout) :
    SameOutside (files.Inside checkout) files (installed w files p) := by
  unfold installed
  split
  · exact .refl _ files
  · exact runStep_sameOutside .install h

/-- Clearing the checkout changes only what its path reaches. -/
theorem clear_sameOutside (f : Files) (checkout : Path) :
    SameOutside (f.Reaches checkout) f (clear f checkout).files := by
  unfold clear
  split
  · exact Files.removeAll_sameOutside f checkout
  · exact .refl _ f

/-- When the old checkout is gone its path names the same entry as before. -/
theorem inside_of_clear (h : (clear f checkout).result = .ok ())
    {q : List Bytes} (hq : (clear f checkout).files.Inside checkout q) :
    f.Inside checkout q := by
  have hdirectory := (clear_sameOutside f checkout).workingDirectory
  unfold clear at h hq hdirectory
  split at hq
  case isFalse => exact hq
  case isTrue hleads =>
    rw [if_pos hleads] at h hdirectory
    obtain ⟨place, hplace, hq⟩ := hq
    obtain ⟨r, hresolve⟩ : ∃ r, f.resolve true checkout = .ok r := by
      unfold Files.leadsSomewhere Files.look at hleads
      cases hresolve : f.resolve true checkout with
      | ok r => exact ⟨r, rfl⟩
      | error reason => rw [hresolve] at hleads; cases hleads
    exact ⟨place, Files.named?_of_agree hdirectory (Files.removeAll_agree h)
      hresolve hplace, hq⟩

/-- A checkout is replaced at the entry that its path names and where that
path leads. -/
theorem replaced_sameOutside (h : w.Confined p.cloneCommand p.checkout) :
    SameOutside (fun q => (installed w files p).Inside p.checkout q ∨
        (installed w files p).Reaches p.checkout q)
      (installed w files p) (run w files p).files := by
  have hcleared :
      SameOutside (fun q => (installed w files p).Inside p.checkout q ∨
      (installed w files p).Reaches p.checkout q) (installed w files p)
    (cleared w files p).files :=
    (clear_sameOutside _ p.checkout).mono fun _ => Or.inr
  rcases run_files w files p with hfiles | ⟨hgone, hfiles⟩ <;> rw [hfiles]
  · exact hcleared
  · have hcloned :=
      runStep_sameOutside (f := (cleared w files p).files) .clone h
    exact hcleared.trans
      (hcloned.mono fun q hq => .inl (inside_of_clear hgone hq))

-- ================================================================= whole

/-- What a preparation leaves alone. -/
structure Spares (w : World) (files : Files) (p : Plan) : Prop where
  /-- All but the entry that the path of the checkout names, before the
  packages are installed and after, and what is where that path leads. -/
  others : SameOutside (fun q => files.Inside p.checkout q ∨
      (installed w files p).Inside p.checkout q ∨
      (installed w files p).Reaches p.checkout q)
    files (run w files p).files
  /-- And what is where the path leads, unless it has a slash behind a link. -/
  elsewhere : ¬ (installed w files p).LinkBehindSlash p.checkout →
    SameOutside (fun q => files.Inside p.checkout q ∨
      (installed w files p).Inside p.checkout q) files (run w files p).files
  /-- The path names one entry all along, unless that is on its own way. -/
  outside : ¬ (installed w files p).LinkBehindSlash p.checkout →
    p.packages = [] ∨ files.Aside p.checkout →
    SameOutside (files.Inside p.checkout) files (run w files p).files

variable (w files p)

/-- A preparation changes nothing outside the checkout if its programs do
not, but where the path of the checkout has a slash behind a link. -/
theorem run_sameOutside (hinstall : w.Confined p.installCommand p.checkout)
    (hclone : w.Confined p.cloneCommand p.checkout) : Spares w files p := by
  have hinstalled :
      SameOutside (files.Inside p.checkout) files (installed w files p) :=
    installed_sameOutside hinstall
  have hothers : SameOutside (fun q => files.Inside p.checkout q ∨
      (installed w files p).Inside p.checkout q ∨
      (installed w files p).Reaches p.checkout q) files (run w files p).files :=
    (hinstalled.mono fun _ => Or.inl).trans
      ((replaced_sameOutside hclone).mono fun _ => Or.inr)
  have helsewhere (hlink : ¬ (installed w files p).LinkBehindSlash p.checkout) :
      SameOutside (fun q => files.Inside p.checkout q ∨
        (installed w files p).Inside p.checkout q)
        files (run w files p).files :=
    hothers.mono fun _ hq => hq.imp_right fun hq =>
      hq.elim id (Files.inside_of_reaches hlink)
  refine ⟨hothers, helsewhere,
    fun hlink hnames => (helsewhere hlink).mono fun q hq => ?_⟩
  rcases hq with hq | ⟨place, hplace, hq⟩
  · exact hq
  rcases hnames with hnone | haside
  · refine ⟨place, ?_, hq⟩
    rwa [installed, hnone] at hplace
  · exact ⟨place, Files.named?_of_sameOutside hinstalled haside hplace, hq⟩

/-- A plan with nothing but a checkout. -/
def checkoutPlan (checkout : String) : Plan :=
  ⟨"nope", [], "u", .ofString checkout⟩

/-- Where commands change no file at all, they change none outside. -/
theorem confined_idleWorld (command : Command) (checkout : Path) :
    Startup.idleWorld.Confined command checkout :=
  fun l _ => .refl _ l.files

/-- A checkout with a link in it that leads out of it. -/
def linkInside : Files := ⟨.directory true [
  (Utf8.encode "repo", .directory true [
    (Utf8.encode "notes", .link (.ofString "../other")),
    (Utf8.encode "y", .file [] false)]),
  (Utf8.encode "other", .directory true [(Utf8.encode "x", .file [1] false)])],
  []⟩

/-- The old checkout is removed, a slash behind it or not, and the link is
not followed. -/
theorem run_linkInside :
    Node.at? [Utf8.encode "repo"]
        (run Startup.idleWorld linkInside (checkoutPlan "repo/")).files.root
          = none ∧
      (Node.at? [Utf8.encode "other", Utf8.encode "x"]
        (run Startup.idleWorld linkInside
          (checkoutPlan "repo/")).files.root).map Node.bare =
          some (.file [1] false) := by
  have hnamed : linkInside.named? (.ofString "repo/")
      = some [Utf8.encode "repo"] := by
    with_unfolding_all rfl
  have hlink : ¬ linkInside.LinkBehindSlash (.ofString "repo/") := by
    rintro ⟨-, place, target, hplace, hat⟩
    rw [hnamed] at hplace
    cases hplace
    have hdirectory :
        (Node.at? [Utf8.encode "repo"] linkInside.root).map Node.isLink
          = some false := by
      with_unfolding_all rfl
    rw [hat] at hdirectory
    cases hdirectory
  have houtside :
      ¬ linkInside.Inside (.ofString "repo/")
        [Utf8.encode "other", Utf8.encode "x"] := by
    rintro ⟨place, hplace, hprefix⟩
    rw [hnamed] at hplace
    cases hplace
    revert hprefix
    with_unfolding_all decide
  have hspares :=
    run_sameOutside Startup.idleWorld linkInside (checkoutPlan "repo/")
    (confined_idleWorld _ _) (confined_idleWorld _ _)
  refine ⟨by with_unfolding_all rfl, ?_⟩
  exact ((hspares.outside hlink (.inl rfl)).alike _ houtside).trans
    (by with_unfolding_all rfl)

/-- A link to another directory in place of a checkout. -/
def linkInPlace : Files := ⟨.directory true [
  (Utf8.encode "repo", .link (.ofString "other")),
  (Utf8.encode "other", .directory true [(Utf8.encode "x", .file [1] false)])],
  []⟩

/-- With a slash behind it the link is followed, and the other directory is
emptied. -/
theorem run_linkBehindSlash :
    (∀ command, Startup.idleWorld.Confined command (.ofString "repo/")) ∧
      ¬ linkInPlace.Inside (.ofString "repo/")
        [Utf8.encode "other", Utf8.encode "x"] ∧
      (Node.at? [Utf8.encode "other", Utf8.encode "x"] linkInPlace.root).isSome
        = true ∧
      (run Startup.idleWorld linkInPlace (checkoutPlan "repo/")).files.root
        = .directory true [ (Utf8.encode "repo", .link (.ofString "other")),
        (Utf8.encode "other", .directory true [])] := by
  refine ⟨fun command => confined_idleWorld command _, ?_, ?_, ?_⟩
  · have hnamed : linkInPlace.named? (.ofString "repo/")
        = some [Utf8.encode "repo"] := by
      with_unfolding_all rfl
    rintro ⟨place, hplace, hprefix⟩
    rw [hnamed] at hplace
    cases hplace
    revert hprefix
    with_unfolding_all decide
  · with_unfolding_all rfl
  · with_unfolding_all rfl

end Preparation

end Restoration
