/-
Where the checkout stands.

One path is removed before the clone, handed to it and put first among the
places where the worker looks for modules (`usesCheckout`). If the
environment gives it as `~/` and something more, that is joined to the home
directory: names are put behind names, as a shell would have it, unless what
is joined starts with a slash. Then joining drops the home directory, and
the path lies below it only if it says so itself (`expandHome_tilde`).
-/
import Restoration.Proofs.Files.Removal
import Restoration.Proofs.Path
import Restoration.Proofs.Startup.Order

namespace Restoration

-- ================================================================== home

namespace Path

/-- A path lies under a directory: it starts where the directory does and
goes on from there without `..`. -/
def Under (home p : Path) : Prop :=
  p.isAbsolute = home.isAbsolute ∧ ∃ names, dots ∉ names ∧
    p.names = home.names ++ names

/-- What a shell makes of a directory, a slash and a path: the bytes one
behind the other, where a slash is not needed twice. So names stand behind
names, and the place is one below that of the directory. -/
structure Extends (home rest p : Path) : Prop where
  bytes : p.bytes = if home.bytes = [] ∨ home.endsInSlash then
    home.bytes ++ rest.bytes else home.bytes ++ slash :: rest.bytes
  start : p.isAbsolute = home.isAbsolute
  names : p.names = home.names ++ rest.names
  place : ∀ f : Files, f.place p = f.place home ++ Files.downward rest.names
  /-- The same of absolute forms of the path. -/
  absolute : ∀ d q, absolute d p = some q → ∃ start : Path,
    q.names = start.names ++ Files.downward (home.names ++ rest.names)
      ∧ if home.isAbsolute then start.names = [] ∧ q.isAbsolute = true
      else d = some start

variable {home rest : Path}

/-- Joining a relative path extends the path before it. -/
theorem extends_join (h : rest.isAbsolute = false) :
    Extends home rest (home.join rest) where
  bytes := by
    unfold join
    rw [if_neg (by rw [h]; decide)]
    split <;> rfl
  start := isAbsolute_join h
  names := names_join h
  place f := by
    unfold Files.place Files.base Files.downward
    rw [isAbsolute_join h, names_join h, List.filter_append, List.append_assoc]
  absolute d q hq := by
    have hcases := absolute_cases hq
    rwa [isAbsolute_join h, names_join h] at hcases

/-- An extension that never goes up stays below what it extends. -/
theorem Extends.under {p : Path} (h : Extends home rest p)
    (hdots : dots ∉ rest.names) :
    Under home p :=
  ⟨h.start, rest.names, hdots, h.names⟩

/-- An absolute path lies under a directory if it goes through it. -/
theorem under_iff_of_isAbsolute (h : rest.isAbsolute = true)
    (hdots : dots ∉ rest.names) :
    Under home rest ↔ home.isAbsolute = true ∧ home.names <+: rest.names := by
  unfold Under
  rw [h]
  constructor
  · rintro ⟨hstart, names, -, hnames⟩
    exact ⟨hstart.symm, names, hnames.symm⟩
  · rintro ⟨hstart, names, hnames⟩
    refine ⟨hstart.symm, names, fun hmem => hdots ?_, hnames.symm⟩
    rw [← hnames]
    exact List.mem_append_right _ hmem

end Path

/-- A tilde and a slash stand for the home directory. -/
theorem expandHome_tilde (home : Path) (rest : String) :
    expandHome (some home) ("~/" ++ rest) = home.join (.ofString rest) := by
  have hlist : ("~/" ++ rest).toList = '~' :: '/' :: rest.toList := by
    rw [String.toList_append]
    rfl
  unfold expandHome
  rw [hlist]
  exact congrArg (fun s => home.join (.ofString s)) String.ofList_toList

namespace Startup

variable (w : World) (files : Files) (s : Settings) (o : Options)

-- ============================================================== checkout

/-- A path is removed, cloned into and looked for modules in. -/
structure UsesCheckout (checkout : Path) : Prop where
  removes : o.withoutPreparation = false →
    ∃ removal, removal
      = Preparation.clear (Preparation.installed w files (planOf s)) checkout
      ∧ (prepared w files s o = removal.files ∨ prepared w files s o =
        (Preparation.runStep w removal.files .clone
          (planOf s).cloneCommand).files)
  clones : ∀ a ∈ (prepare w files s o).1.attempts,
    a.command = (planOf s).installCommand
    ∨ a.command.program = "git" ∧
    ∃ options, a.command.arguments = options ++ [checkout.bytes]
  /-- Places are a list unless one of them holds a colon. -/
  modules : ∀ a, workerAttempt? w files s o = some a → ∃ place others value,
    place = (Path.absolute a.files.workingPath checkout).getD checkout
      ∧ (w.environment.set a.command.bindings).bytes? "PYTHONPATH" = some value
      ∧ (Path.ofList value = place :: others
        ∨ value = [] ∧ ∃ q ∈ place :: others, Path.colon ∈ q.bytes)

/-- The start uses one checkout throughout: it removes, fills and loads the
same path. -/
theorem usesCheckout : UsesCheckout w files s o s.checkout where
  removes hprepares := by
    have hprepared : prepared w files s o
        = (Preparation.run w files (planOf s)).files := by
      unfold prepared prepare
      rw [hprepares]
      rfl
    rw [hprepared]
    exact
      ⟨_, rfl, (Preparation.run_files w files (planOf s)).imp_right And.right⟩
  clones a ha := by
    rw [attempts_prepare] at ha
    split at ha
    case isTrue => cases ha
    case isFalse =>
      rcases List.mem_append.mp ha with h | h
      · rw [Option.mem_toList, Preparation.installAttempt?_eq_some] at h
        exact .inl (by rw [h.2]; rfl)
      · rw [Option.mem_toList, Preparation.cloneAttempt?_eq_some] at h
        exact .inr (by rw [h.2]; exact ⟨rfl, _, rfl⟩)
  modules a ha := by
    obtain ⟨path, scripted, -, -, rfl⟩ := workerAttempt?_eq_some.mp ha
    exact ⟨_, _, Worker.modulePath w scripted s.checkout, rfl, rfl,
      Path.toList_cases (List.cons_ne_nil _ _)⟩

variable (home : Path) (lookup : String → Option String) (rest : String)

/-- Where `~/` and a path are given as the checkout, that is used: the path
below the home directory, or the path alone if it starts with a slash. -/
theorem serve_checkout (hgiven : lookup "AENEAS_REPO_DIR" = some ("~/" ++ rest))
    (hdots : Path.dots ∉ (Path.ofString rest).names) :
    ∃ checkout,
      UsesCheckout w files (Settings.ofLookup (some home) lookup) o checkout
      ∧ if (Path.ofString rest).isAbsolute
        then checkout = Path.ofString rest
          ∧ (Path.Under home checkout
            ↔ home.isAbsolute = true ∧
            home.names <+: (Path.ofString rest).names)
        else Path.Extends home (Path.ofString rest) checkout ∧
        Path.Under home checkout := by
  refine ⟨_, usesCheckout w files _ o, ?_⟩
  have hcheckout : (Settings.ofLookup (some home) lookup).checkout
      = home.join (Path.ofString rest) := by
    unfold Settings.ofLookup
    dsimp only
    rw [hgiven, Option.getD_some, expandHome_tilde]
  rw [hcheckout]
  split
  case isTrue hroot =>
    rw [Path.join, if_pos hroot]
    exact ⟨rfl, Path.under_iff_of_isAbsolute hroot hdots⟩
  case isFalse hroot =>
    have hextends : Path.Extends home (Path.ofString rest)
        (home.join (Path.ofString rest)) :=
      Path.extends_join (Bool.not_eq_true _ ▸ hroot)
    exact ⟨hextends, hextends.under hdots⟩

/-- A home directory. -/
def scribeHome : Path := .ofString "/home/scribe"

/-- An environment that gives nothing but the checkout. -/
def checkoutAt (checkout name : String) : Option String :=
  if name = "AENEAS_REPO_DIR" then some checkout else none

theorem serve_checkout_model :
    ∃ checkout, UsesCheckout idleWorld idleFiles
        (Settings.ofLookup (some scribeHome) (checkoutAt "~/my/model"))
        ⟨true, false⟩ checkout
      ∧ checkout.names
        = [Utf8.encode "home", Utf8.encode "scribe", Utf8.encode "my",
        Utf8.encode "model"]
      ∧ Path.Under scribeHome checkout := by
  have hgiven : checkoutAt "~/my/model" "AENEAS_REPO_DIR"
    = some ("~/" ++ "my/model") := by decide
  have hdots : Path.dots ∉ (Path.ofString "my/model").names := by
    with_unfolding_all decide
  have hrelative : ¬ (Path.ofString "my/model").isAbsolute = true := by
    with_unfolding_all decide
  obtain ⟨checkout, huses, hcheckout⟩ :=
    serve_checkout idleWorld idleFiles ⟨true, false⟩
    scribeHome (checkoutAt "~/my/model") "my/model" hgiven hdots
  rw [if_neg hrelative] at hcheckout
  obtain ⟨hextends, hunder⟩ := hcheckout
  refine ⟨checkout, huses, hextends.names.trans ?_, hunder⟩
  with_unfolding_all rfl

/-- Files with a directory beside the home directory. -/
def besideHome : Files := ⟨.directory true [
  (Utf8.encode "home",
    .directory true [(Utf8.encode "scribe", .directory true [])]),
  (Utf8.encode "model",
    .directory true [(Utf8.encode "notes", .file [] false)])], []⟩

/-- With a second slash behind the tilde the checkout lies outside the home
directory, and the directory that stands there is removed. -/
theorem serve_checkout_outside :
    (Settings.ofLookup (some scribeHome) (checkoutAt "~//model")).checkout
      = .ofString "/model" ∧ ¬ Path.Under scribeHome (.ofString "/model")
      ∧ (Preparation.clear besideHome (.ofString "/model")).files.root
        = .directory true [
        (Utf8.encode "home",
          .directory true [(Utf8.encode "scribe", .directory true [])])] := by
  have hgiven : checkoutAt "~//model" "AENEAS_REPO_DIR"
    = some ("~/" ++ "/model") := by decide
  refine ⟨?_, ?_, ?_⟩
  · unfold Settings.ofLookup
    dsimp only
    rw [hgiven, Option.getD_some, expandHome_tilde]
    with_unfolding_all rfl
  · rw [Path.under_iff_of_isAbsolute (by with_unfolding_all rfl)
        (by with_unfolding_all decide)]
    with_unfolding_all decide
  · with_unfolding_all rfl

end Startup

end Restoration
