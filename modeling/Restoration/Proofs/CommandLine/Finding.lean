/-
What is printed as the checkpoint, and what is loaded.

The command that prints the checkpoint searches the files as they are; the
one that serves searches them after the preparation. What is found hangs
on the candidates only (`findCheckpoint_congr`), so it is enough to follow
the candidates below the input directory through the preparation (`Keeps`).
Its programs are trusted with them (`Quiet`), but the removal of the old
checkout is not: it keeps them where the checkout lies apart from the input
directory (`sameCandidates_clear`), and may take them away where it does
not (`find_serve_overlap`).
-/
import Restoration.CommandLine
import Restoration.Proofs.Checkpoint.Search
import Restoration.Proofs.Files.Removal
import Restoration.Proofs.Startup.Order

namespace Restoration

open Search

variable {files files' : Files} {matcher : Matcher} {root : Path}

/-- Without links a candidate does not hang on the rest of the tree. -/
theorem Search.Candidate.of_linkFree {directory : Path} {n : Node}
    {names : List Bytes} (h : Candidate files matcher directory n names)
    (hn : n.LinkFree) :
    Candidate files' matcher directory n names := by
  induction h with
  | @here directory entries name n opens mem noDirectory noLinked accepted =>
    refine .here opens mem noDirectory (fun hlink => ?_) accepted
    cases hn.of_mem _ mem with
    | file => cases hlink
    | directory => cases hlink
  | deeper opens mem _ ih => exact .deeper opens mem (ih (hn.of_mem _ mem))

/-- A checkout that is removed apart from the root takes no candidate away
and brings none. -/
theorem sameCandidates_clear {checkout : Path} (hroot : files.root.LinkFree)
    (apart : files.Apart checkout root) (matcher : Matcher) :
    SameCandidates files (Preparation.clear files checkout).files
      matcher root := by
  unfold Preparation.clear
  split
  case isFalse => exact fun names => Iff.rfl
  case isTrue =>
    intro names
    constructor
    · rintro ⟨n, hlook, h⟩
      have hlook :=
        (Files.look_removeAll_iff hroot apart h.isDirectory).mp hlook
      exact
        ⟨n, hlook, h.of_linkFree (Files.look_linkFree hroot apart.plain' hlook)⟩
    · rintro ⟨n, hlook, h⟩
      exact ⟨n, (Files.look_removeAll_iff hroot apart h.isDirectory).mpr hlook,
        h.of_linkFree (Files.look_linkFree hroot apart.plain' hlook)⟩

namespace CommandLine

open Startup (Options happened opening prepared searched workerAttempt?)

/-- The input directory and the matcher do not hang on the other settings
that are given. -/
theorem settingsFor_congr (w : World) {o o' : Overrides}
    (h : o'.inputDirectory = o.inputDirectory) :
    (settingsFor w o').inputDirectory = (settingsFor w o).inputDirectory ∧
      (settingsFor w o').matcher = (settingsFor w o).matcher := by
  unfold settingsFor Overrides.apply
  exact ⟨congrArg (fun given =>
    (Option.map (expandHome w.environment.home) given).getD _) h, rfl⟩

section

variable (w : World) (files : Files) (o o' : Overrides) (options : Options)

/-- What is told while the checkpoint is looked for. -/
def findings : History :=
  .ofEvents
    (findCheckpoint files (settingsFor w o).matcher
      (settingsFor w o).inputDirectory).2

/-- A path is printed, and it is the one that the worker is started with,
as far as the worker program can be written down. -/
structure Agrees (path : Path) : Prop where
  printed :
    find w files o = succeed w files (findings w files o) (path.display ++ "\n")
  told : .told (.loadingCheckpoint path) ∈ happened w files
    (settingsFor w o') options
  started : ∀ scripted, (prepared w files (settingsFor w o') options).put
      w.environment.temporaryDirectory (Worker.scriptName w)
      (.file Worker.script false) = .ok scripted →
    ∃ a ∈ (happened w files (settingsFor w o') options).attempts,
      workerAttempt? w files (settingsFor w o') options = some a
  checkpoint : ∀ a, workerAttempt? w files (settingsFor w o') options = some a →
    (w.environment.set a.command.bindings).bytes? "AENEAS_CHECKPOINT"
      = some path.bytes

/-- Both commands report the same failure, and no worker is started. -/
structure Refuses (f : Failure) : Prop where
  printed : find w files o = fail w files (findings w files o) f.chain
  ended : serve w files o' options
    = some (fail w (prepared w files (settingsFor w o') options)
    (opening w files (settingsFor w o') options) f.chain)
  notStarted : workerAttempt? w files (settingsFor w o') options = none

end

/-- Finding prints the path that the search ends with, or the chain of its
failure. -/
theorem find_eq (w : World) (files : Files) (o : Overrides) :
    find w files o =
      match (findCheckpoint files (settingsFor w o).matcher
        (settingsFor w o).inputDirectory).1 with
      | .ok path => succeed w files (findings w files o) (path.display ++ "\n")
      | .error f => fail w files (findings w files o) f.chain := rfl

variable {w : World} {o o' : Overrides} {options : Options}

/-- Finding agrees with a start whose search found the same path. -/
theorem agrees_of_found {path : Path}
    (hfind : find w files o
      = succeed w files (findings w files o) (path.display ++ "\n"))
    (hsearched : (searched w files (settingsFor w o') options).1 = .ok path) :
    Agrees w files o o' options path where
  printed := hfind
  told := by
    refine (Startup.opening_prefix_happened w files (settingsFor w o')
      options).mem ?_
    unfold opening
    rw [hsearched]
    exact List.mem_append_left _ (List.mem_append_right _ List.mem_cons_self)
  started scripted hput := by
    have hworker :=
      Startup.workerAttempt?_eq_some.mpr ⟨path, scripted, hsearched, hput, rfl⟩
    exact ⟨_, Startup.workerAttempt?_mem _ _ _ _ hworker, hworker⟩
  checkpoint a ha := by
    obtain ⟨found, scripted, hfound, -, rfl⟩ :=
      Startup.workerAttempt?_eq_some.mp ha
    rw [hsearched] at hfound
    cases hfound
    rfl

/-- If the search of the start failed alike, finding fails as the start does. -/
theorem refuses_of_error {f : Failure}
    (hfind : find w files o = fail w files (findings w files o) f.chain)
    (hsearched : (searched w files (settingsFor w o') options).1 = .error f) :
    Refuses w files o o' options f where
  printed := hfind
  ended := by
    unfold serve
    rw [Startup.serve_of_error hsearched]
    rfl
  notStarted := by rw [workerAttempt?, hsearched]

-- =========================================================== preparation

/-- What takes the files to others keeps the candidates below a root, and
distinct names distinct. -/
structure Keeps (files files' : Files) (matcher : Matcher)
    (root : Path) : Prop where
  distinct : files.root.Distinct → files'.root.Distinct
  candidates : SameCandidates files files' matcher root

/-- The programs of a preparation bring no candidates below a root and take
none away. -/
def Quiet (w : World) (p : Preparation.Plan) (matcher : Matcher)
    (root : Path) : Prop :=
  ∀ launch : Launch, launch.command = p.installCommand ∨
    launch.command = p.cloneCommand →
    Keeps launch.files (w.run launch).files matcher root

variable {p : Preparation.Plan}

/-- A change of nothing keeps the candidates. -/
theorem Keeps.refl : Keeps files files matcher root := ⟨id, fun _ => Iff.rfl⟩

/-- Two changes that keep them are one that does. -/
theorem Keeps.trans {files'' : Files} (h : Keeps files files' matcher root)
    (h' : Keeps files' files'' matcher root) :
    Keeps files files'' matcher root :=
  ⟨h'.distinct ∘ h.distinct,
    fun names => (h'.candidates names).trans (h.candidates names)⟩

/-- Clearing a checkout leaves no two equal names where there were none, so it
keeps the candidates if the ones below the root stay the same. -/
theorem keeps_clear {checkout : Path}
    (spared : SameCandidates files (Preparation.clear files checkout).files
      matcher root) :
    Keeps files (Preparation.clear files checkout).files matcher root := by
  refine ⟨fun distinct => ?_, spared⟩
  unfold Preparation.clear
  split
  · exact Files.removeAll_distinct distinct checkout
  · exact distinct

/-- Among quiet programs a step keeps the candidates, whether it comes to run
its command or not. -/
theorem Quiet.runStep (h : Quiet w p matcher root) (step : Preparation.Step)
    {command : Command}
    (hcommand : command = p.installCommand ∨ command = p.cloneCommand) :
    Keeps files (Preparation.runStep w files step command).files
      matcher root := by
  rcases Preparation.runStep_files w files step command with
    hfiles | ⟨image, hfiles⟩ <;>
  rw [hfiles]
  · exact .refl
  · exact h (w.launch (w.attempt files command) image) hcommand

/-- A preparation keeps the candidates if its programs do and the removal of
the old checkout does. -/
theorem Quiet.run (h : Quiet w p matcher root)
    (spared : SameCandidates (Preparation.installed w files p)
      (Preparation.cleared w files p).files
      matcher root) : Keeps files (Preparation.run w files p).files
    matcher root := by
  have hinstalled :
      Keeps files (Preparation.installed w files p) matcher root := by
    unfold Preparation.installed
    split
    · exact .refl
    · exact h.runStep .install (.inl rfl)
  have hcleared := hinstalled.trans (keeps_clear spared)
  rcases Preparation.run_files w files p with
    hfiles | ⟨-, hfiles⟩ <;> rw [hfiles]
  · exact hcleared
  · exact hcleared.trans (h.runStep .clone (.inr rfl))

/-- Where pip and git keep the candidates below the input directory, and the
removal of the old checkout takes none of them away, the path that is
printed is the one that is loaded, and there is none for the one command
exactly if there is none for the other. -/
theorem find_serve (options : Options)
    (hinput : o'.inputDirectory = o.inputDirectory)
    (distinct : files.root.Distinct)
    (quiet : Quiet w (Startup.planOf (settingsFor w o'))
      (settingsFor w o).matcher (settingsFor w o).inputDirectory)
    (spared : options.withoutPreparation = false →
      SameCandidates
        (Preparation.installed w files (Startup.planOf (settingsFor w o')))
        (Preparation.cleared w files (Startup.planOf (settingsFor w o'))).files
        (settingsFor w o).matcher (settingsFor w o).inputDirectory) :
    (∃ path, Agrees w files o o' options path) ∨
      Refuses w files o o' options
        (.checkpointNotFound (settingsFor w o).inputDirectory
        (settingsFor w o).matcher.marker
          (settingsFor w o).matcher.extension) := by
  have hkeeps : Keeps files (prepared w files (settingsFor w o') options)
      (settingsFor w o).matcher (settingsFor w o).inputDirectory := by
    unfold prepared Startup.prepare
    cases hoption : options.withoutPreparation with
    | true => exact .refl
    | false => exact quiet.run (spared hoption)
  obtain ⟨hdirectory, hmatcher⟩ := settingsFor_congr w hinput
  have hsearched : (searched w files (settingsFor w o') options).1 =
      (findCheckpoint files (settingsFor w o).matcher
        (settingsFor w o).inputDirectory).1 := by
    unfold searched
    rw [hdirectory, hmatcher]
    exact findCheckpoint_congr distinct (hkeeps.distinct distinct)
      hkeeps.candidates
  have hfind := find_eq w files o
  rcases found_cases files (settingsFor w o).matcher
      (settingsFor w o).inputDirectory with
    ⟨path, hfound⟩ | hfound
  · rw [hfound] at hfind hsearched
    exact .inl ⟨path, agrees_of_found hfind hsearched⟩
  · rw [hfound] at hfind hsearched
    exact .inr (refuses_of_error hfind hsearched)

/-- A world without programs, in which the checkout has a place of its own. -/
def givenWorld (checkout : String) : World where
  environment := ⟨[("AENEAS_INPUT_DIR", Utf8.encode "in"),
    ("AENEAS_REPO_DIR", Utf8.encode checkout)], none⟩
  run launch := ⟨.code 0, [], launch.files⟩
  converse _ := ⟨⟨[], true⟩, fun _ => ⟨[], true⟩⟩
  tend _ := ⟨fun _ => .exited (.code 0), fun _ => .error .dropped⟩
  agentAddress := "127.0.0.1:4040"
  send _ _ := .error .dropped
  listen host := .ok (host.address, 8000)
  names := ⟨"0", "0", fun _ => "0", fun _ => "0"⟩

/-- The only checkpoint lies in a directory below the input directory; there
is another directory beside that. -/
def givenFiles : Files where
  root := .directory true [
    (Utf8.encode "in", .directory true [
      (Utf8.encode "repo",
        .directory true [(Utf8.encode "aeneas.pkl", .file [] false)])]),
    (Utf8.encode "repo",
      .directory true [(Utf8.encode "setup.py", .file [] false)]),
    (Utf8.encode "tmp", .directory true [])]
  workingDirectory := []

/-- Nothing is given. -/
def noOverrides : Overrides := ⟨none, none, none, none, none, none⟩

/-- Where commands change no file they are quiet. -/
theorem givenWorld_quiet (checkout : String) (p : Preparation.Plan)
    (matcher : Matcher) (root : Path) :
    Quiet (givenWorld checkout) p matcher root := fun _ _ => .refl

/-- The example has no two equal names. -/
theorem givenFiles_distinct : givenFiles.root.Distinct := by
  simp only [givenFiles, Node.distinct_directory, List.forall_mem_cons,
    List.not_mem_nil, Node.distinct_file, false_implies, implies_true, and_true]
  decide +kernel

/-- It has no links. -/
theorem givenFiles_linkFree : givenFiles.root.LinkFree := by
  simp [givenFiles]

/-- Where the checkout lies beside the input directory, the two agree. -/
theorem find_serve_apart :
    ∃ path, Agrees (givenWorld "repo") givenFiles noOverrides noOverrides
      ⟨true, false⟩ path := by
  have hcleared : Preparation.cleared (givenWorld "repo") givenFiles
      (Startup.planOf (settingsFor (givenWorld "repo") noOverrides)) =
      Preparation.clear givenFiles (.ofString "repo") := by
    with_unfolding_all rfl
  have hinstalled : Preparation.installed (givenWorld "repo") givenFiles
      (Startup.planOf (settingsFor (givenWorld "repo") noOverrides))
        = givenFiles := by
    with_unfolding_all rfl
  have hinput : (settingsFor (givenWorld "repo") noOverrides).inputDirectory
      = .ofString "in" := by
    with_unfolding_all rfl
  have apart : givenFiles.Apart (.ofString "repo") (.ofString "in") := by
    constructor <;> decide +kernel
  refine (find_serve ⟨true, false⟩ rfl givenFiles_distinct
    (givenWorld_quiet "repo" _ _ _)
    fun _ => ?_).resolve_right fun hrefuses => ?_
  · rw [hinstalled, hcleared, hinput]
    exact sameCandidates_clear givenFiles_linkFree apart _
  · have hcode : (find (givenWorld "repo") givenFiles noOverrides).code
      = 0 := by decide +kernel
    rw [hrefuses.printed] at hcode
    cases hcode

/-- Where it lies below the input directory, a path is printed that is gone
before it could be loaded. -/
theorem find_serve_overlap :
    Quiet (givenWorld "in/repo")
      (Startup.planOf (settingsFor (givenWorld "in/repo") noOverrides))
      .default (.ofString "in") ∧
    (find (givenWorld "in/repo") givenFiles noOverrides).output
      = "in/repo/aeneas.pkl\n" ∧
    workerAttempt? (givenWorld "in/repo") givenFiles
      (settingsFor (givenWorld "in/repo") noOverrides) ⟨true, false⟩ = none ∧
    (serve (givenWorld "in/repo") givenFiles noOverrides ⟨true, false⟩).map
      (·.code) = some 1 := by
  have hprepared : prepared (givenWorld "in/repo") givenFiles
      (settingsFor (givenWorld "in/repo") noOverrides) ⟨true, false⟩ =
      ⟨.directory true [
        (Utf8.encode "in", .directory true []),
        (Utf8.encode "repo",
          .directory true [(Utf8.encode "setup.py", .file [] false)]),
        (Utf8.encode "tmp", .directory true [])], []⟩ := by
    with_unfolding_all rfl
  have hmatcher : (settingsFor (givenWorld "in/repo") noOverrides).matcher
      = .default := by
    with_unfolding_all rfl
  have hinput :
      (settingsFor (givenWorld "in/repo") noOverrides).inputDirectory =
      .ofString "in" := by
    with_unfolding_all rfl
  have hsearched : (searched (givenWorld "in/repo") givenFiles
      (settingsFor (givenWorld "in/repo") noOverrides) ⟨true, false⟩).1 =
      .error (.checkpointNotFound (.ofString "in") Matcher.default.marker
        Matcher.default.extension) := by
    rw [searched, hprepared, hmatcher, hinput]
    cbv
  refine ⟨givenWorld_quiet "in/repo" _ _ _, by decide +kernel, ?_, ?_⟩
  · rw [workerAttempt?, hsearched]
  · unfold serve
    rw [Startup.serve_of_error hsearched]
    rfl

end CommandLine

end Restoration
