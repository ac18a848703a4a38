/-
Whether a checkpoint that is found can be opened.

The search takes an entry for a file if it is no directory and no link that
leads to one. A link that leads nowhere is taken for a file as well, so it
can be found, and then there is nothing to open (`Dangling`). All other
entries are reached under the path that the search gives
(`Candidate.entry`, `resolve_joinNames`), as long as that path is not too
long to be walked.
-/
import Restoration.Proofs.Checkpoint.Search
import Restoration.Proofs.Files.Descent
import Restoration.Proofs.Files.Presence

namespace Restoration

namespace Search

variable {files : Files} {matcher : Matcher} {directory : Path}

/-- What is found is an entry of the tree that is no directory, and no link
to one. -/
theorem Candidate.entry {n : Node} {names : List Bytes} (hdistinct : n.Distinct)
    (hnamed : n.WellNamed) (h : Candidate files matcher directory n names) :
    names ≠ [] ∧ (∀ name ∈ names, Files.IsName name) ∧
    ∃ m, Node.at? names n = some m
      ∧ m.isDirectory = false
      ∧ (m.isLink = true →
        files.isDirectory (directory.joinNames names) = false) := by
  induction h with
  | here _ mem noDirectory noLinked _ =>
    obtain ⟨hnodup, -⟩ := Node.distinct_directory.mp hdistinct
    refine ⟨List.cons_ne_nil _ _, ?_, _, ?_, noDirectory, noLinked⟩
    · intro name hname
      rw [List.mem_singleton] at hname
      exact hname ▸ (hnamed.of_mem mem).1
    · simp [Node.at?, Node.entries, Entries.find?_of_mem hnodup mem]
  | deeper _ mem _ ih =>
    obtain ⟨hnodup, -⟩ := Node.distinct_directory.mp hdistinct
    obtain ⟨hname, hbelow⟩ := hnamed.of_mem mem
    obtain ⟨-, hnames, m, hat, hm, hlinked⟩ := ih (hdistinct.of_mem mem) hbelow
    refine ⟨List.cons_ne_nil _ _, List.forall_mem_cons.mpr ⟨hname, hnames⟩, m,
      ?_, hm, hlinked⟩
    simp [Node.at?, Node.entries, Entries.find?_of_mem hnodup mem, hat]

end Search

open Search Files

variable {files : Files} {matcher : Matcher} {root path : Path}

/-- A checkpoint opens as a file, unless it is a link that leads nowhere or
its path is too long. -/
theorem findCheckpoint_opens (distinct : files.root.Distinct)
    (named : files.root.WellNamed)
    (h : (findCheckpoint files matcher root).1 = .ok path) :
    (∃ n, files.look path = .ok n ∧ n.isDirectory = false) ↔
      path.bytes.length ≤ longestPath ∧ ¬ files.Dangling path := by
  constructor
  · rintro ⟨n, hlook, -⟩
    obtain ⟨t, hresolve, -⟩ := look_eq_ok hlook
    refine ⟨(resolve_eq_ok.mp hresolve).2.2.1, ?_⟩
    rintro ⟨target, reason, -, herror⟩
    rw [hlook] at herror
    cases herror
  rintro ⟨hlength, hdangling⟩
  rcases findCheckpoint_cases distinct matcher root with
    ⟨names, hfirst, hfound⟩ | ⟨-, hfound⟩
  case inr => rw [hfound] at h; cases h
  rw [hfound] at h
  cases h
  obtain ⟨n, hlook, hcandidate⟩ := hfirst.holds
  obtain ⟨hne, hnames, m, hat, hm, hlinked⟩ :=
    hcandidate.entry (look_distinct distinct hlook) (look_wellNamed named hlook)
  obtain ⟨t, hresolve, rfl⟩ := look_eq_ok hlook
  cases m with
  | directory => cases hm
  | file contents executable =>
    obtain ⟨r, hr, hnode⟩ : ∃ r,
        files.resolve true (root.joinNames names) = .ok r
        ∧ r.node files.root = .file contents executable :=
      resolve_joinNames hne hnames hresolve hat hlength (.inl rfl)
    refine ⟨.file contents executable, ?_, rfl⟩
    rw [look, hr, ← hnode]
    rfl
  | link target =>
    obtain ⟨r, hr, hnode⟩ : ∃ r,
        files.resolve false (root.joinNames names) = .ok r
        ∧ r.node files.root = .link target :=
      resolve_joinNames hne hnames hresolve hat hlength (.inr rfl)
    have hlookAt : files.lookAt (root.joinNames names)
        = .ok (.link target) := by
      rw [lookAt, hr, ← hnode]
      rfl
    cases hlink : files.look (root.joinNames names) with
    | error reason => exact absurd ⟨target, reason, hlookAt, hlink⟩ hdangling
    | ok n =>
      have hnot := hlinked rfl
      rw [isDirectory, hlink] at hnot
      exact ⟨n, rfl, hnot⟩

/-- A directory `in` with a link, named like a checkpoint, to a file in a
directory beside it. -/
def linked : Files where
  root := .directory true [(name "in", .directory true [
    (name "aeneas.pkl", .link ⟨name "store/blob"⟩),
    (name "store", .directory true [(name "blob", .file [] false)])])]
  workingDirectory := []
where name (text : String) : Bytes := Utf8.encode text

theorem findCheckpoint_opens_linked :
    linked.root.Distinct ∧ linked.root.WellNamed ∧
    (findCheckpoint linked .default (.ofString "/in")).1
      = .ok (.ofString "/in/aeneas.pkl") ∧
    ∃ n, linked.look (.ofString "/in/aeneas.pkl") = .ok n ∧
      n.isDirectory = false := by
  have distinct : linked.root.Distinct := by
    suffices [linked.name "aeneas.pkl", linked.name "store"].Nodup by
      simpa [linked] using this
    decide +kernel
  have named : linked.root.WellNamed := by
    suffices IsName (linked.name "in") ∧ (IsName (linked.name "aeneas.pkl") ∧
        IsName (linked.name "store")) ∧
      IsName (linked.name "blob") by simpa [linked] using this
    simp only [isName_iff]
    decide +kernel
  have found : (findCheckpoint linked .default (.ofString "/in")).1 =
      .ok (.ofString "/in/aeneas.pkl") := by cbv
  have look : linked.look (.ofString "/in/aeneas.pkl")
    = .ok (.file [] false) := by cbv
  refine ⟨distinct, named, found,
    (findCheckpoint_opens distinct named found).mpr ⟨?_, ?_⟩⟩
  · decide +kernel
  · rintro ⟨target, reason, -, herror⟩
    rw [look] at herror
    cases herror

/-- A directory `in` with a link, named like a checkpoint, to nothing, and a
file that is one. -/
def loose : Files where
  root := .directory true [(name "in", .directory true [
    (name "aeneas.pkl", .link ⟨name "gone"⟩),
    (name "aeneas_2.pkl", .file [] false)])]
  workingDirectory := []
where name (text : String) : Bytes := Utf8.encode text

/-- A link that leads nowhere can be found before a file. -/
theorem findCheckpoint_dangling :
    (findCheckpoint loose .default (.ofString "/in")).1
      = .ok (.ofString "/in/aeneas.pkl") ∧
    loose.look (.ofString "/in/aeneas.pkl") = .error .noEntry ∧
    IsCandidate loose .default (.ofString "/in") [loose.name "aeneas_2.pkl"] ∧
    loose.look (.ofString "/in/aeneas_2.pkl") = .ok (.file [] false) := by
  refine ⟨by cbv, by cbv,
    ⟨.directory true [(loose.name "aeneas.pkl", .link ⟨loose.name "gone"⟩),
    (loose.name "aeneas_2.pkl", .file [] false)], by with_unfolding_all rfl,
  ?_⟩, by cbv⟩
  exact .here (by decide +kernel)
    (List.mem_cons_of_mem _ List.mem_cons_self) rfl
    (fun h => absurd h Bool.false_ne_true) (by decide +kernel)

end Restoration
