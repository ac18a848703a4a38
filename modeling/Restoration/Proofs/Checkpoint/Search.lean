/-
The search against the order of its walk.

What can be found is said without the search: a candidate (`Candidate`) is
an entry that is reached through directories that open and that counts as a
file with an accepted name, and it is known by the names that lead to it.
Candidates are ordered where they part (`Before`): a file of that directory
comes before everything below its directories, and otherwise the two names
decide by their bytes. The search gives the first candidate in this order,
and nothing only where there is none (`search_finds`).

The order is one of names, so a directory has no two entries of one name,
as in any tree that is one of files. The induction is the one of
`Node.Distinct`: the entry that the sorted files begin with is first among
the files, and the search that is the first to find anything is the one
below the least name that has a candidate.
-/
import Mathlib
import Restoration.Checkpoint.Search
import Restoration.Proofs.Files

namespace Restoration

namespace Search

-- ================================================================ sorting

/-- The order of names is the lexical one of their bytes. -/
theorem bytesLe_iff : ∀ {a b : Bytes}, bytesLe a b = true ↔ a ≤ b
  | [], b => by simp [bytesLe]
  | x :: p, [] => by simp [bytesLe]
  | x :: p, y :: q => by
    rw [bytesLe, List.cons_le_cons_iff, Bool.or_eq_true, Bool.and_eq_true,
      decide_eq_true_iff, beq_iff_eq, bytesLe_iff]

variable {α : Type} {named : List (Bytes × α)}

/-- Sorting the entries of a directory neither adds one nor loses one. -/
theorem mem_sorted {entry : Bytes × α} : entry ∈ sorted named ↔ entry ∈ named :=
  (List.mergeSort_perm named _).mem_iff

theorem sorted_pairwise (named : List (Bytes × α)) :
    (sorted named).Pairwise (·.1 ≤ ·.1) := by
  refine (List.pairwise_mergeSort ?_ ?_ named).imp bytesLe_iff.mp
  · intro a b c hab hbc
    exact bytesLe_iff.mpr
      (List.le_trans (bytesLe_iff.mp hab) (bytesLe_iff.mp hbc))
  · intro a b
    rw [Bool.or_eq_true]
    exact (List.le_total a.1 b.1).imp bytesLe_iff.mpr bytesLe_iff.mpr

/-- An entry that stands behind `before` in the sorted list is no greater
than any entry outside `before`. -/
theorem le_of_sorted_eq {before after : List (Bytes × α)} {entry : Bytes × α}
    (h : sorted named = before ++ entry :: after) :
    entry ∈ named ∧ ∀ other ∈ named, other ∈ before ∨ entry.1 ≤ other.1 := by
  have hpairwise := sorted_pairwise named
  rw [h, List.pairwise_append, List.pairwise_cons] at hpairwise
  have hmem : entry ∈ sorted named :=
    h ▸ List.mem_append_right before List.mem_cons_self
  refine ⟨mem_sorted.mp hmem, fun other hother => ?_⟩
  have hother := mem_sorted.mpr hother
  rw [h, List.mem_append, List.mem_cons] at hother
  rcases hother with hin | rfl | hin
  · exact .inl hin
  · exact .inr (List.le_refl _)
  · exact .inr (hpairwise.2.1.1 other hin)

/-- The first entry of the sorted list is a least one. -/
theorem le_of_head?_sorted {entry : Bytes × α}
    (h : (sorted named).head? = some entry) :
    entry ∈ named ∧ ∀ other ∈ named, entry.1 ≤ other.1 := by
  obtain ⟨after, hsplit⟩ : ∃ after, sorted named = [] ++ entry :: after :=
    List.head?_eq_some_iff.mp h
  obtain ⟨hmem, hleast⟩ := le_of_sorted_eq hsplit
  exact ⟨hmem,
    fun other hother => (hleast other hother).resolve_left List.not_mem_nil⟩

/-- Asked in their order, the first things that give an answer have the
least name of all that give one. -/
theorem le_of_findSome?_sorted {β : Type} {f : α → Option β} {b : β}
    (h : (sorted named).findSome? (fun entry => f entry.2) = some b) :
    ∃ entry ∈ named, f entry.2 = some b ∧
      ∀ other ∈ named, f other.2 ≠ none → entry.1 ≤ other.1 := by
  obtain ⟨before, entry, after, hsplit, hentry, hbefore⟩ :=
    List.findSome?_eq_some_iff.mp h
  obtain ⟨hmem, hleast⟩ := le_of_sorted_eq hsplit
  refine ⟨entry, hmem, hentry, fun other hother hanswer => ?_⟩
  exact (hleast other hother).resolve_left fun hin =>
    hanswer (hbefore other hin)

-- ================================================================== order

/-- The order in which the walk comes upon files, given by the names that
lead to them. -/
inductive Before : List Bytes → List Bytes → Prop
  /-- Two files of the directory where they part. -/
  | files {a b : Bytes} (h : a < b) : Before [a] [b]
  /-- A file of that directory, and one below it. -/
  | file {a b c : Bytes} {rest : List Bytes} : Before [a] (b :: c :: rest)
  /-- Files below two directories of it. -/
  | apart {a b c d : Bytes} {p q : List Bytes} (h : a < b) :
      Before (a :: c :: p) (b :: d :: q)
  /-- Files that part further below. -/
  | deeper {a : Bytes} {p q : List Bytes} (h : Before p q) :
      Before (a :: p) (a :: q)

/-- Of two paths at most one is searched before the other. -/
theorem Before.asymm {p q : List Bytes} (h : Before p q) : ¬ Before q p := by
  induction h with
  | files h =>
    rintro (h' | _ | _ | ⟨⟨⟩⟩)
    exact List.lt_asymm h h'
  | file => rintro (_ | _ | _ | ⟨⟨⟩⟩)
  | apart h =>
    rintro (_ | _ | h' | _)
    · exact List.lt_asymm h h'
    · exact List.lt_irrefl _ h
  | deeper h ih =>
    intro hback
    cases hback with
    | files h' => exact List.lt_irrefl _ h'
    | file => cases h
    | apart h' => exact List.lt_irrefl _ h'
    | deeper h' => exact ih h'

/-- The first of the candidates. -/
structure First (candidate : List Bytes → Prop)
    (names : List Bytes) : Prop where
  holds : candidate names
  before : ∀ other, candidate other → other ≠ names → Before names other

/-- There is at most one first candidate, as any other candidate comes after
it. -/
theorem First.unique {candidate : List Bytes → Prop} {p q : List Bytes}
    (hp : First candidate p) (hq : First candidate q) : p = q := by
  by_contra hne
  exact (hp.before q hq.holds (Ne.symm hne)).asymm (hq.before p hp.holds hne)

-- ============================================================= candidates

variable {files : Files} {matcher : Matcher} {directory : Path}
  {entries : Entries}

/-- What can be found under a path at a node, by the names that lead there
from the node. A directory is entered if it may be read and is not too deep
to be opened under its path; no link is entered, since none is a directory
of the tree. -/
inductive Candidate (files : Files) (matcher : Matcher) :
    Path → Node → List Bytes → Prop
  /-- An entry that is no directory, and no link that leads to one, with a
  name that is accepted. -/
  | here {directory : Path} {entries : Entries} {name : Bytes} {n : Node}
      (opens : directory.bytes.length ≤ Files.longestPath)
      (mem : (name, n) ∈ entries) (noDirectory : n.isDirectory = false)
      (noLinked : n.isLink = true →
        files.isDirectory (directory.join ⟨name⟩) = false)
      (accepted : matcher.accepts (Utf8.lossy name) = true) :
      Candidate files matcher directory (.directory true entries) [name]
  /-- What can be found below an entry. -/
  | deeper {directory : Path} {entries : Entries} {name : Bytes} {n : Node}
      {names : List Bytes}
      (opens : directory.bytes.length ≤ Files.longestPath)
      (mem : (name, n) ∈ entries)
      (h : Candidate files matcher (directory.join ⟨name⟩) n names) :
      Candidate files matcher directory (.directory true entries)
        (name :: names)

/-- Only a directory holds candidates. -/
theorem Candidate.isDirectory {n : Node} {names : List Bytes}
    (h : Candidate files matcher directory n names) : n.isDirectory = true := by
  cases h <;> rfl

/-- A candidate is below the directory and not the directory itself. -/
theorem Candidate.exists_cons {n : Node} {names : List Bytes}
    (h : Candidate files matcher directory n names) :
    ∃ name rest, names = name :: rest := by
  cases h with
  | here => exact ⟨_, _, rfl⟩
  | deeper => exact ⟨_, _, rfl⟩

/-- A directory that holds a candidate can be opened. -/
theorem Candidate.opens {readable : Bool} {names : List Bytes}
    (h : Candidate files matcher directory
      (.directory readable entries) names) :
    openError? directory readable = none := by
  cases h with
  | here opens => rw [openError?, if_neg (Nat.not_lt.mpr opens), if_pos rfl]
  | deeper opens => rw [openError?, if_neg (Nat.not_lt.mpr opens), if_pos rfl]

theorem of_openError? {readable : Bool}
    (h : openError? directory readable = none) :
    directory.bytes.length ≤ Files.longestPath ∧ readable = true := by
  rw [openError?] at h
  split at h
  · cases h
  · rename_i hlength
    cases readable
    · cases h
    · exact ⟨Nat.not_lt.mp hlength, rfl⟩

/-- What the search takes for a checkpoint: an entry that is no directory,
nor a link to one, under a name that is accepted. -/
theorem isCheckpoint_iff {name : Bytes} {n : Node} :
    isCheckpoint files matcher directory (name, n) = true ↔
      n.isDirectory = false ∧
      (n.isLink = true → files.isDirectory (directory.join ⟨name⟩) = false) ∧
      matcher.accepts (Utf8.lossy name) = true := by
  cases n <;> simp [isCheckpoint, countsAsFile, Node.isDirectory, Node.isLink]

/-- The candidates right in a directory are the entries that the search
takes for a checkpoint. -/
theorem candidate_singleton {name : Bytes}
    (opens : directory.bytes.length ≤ Files.longestPath) :
    Candidate files matcher directory (.directory true entries) [name] ↔
      ∃ n, (name, n) ∈ entries ∧
        isCheckpoint files matcher directory (name, n) = true := by
  constructor
  · rintro (⟨_, mem, h⟩ | ⟨_, _, h⟩)
    · exact ⟨_, mem, isCheckpoint_iff.mpr ⟨h, ‹_›, ‹_›⟩⟩
    · obtain ⟨_, _, h'⟩ := h.exists_cons
      cases h'
  · rintro ⟨n, mem, h⟩
    obtain ⟨hnode, hlink, hname⟩ := isCheckpoint_iff.mp h
    exact .here opens mem hnode hlink hname

-- ================================================================= search

/-- What a search has found: the first candidate, or nothing where there is
none. -/
inductive Finds (directory : Path)
    (candidate : List Bytes → Prop) : Option Path → Prop
  | first {names : List Bytes} (h : First candidate names) :
      Finds directory candidate (some (directory.joinNames names))
  | nothing (h : ∀ names, ¬ candidate names) : Finds directory candidate none

/-- The search finds the least of the checkpoints right in a directory, or
nothing where there is none. -/
theorem firstHere?_cases (files : Files) (matcher : Matcher) (directory : Path)
    (entries : Entries) :
    (firstHere? files matcher directory entries = none ∧
      ∀ entry ∈ entries, isCheckpoint files matcher directory entry = false) ∨
    ∃ entry ∈ entries,
      firstHere? files matcher directory entries
        = some (directory.join ⟨entry.1⟩) ∧
      isCheckpoint files matcher directory entry = true ∧
      ∀ other ∈ entries, isCheckpoint files matcher directory other = true →
        entry.1 ≤ other.1 := by
  rw [firstHere?]
  cases hhead :
    (sorted (entries.filter (isCheckpoint files matcher directory))).head? with
  | none =>
    refine .inl ⟨rfl, fun entry hmem => ?_⟩
    by_contra hentry
    have hsorted :=
      mem_sorted.mpr (List.mem_filter.mpr ⟨hmem, Bool.not_eq_false _ ▸ hentry⟩)
    rw [List.head?_eq_none_iff.mp hhead] at hsorted
    cases hsorted
  | some entry =>
    obtain ⟨hmem, hleast⟩ := le_of_head?_sorted hhead
    obtain ⟨hentry, hcheckpoint⟩ := List.mem_filter.mp hmem
    refine .inr ⟨entry, hentry, rfl, hcheckpoint, fun other hother h => ?_⟩
    exact hleast other (List.mem_filter.mpr ⟨hother, h⟩)

/-- What several searches find is what the first successful one finds. -/
theorem first_path : ∀ searches : List (Bytes × Found),
    (Found.first (searches.map Prod.snd)).path = searches.findSome? (·.2.path)
  | [] => rfl
  | (name, found) :: rest => by
    rw [List.map_cons, Found.first, List.findSome?_cons]
    cases hpath : found.path with
    | none => exact first_path rest
    | some path => exact hpath

/-- A directory that opens is searched for files, and then below. -/
theorem search_path {readable : Bool}
    (h : openError? directory readable = none) :
    (search files matcher directory (.directory readable entries)).path =
      (firstHere? files matcher directory entries).or
        ((sorted (searchBelow files matcher directory entries)).findSome?
          (·.2.path)) := by
  rw [search, h, ← first_path]
  cases firstHere? files matcher directory entries with
  | none => rfl
  | some path => rfl

/-- The sub-directories are searched one by one, each under its own path;
the entries that are no directories are left out. -/
theorem searchBelow_eq (files : Files) (matcher : Matcher) (directory : Path) :
    ∀ entries : Entries, searchBelow files matcher directory entries =
      (entries.filter (·.2.isDirectory)).map fun entry =>
        (entry.1, search files matcher (directory.join ⟨entry.1⟩) entry.2)
  | [] => rfl
  | (name, n) :: rest => by
    rw [searchBelow, searchBelow_eq files matcher directory rest]
    cases hn : n.isDirectory <;> simp [hn]

/-- A search below a directory is that of one of its sub-directories. -/
theorem mem_searchBelow {name : Bytes} {found : Found} :
    (name, found) ∈ searchBelow files matcher directory entries ↔
      ∃ n, (name, n) ∈ entries ∧ n.isDirectory = true ∧
        search files matcher (directory.join ⟨name⟩) n = found := by
  rw [searchBelow_eq]
  simp [and_assoc]

/-- A least checkpoint right in a directory is the first candidate of all,
since whatever lies deeper comes later. -/
theorem first_here {entry : Bytes × Node}
    (opens : directory.bytes.length ≤ Files.longestPath)
    (hmem : entry ∈ entries)
    (hentry : isCheckpoint files matcher directory entry = true)
    (hleast : ∀ other ∈ entries,
      isCheckpoint files matcher directory other = true → entry.1 ≤ other.1) :
    First (Candidate files matcher directory (.directory true entries))
      [entry.1] where
  holds := (candidate_singleton opens).mpr ⟨entry.2, hmem, hentry⟩
  before other hother hne := by
    -- another candidate is a file with a greater name, or lies below
    obtain ⟨name, rest, rfl⟩ := hother.exists_cons
    cases rest with
    | nil =>
      obtain ⟨n, hn, hcheckpoint⟩ := (candidate_singleton opens).mp hother
      refine .files
        ((List.le_iff_lt_or_eq.mp (hleast _ hn hcheckpoint)).resolve_right ?_)
      exact fun heq => hne (by rw [heq])
    | cons => exact .file

/-- Where no entry is a checkpoint, a candidate lies below an entry. -/
theorem Candidate.exists_below {readable : Bool} {names : List Bytes}
    (h : Candidate files matcher directory (.directory readable entries) names)
    (hnone : ∀ entry ∈ entries,
      isCheckpoint files matcher directory entry = false) :
    ∃ name n rest, names = name :: rest ∧ (name, n) ∈ entries ∧
      Candidate files matcher (directory.join ⟨name⟩) n rest := by
  cases h with
  | here _ hmem hnode hlink hname =>
    have hcheckpoint := isCheckpoint_iff.mpr ⟨hnode, hlink, hname⟩
    rw [hnone _ hmem] at hcheckpoint
    cases hcheckpoint
  | deeper _ hmem h => exact ⟨_, _, _, rfl, hmem, h⟩

/-- There the first candidate is the one below the least name that has any. -/
theorem first_deeper {name : Bytes} {n : Node} {names : List Bytes}
    (opens : directory.bytes.length ≤ Files.longestPath)
    (hnodup : (entries.map Prod.fst).Nodup)
    (hnone : ∀ entry ∈ entries,
      isCheckpoint files matcher directory entry = false)
    (hmem : (name, n) ∈ entries)
    (hfirst : First (Candidate files matcher (directory.join ⟨name⟩) n) names)
    (hleast : ∀ other ∈ entries,
      (∃ rest, Candidate files matcher (directory.join ⟨other.1⟩) other.2
        rest) → name ≤ other.1) :
    First (Candidate files matcher directory (.directory true entries))
      (name :: names) where
  holds := .deeper opens hmem hfirst.holds
  before other hother hne := by
    obtain ⟨other, m, rest, rfl, hm, h⟩ := hother.exists_below hnone
    rcases List.le_iff_lt_or_eq.mp (hleast _ hm ⟨rest, h⟩) with hlt | heq
    · obtain ⟨_, _, rfl⟩ := hfirst.holds.exists_cons
      obtain ⟨_, _, rfl⟩ := h.exists_cons
      exact .apart hlt
    · -- one name is one entry, so both lie below the same node
      obtain ⟨rfl, rfl⟩ : name = other ∧ n = m :=
        Prod.mk.inj (List.inj_on_of_nodup_map hnodup hmem hm heq)
      exact .deeper (hfirst.before rest h fun hrest => hne (by rw [hrest]))

/-- The searches of the directories among the entries, of which each finds
what is first below its own: the first of them that finds anything is the
one below the least name that has a candidate. -/
theorem findSome?_searchBelow_cases
    (hfinds : ∀ entry ∈ entries, Finds (directory.join ⟨entry.1⟩)
      (Candidate files matcher (directory.join ⟨entry.1⟩) entry.2)
      (search files matcher (directory.join ⟨entry.1⟩) entry.2).path) :
    ((sorted (searchBelow files matcher directory entries)).findSome?
      (·.2.path) = none ∧ ∀ entry ∈ entries, ∀ names,
        ¬ Candidate files matcher (directory.join ⟨entry.1⟩) entry.2 names) ∨
    ∃ name n names, (name, n) ∈ entries ∧
      (sorted (searchBelow files matcher directory entries)).findSome?
        (·.2.path) = some (directory.joinNames (name :: names)) ∧
      First (Candidate files matcher (directory.join ⟨name⟩) n) names ∧
      ∀ other ∈ entries,
        (∃ rest,
          Candidate files matcher (directory.join ⟨other.1⟩) other.2 rest) →
        name ≤ other.1 := by
  -- an entry with a candidate has been searched, and its search found it
  have searched : ∀ entry ∈ entries, ∀ {names : List Bytes},
      Candidate files matcher (directory.join ⟨entry.1⟩) entry.2 names →
      ∃ found, (entry.1, found) ∈ searchBelow files matcher directory entries ∧
        found.path ≠ none := by
    intro entry hmem names h
    refine ⟨_, mem_searchBelow.mpr ⟨_, hmem, h.isDirectory, rfl⟩,
      fun hnone => ?_⟩
    have hentry := hfinds entry hmem
    rw [hnone] at hentry
    cases hentry with
    | nothing hnothing => exact hnothing names h
  cases hfound : (sorted (searchBelow files matcher directory
      entries)).findSome? (·.2.path) with
  | none =>
    refine .inl ⟨rfl, fun entry hmem names h => ?_⟩
    obtain ⟨found, hin, hpath⟩ := searched entry hmem h
    exact hpath (List.findSome?_eq_none_iff.mp hfound _ (mem_sorted.mpr hin))
  | some path =>
    obtain ⟨⟨name, found⟩, hin, hpath, hleast⟩ := le_of_findSome?_sorted hfound
    obtain ⟨n, hmem, _, rfl⟩ := mem_searchBelow.mp hin
    have hn := hfinds (name, n) hmem
    rw [hpath] at hn
    cases hn with
    | first hfirst =>
      refine .inr
        ⟨name, n, _, hmem, rfl, hfirst, fun other hother ⟨rest, h⟩ => ?_⟩
      obtain ⟨found, hin, hpath⟩ := searched other hother h
      exact hleast _ hin hpath

/-- A search finds the first candidate, and nothing only where there is
none. -/
theorem search_finds (files : Files) (matcher : Matcher) {n : Node}
    (hn : n.Distinct) :
    ∀ directory : Path, Finds directory (Candidate files matcher directory n)
      (search files matcher directory n).path := by
  -- along the tree: what is searched below an entry is the entry's own tree
  induction hn with
  | file => exact fun _ => .nothing fun _ h => nomatch h.isDirectory
  | link => exact fun _ => .nothing fun _ h => nomatch h.isDirectory
  | @directory readable entries hnodup _ ih =>
    intro directory
    cases hopens : openError? directory readable with
    | some reason =>
      rw [search, hopens]
      refine .nothing fun names h => ?_
      rw [h.opens] at hopens
      cases hopens
    | none =>
      obtain ⟨opens, rfl⟩ := of_openError? hopens
      rw [search_path hopens]
      rcases firstHere?_cases files matcher directory entries with
        ⟨hhere, hnone⟩ | ⟨entry, hmem, hhere, hentry, hleast⟩
      · rw [hhere, Option.none_or]
        have hfinds :=
          fun entry hentry => ih entry hentry (directory.join ⟨entry.1⟩)
        rcases findSome?_searchBelow_cases hfinds with
          ⟨hbelow, hnothing⟩ | ⟨name, n, names, hmem, hbelow, hfirst, hleast⟩
        · rw [hbelow]
          refine .nothing fun names h => ?_
          obtain ⟨name, n, rest, _, hmem, h⟩ := h.exists_below hnone
          exact hnothing (name, n) hmem rest h
        · rw [hbelow]
          exact .first (first_deeper opens hnodup hnone hmem hfirst hleast)
      · rw [hhere]
        exact .first (first_here opens hmem hentry hleast)

end Search

-- ============================================================= checkpoint

open Search

variable {files : Files} {matcher : Matcher}

/-- A candidate below a root, by the names that lead to it from what the
root leads to. -/
def IsCandidate (files : Files) (matcher : Matcher) (root : Path)
    (names : List Bytes) : Prop :=
  ∃ n, files.look root = .ok n ∧ Candidate files matcher root n names

/-- There are candidates only if the root is a directory. -/
theorem IsCandidate.isDirectory {root : Path} {names : List Bytes}
    (h : IsCandidate files matcher root names) :
    files.isDirectory root = true := by
  obtain ⟨n, hlook, h⟩ := h
  rw [Files.isDirectory, hlook]
  exact h.isDirectory

/-- The search of a tree without two equal names ends with the first
candidate, or finds that there is none. -/
theorem findCheckpoint_cases (distinct : files.root.Distinct)
    (matcher : Matcher) (root : Path) :
    (∃ names, First (IsCandidate files matcher root) names ∧
      (findCheckpoint files matcher root).1 = .ok (root.joinNames names)) ∨
    (∀ names, ¬ IsCandidate files matcher root names) ∧
      (findCheckpoint files matcher root).1 =
        .error (.checkpointNotFound root matcher.marker matcher.extension) := by
  rw [findCheckpoint]
  split
  case h_1 readable entries hlook =>
    have hcandidate : IsCandidate files matcher root =
        Candidate files matcher root (.directory readable entries) := by
      funext names
      simp [IsCandidate, hlook]
    have hfinds :=
      search_finds files matcher (Files.look_distinct distinct hlook) root
    rw [hcandidate]
    cases hpath : (search files matcher root
        (.directory readable entries)).path with
    | none =>
      simp only [hpath]
      rw [hpath] at hfinds
      cases hfinds with
      | nothing hnothing => exact .inr ⟨hnothing, trivial⟩
    | some path =>
      simp only [hpath]
      rw [hpath] at hfinds
      cases hfinds with
      | first hfirst => exact .inl ⟨_, hfirst, rfl⟩
  case h_2 hother =>
    refine .inr ⟨fun names ⟨n, hlook, h⟩ => ?_, rfl⟩
    cases n with
    | directory readable entries => exact hother readable entries hlook
    | file => cases h
    | link => cases h

/-- Below a root that leads to a directory, the checkpoint is the first
candidate, and there is none only where there is no candidate; below any
other root there is none. -/
theorem findCheckpoint_first (distinct : files.root.Distinct)
    (matcher : Matcher) (root : Path) :
    (files.isDirectory root = true →
      (∀ path, (findCheckpoint files matcher root).1 = .ok path ↔
        ∃ names, First (IsCandidate files matcher root) names ∧
          path = root.joinNames names) ∧
      ((findCheckpoint files matcher root).1 =
          .error (.checkpointNotFound root matcher.marker matcher.extension) ↔
        ∀ names, ¬ IsCandidate files matcher root names)) ∧
    (files.isDirectory root = false →
      (findCheckpoint files matcher root).1 =
        .error (.checkpointNotFound root matcher.marker
          matcher.extension)) := by
  rcases findCheckpoint_cases distinct matcher root with
    ⟨names, hfirst, hfound⟩ | ⟨hnone, hfound⟩
  · rw [hfound]
    refine ⟨fun _ => ⟨fun path => ⟨?_, ?_⟩, ?_, ?_⟩, fun hroot => ?_⟩
    · rintro ⟨⟩
      exact ⟨names, hfirst, rfl⟩
    · rintro ⟨others, hothers, rfl⟩
      rw [hfirst.unique hothers]
    · rintro ⟨⟩
    · exact fun hnone => absurd hfirst.holds (hnone names)
    · rw [hfirst.holds.isDirectory] at hroot
      cases hroot
  · rw [hfound]
    refine ⟨fun _ => ⟨fun path => ⟨?_, ?_⟩, fun _ => hnone, fun _ => rfl⟩,
      fun _ => rfl⟩
    · rintro ⟨⟩
    · rintro ⟨names, hfirst, _⟩
      exact absurd hfirst.holds (hnone names)

section

variable {files' : Files} {root : Path}

/-- Two trees have the same candidates below a root. -/
def SameCandidates (files files' : Files) (matcher : Matcher)
    (root : Path) : Prop :=
  ∀ names, IsCandidate files' matcher root names ↔
    IsCandidate files matcher root names

/-- The same candidates give the same checkpoint. -/
theorem findCheckpoint_congr (distinct : files.root.Distinct)
    (distinct' : files'.root.Distinct)
    (same : SameCandidates files files' matcher root) :
    (findCheckpoint files' matcher root).1
      = (findCheckpoint files matcher root).1 := by
  have heq : IsCandidate files' matcher root = IsCandidate files matcher root :=
    funext fun names => propext (same names)
  have hcases := findCheckpoint_cases distinct' matcher root
  rw [heq] at hcases
  rcases findCheckpoint_cases distinct matcher root with
    ⟨names, hfirst, hfound⟩ | ⟨hnone, hfound⟩ <;>
  rcases hcases with ⟨names', hfirst', hfound'⟩ | ⟨hnone', hfound'⟩
  · rw [hfound, hfound', hfirst.unique hfirst']
  · exact absurd hfirst.holds (hnone' names)
  · exact absurd hfirst'.holds (hnone names')
  · rw [hfound, hfound']

/-- The one failure of the search is to find nothing. -/
theorem found_cases (files : Files) (matcher : Matcher) (root : Path) :
    (∃ path, (findCheckpoint files matcher root).1 = .ok path) ∨
      (findCheckpoint files matcher root).1 =
        .error (.checkpointNotFound root matcher.marker matcher.extension) := by
  unfold findCheckpoint
  split
  · dsimp only
    split
    · exact .inl ⟨_, rfl⟩
    · exact .inr rfl
  · exact .inr rfl

end

/-- A directory `in` with a link to itself, named like a checkpoint, and two
directories that hold a checkpoint each; below the first of them is one more. -/
def nested : Files where
  root := .directory true [(name "in", .directory true [
    (name "aeneas.pkl", .link ⟨Path.dot⟩),
    (name "b", .directory true [(name "aeneas_a.pkl", .file [] false)]),
    (name "a", .directory true [
      (name "sub", .directory true [(name "aeneas_0.pkl", .file [] false)]),
      (name "aeneas_z.pkl", .file [] false)])])]
  workingDirectory := []
where name (text : String) : Bytes := Utf8.encode text

theorem findCheckpoint_first_nested :
    nested.root.Distinct ∧ nested.isDirectory (.ofString "/in") = true ∧
    ∃ names, First (IsCandidate nested .default (.ofString "/in")) names ∧
      Path.ofString "/in/a/aeneas_z.pkl"
        = (Path.ofString "/in").joinNames names := by
  have distinct : nested.root.Distinct := by
    suffices [nested.name "aeneas.pkl", nested.name "b",
        nested.name "a"].Nodup ∧
      [nested.name "sub", nested.name "aeneas_z.pkl"].Nodup by
      simpa [nested, and_assoc] using this
    decide +kernel
  have root : nested.isDirectory (.ofString "/in") = true := by decide +kernel
  have found : (findCheckpoint nested .default (.ofString "/in")).1 =
      .ok (.ofString "/in/a/aeneas_z.pkl") := by cbv
  exact ⟨distinct, root,
    (((findCheckpoint_first distinct _ _).1 root).1 _).mp found⟩

end Restoration
