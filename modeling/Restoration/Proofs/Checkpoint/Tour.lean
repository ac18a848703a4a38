/-
The directories that a search could come to.

Without files a search would go through all directories below its root that
can be reached through directories that open (`tour`). Which these are is
told place by place (`mem_tour`), and so is what a search could find
(`candidate_iff`): what is accepted at a place that is reached.

The names that lead to the directories of a tour increase (`tour_pairwise`):
a directory comes before what lies below it, and otherwise the order is that
of the names where two of them part. So no directory comes twice, and all of
them together are no more than the tree has (`tour_length`).

At the places that are left in a tree that is thinned out, the same opens and
the same is accepted as before (`opens_thinned`, `accepts_thinned`).
-/
import Restoration.Proofs.Checkpoint.Search
import Restoration.Proofs.Files.Thinning
import Restoration.Proofs.Path

namespace Restoration

mutual

/-- The number of directories at a node and below it. -/
def Node.directories : Node → Nat
  | .directory _ entries => Node.directoriesBelow entries + 1
  | .file .. => 0
  | .link _ => 0

/-- The number of directories among entries and below them. -/
def Node.directoriesBelow : List (Bytes × Node) → Nat
  | [] => 0
  | (_, n) :: rest => n.directories + Node.directoriesBelow rest

end

namespace Search

variable {files : Files} {matcher : Matcher} {directory root : Path}
  {n m : Node} {names above : List Bytes} {entries : Entries}

-- ================================================================== tour

mutual

/-- The directories below a path that are reached through directories that
open, with the names that lead to them. -/
def tour (directory : Path) : Node → List (List Bytes × Node)
  | .directory readable entries =>
    ([], .directory readable entries) ::
      match openError? directory readable with
      | some _ => []
      | none => (sorted (toursBelow directory entries)).flatMap fun below =>
          below.2.map fun visit => (below.1 :: visit.1, visit.2)
  | .file .. => []
  | .link _ => []

/-- The tours of the directories among entries, with their names. -/
def toursBelow (directory : Path) :
    List (Bytes × Node) → List (Bytes × List (List Bytes × Node))
  | [] => []
  | (name, n) :: rest =>
    if n.isDirectory then
      (name, tour (directory.join ⟨name⟩) n) :: toursBelow directory rest
    else toursBelow directory rest

end

/-- The tours below a directory are those of its entries that are
directories, in the order of the list. -/
theorem toursBelow_eq (directory : Path) : ∀ entries : Entries,
    toursBelow directory entries = (entries.filter (·.2.isDirectory)).map
      fun entry => (entry.1, tour (directory.join ⟨entry.1⟩) entry.2)
  | [] => by rw [toursBelow]; rfl
  | (name, n) :: rest => by
    rw [toursBelow, toursBelow_eq directory rest]
    cases hn : n.isDirectory <;> simp [hn]

/-- What goes with the names does not change their order. -/
theorem sorted_map {α β : Type} (f : Bytes × α → β) (named : List (Bytes × α)) :
    sorted (named.map fun entry => (entry.1, f entry)) =
      (sorted named).map fun entry => (entry.1, f entry) := by
  unfold sorted
  rw [List.map_mergeSort]
  exact fun _ _ _ _ => rfl

/-- The directories among entries, in the order in which they are searched. -/
def below (entries : Entries) : Entries :=
  sorted (entries.filter (·.2.isDirectory))

/-- The entries below are the directories among the entries. -/
theorem mem_below {entry : Bytes × Node} :
    entry ∈ below entries ↔ entry ∈ entries ∧ entry.2.isDirectory = true := by
  rw [below, mem_sorted, List.mem_filter]

/-- A tour of a directory goes on with the tours below it, if it opens. -/
theorem tour_directory (directory : Path) (readable : Bool)
    (entries : Entries) :
    tour directory (.directory readable entries)
      = ([], .directory readable entries) ::
      match openError? directory readable with
      | some _ => []
      | none => (below entries).flatMap fun entry =>
        (tour (directory.join ⟨entry.1⟩) entry.2).map
          fun visit => (entry.1 :: visit.1, visit.2) := by
  rw [tour, toursBelow_eq, sorted_map, List.flatMap_map]
  rfl

/-- A bound on each directory is a bound on all of them together, which is
what makes the measure of a tour go down. -/
theorem sum_below_le {f : Bytes × Node → Nat} : ∀ {entries : Entries},
    (∀ entry ∈ entries, f entry ≤ entry.2.directories) →
      ((entries.filter (·.2.isDirectory)).map f).sum
        ≤ Node.directoriesBelow entries
  | [], _ => by rw [Node.directoriesBelow]; exact Nat.le_refl 0
  | entry :: rest, h => by
    obtain ⟨hentry, hrest⟩ := List.forall_mem_cons.mp h
    have ih := sum_below_le hrest
    rw [List.filter_cons, Node.directoriesBelow]
    split
    · rw [List.map_cons, List.sum_cons]
      exact Nat.add_le_add hentry ih
    · exact ih.trans (Nat.le_add_left _ _)

/-- A tour is no longer than there are directories. -/
theorem tour_length (n : Node) : ∀ directory : Path,
    (tour directory n).length ≤ n.directories := by
  induction n using Node.induction with
  | file => exact fun _ => by rw [tour]; exact Nat.zero_le _
  | link => exact fun _ => by rw [tour]; exact Nat.zero_le _
  | directory readable entries ih =>
    intro directory
    rw [tour_directory, List.length_cons, Node.directories]
    refine Nat.succ_le_succ ?_
    cases openError? directory readable with
    | some reason => exact Nat.zero_le _
    | none =>
      dsimp only
      rw [List.length_flatMap, below, sorted,
        ((List.mergeSort_perm _ _).map _).sum_eq]
      refine sum_below_le fun entry hentry => ?_
      rw [List.length_map]
      exact ih entry hentry _

-- ================================================================= places

/-- The place below a path is a directory that opens. -/
def Opens (directory : Path) (n : Node) (names : List Bytes) : Prop :=
  ∃ readable entries, Node.at? names n = some (.directory readable entries) ∧
    openError? (directory.joinNames names) readable = none

/-- All directories on the way to a place open. -/
def Reached (directory : Path) (n : Node) (names : List Bytes) : Prop :=
  ∀ above, above <+: names → above ≠ names → Opens directory n above

/-- A tour reaches where it starts. -/
theorem reached_nil : Reached directory n [] := fun _ hprefix hne =>
  absurd (List.prefix_nil.mp hprefix) hne

/-- Whether a directory further down opens is asked of the entry that leads
there. -/
theorem opens_cons {name : Bytes}
    (hfind : Entries.find? name n.entries = some m) :
    Opens directory n (name :: names) ↔
      Opens (directory.join ⟨name⟩) m names := by
  unfold Opens
  rw [Node.at?, hfind]
  rfl

/-- It is reached if this directory opens and it is reached from the entry.
-/
theorem reached_cons {name : Bytes}
    (hfind : Entries.find? name n.entries = some m) :
    Reached directory n (name :: names) ↔
      Opens directory n [] ∧ Reached (directory.join ⟨name⟩) m names := by
  constructor
  · refine fun h => ⟨h [] List.nil_prefix (List.cons_ne_nil _ _).symm,
      fun above hprefix hne => ?_⟩
    refine (opens_cons hfind).mp
      (h (name :: above) ?_ fun heq => hne (List.cons.inj heq).2)
    exact List.cons_prefix_cons.mpr ⟨rfl, hprefix⟩
  · rintro ⟨hopens, h⟩ above hprefix hne
    cases above with
    | nil => exact hopens
    | cons first above =>
      obtain ⟨rfl, hbelow⟩ := List.cons_prefix_cons.mp hprefix
      exact (opens_cons hfind).mpr (h above hbelow fun heq => hne (by rw [heq]))

/-- A place is reached if every directory above it opens. -/
theorem reached_concat {name : Bytes} : Reached directory n (names ++ [name]) ↔
    ∀ above, above <+: names → Opens directory n above := by
  constructor
  · refine fun h above hway => h above (hway.trans (List.prefix_append _ _)) ?_
    rintro rfl
    have hlength := hway.length_le
    rw [List.length_append, List.length_singleton] at hlength
    omega
  · intro h above hway hne
    exact h above ((List.prefix_concat_iff.mp hway).resolve_left hne)

/-- A directory opens unless reading it fails. -/
theorem opens_nil {readable : Bool} :
    Opens directory (.directory readable entries) [] ↔
    openError? directory readable = none := by
  constructor
  · rintro ⟨_, _, hat, hopens⟩
    cases hat
    exact hopens
  · exact fun hopens => ⟨_, _, rfl, hopens⟩

/-- There is no tour of what is no directory. -/
theorem tour_eq_nil (hn : n.isDirectory = false) (directory : Path) :
    tour directory n = [] := by
  cases n with
  | file => rw [tour]
  | link => rw [tour]
  | directory => cases hn

/-- A tour visits the directory itself and, if that opens, what the tours of
its entries visit, with the entry's name in front. -/
theorem mem_tour_directory {readable : Bool} {visit : List Bytes × Node} :
    visit ∈ tour directory (.directory readable entries) ↔
      visit = ([], .directory readable entries) ∨
      openError? directory readable = none ∧
        ∃ entry ∈ entries, ∃ names, visit.1 = entry.1 :: names ∧
          (names, visit.2) ∈ tour (directory.join ⟨entry.1⟩) entry.2 := by
  rw [tour_directory, List.mem_cons]
  refine or_congr_right ?_
  cases openError? directory readable with
  | some reason => simp
  | none =>
    simp only [List.mem_flatMap, List.mem_map, true_and]
    constructor
    · rintro ⟨entry, hentry, visit, hvisit, rfl⟩
      exact ⟨entry, (mem_below.mp hentry).1, visit.1, rfl, hvisit⟩
    · rintro ⟨entry, hentry, names, hnames, hvisit⟩
      have hdirectory : entry.2.isDirectory = true := by
        by_contra hn
        rw [tour_eq_nil (Bool.not_eq_true _ ▸ hn)] at hvisit
        cases hvisit
      exact ⟨entry, mem_below.mpr ⟨hentry, hdirectory⟩, _, hvisit,
        Prod.ext hnames.symm rfl⟩

/-- Below what is no directory there is none. -/
theorem not_directory_of_leaf (hn : n.isDirectory = false)
    (hat : Node.at? names n = some m) :
    m.isDirectory ≠ true := by
  cases names with
  | nil => cases hat; exact Bool.eq_false_iff.mp hn
  | cons =>
    cases n with
    | directory => cases hn
    | file => cases hat
    | link => cases hat

/-- A tour comes to the directories that are reached. -/
theorem mem_tour (hn : n.Distinct) :
    ∀ {directory : Path} {names : List Bytes} {m : Node},
    (names, m) ∈ tour directory n ↔
      Node.at? names n = some m ∧ m.isDirectory = true ∧
      Reached directory n names := by
  induction hn with
  | file =>
    intro directory names m
    rw [tour_eq_nil rfl]
    exact iff_of_false List.not_mem_nil fun h =>
      not_directory_of_leaf rfl h.1 h.2.1
  | link =>
    intro directory names m
    rw [tour_eq_nil rfl]
    exact iff_of_false List.not_mem_nil fun h =>
      not_directory_of_leaf rfl h.1 h.2.1
  | @directory readable entries hnodup _ ih =>
    intro directory names m
    rw [mem_tour_directory]
    cases names with
    | nil =>
      constructor
      · rintro (heq | ⟨-, _, -, _, hnil, -⟩)
        · cases heq
          exact ⟨rfl, rfl, reached_nil⟩
        · cases hnil
      · rintro ⟨hat, -, -⟩
        cases hat
        exact .inl rfl
    | cons name names =>
      constructor
      · rintro (heq | ⟨hopens, entry, hentry, _, hnames, h⟩)
        · cases heq
        · cases hnames
          obtain ⟨hat, hm, hreached⟩ := (ih entry hentry).mp h
          have hfind : Entries.find? entry.1 entries = some entry.2 :=
            Entries.find?_of_mem hnodup hentry
          refine
            ⟨?_, hm, (reached_cons hfind).mpr ⟨opens_nil.mpr hopens, hreached⟩⟩
          rw [Node.at?, Node.entries, hfind]
          exact hat
      · rintro ⟨hat, hm, hreached⟩
        obtain ⟨k, hfind, hat⟩ := Option.bind_eq_some_iff.mp hat
        obtain ⟨hopens, hreached⟩ := (reached_cons hfind).mp hreached
        have hmem := Entries.mem_of_find? hfind
        exact .inr ⟨opens_nil.mp hopens, (name, k), hmem, names, rfl,
          (ih _ hmem).mpr ⟨hat, hm, hreached⟩⟩

/-- What stands at a place below a path counts as a file and has a name that
is accepted. -/
def Accepts (files : Files) (matcher : Matcher) (directory : Path) (n : Node)
    (names : List Bytes) : Prop :=
  ∃ m, Node.at? names n = some m ∧ m.isDirectory = false ∧
    (m.isLink = true → files.isDirectory (directory.joinNames names) = false) ∧
    ∃ name, names.getLast? = some name ∧
      matcher.accepts (Utf8.lossy name) = true

/-- A candidate has a name. -/
theorem not_accepts_nil : ¬ Accepts files matcher directory n [] := by
  rintro ⟨_, -, -, -, _, hlast, -⟩
  cases hlast

/-- Where there are no entries there is no candidate. -/
theorem not_accepts_of_leaf (hentries : n.entries = []) :
    ¬ Accepts files matcher directory n names := by
  intro h
  cases names with
  | nil => exact not_accepts_nil h
  | cons =>
    obtain ⟨m, hat, -⟩ := h
    rw [Node.at?, hentries] at hat
    cases hat

/-- In particular not in what is no directory. -/
theorem not_candidate_of_leaf (hn : n.isDirectory = false) :
    ¬ Candidate files matcher directory n names :=
  fun h => Bool.false_ne_true (hn.symm.trans h.isDirectory)

/-- An entry is a candidate if it counts as a file, which for a link means
that it does not lead to a directory, and its name matches. -/
theorem accepts_singleton {name : Bytes}
    (hfind : Entries.find? name n.entries = some m) :
    Accepts files matcher directory n [name] ↔ m.isDirectory = false ∧
      (m.isLink = true → files.isDirectory (directory.join ⟨name⟩) = false) ∧
      matcher.accepts (Utf8.lossy name) = true := by
  unfold Accepts
  rw [Node.at?, hfind]
  constructor
  · rintro ⟨_, hat, hm, hlink, _, hlast, hname⟩
    cases hat
    cases hlast
    exact ⟨hm, hlink, hname⟩
  · rintro ⟨hm, hlink, hname⟩
    exact ⟨m, rfl, hm, hlink, name, rfl, hname⟩

/-- A candidate further down is one of the entry that leads there. -/
theorem accepts_cons_cons {name next : Bytes}
    (hfind : Entries.find? name n.entries = some m) :
    Accepts files matcher directory n (name :: next :: names) ↔
      Accepts files matcher (directory.join ⟨name⟩) m (next :: names) := by
  unfold Accepts
  rw [Node.at?, hfind, List.getLast?_cons_cons]
  rfl

/-- A candidate is an entry that is reached, that is no directory and no
link to one, and whose name is accepted. -/
theorem candidate_iff (hn : n.Distinct) :
    ∀ {directory : Path} {names : List Bytes},
    Candidate files matcher directory n names ↔
      Reached directory n names ∧ Accepts files matcher directory n names := by
  induction hn with
  | file => exact iff_of_false (not_candidate_of_leaf rfl) fun h =>
    not_accepts_of_leaf rfl h.2
  | link => exact iff_of_false (not_candidate_of_leaf rfl) fun h =>
    not_accepts_of_leaf rfl h.2
  | @directory readable entries hnodup _ ih =>
    intro directory names
    constructor
    · intro h
      have hopens : Opens directory (.directory readable entries) [] :=
        opens_nil.mpr h.opens
      cases h with
      | @here _ _ name m _ hmem hnode hlink hname =>
        have hfind : Entries.find? name entries = some m :=
          Entries.find?_of_mem hnodup hmem
        exact ⟨(reached_cons hfind).mpr ⟨hopens, reached_nil⟩,
          (accepts_singleton hfind).mpr ⟨hnode, hlink, hname⟩⟩
      | @deeper _ _ name k rest _ hmem h =>
        obtain ⟨first, others, rfl⟩ := h.exists_cons
        obtain ⟨hreached, haccepts⟩ := (ih _ hmem).mp h
        have hfind : Entries.find? name entries = some k :=
          Entries.find?_of_mem hnodup hmem
        exact ⟨(reached_cons hfind).mpr ⟨hopens, hreached⟩,
          (accepts_cons_cons hfind).mpr haccepts⟩
    · rintro ⟨hreached, haccepts⟩
      cases names with
      | nil => exact absurd haccepts not_accepts_nil
      | cons first rest =>
        obtain ⟨k, hfind⟩ : ∃ k, Entries.find? first entries = some k := by
          obtain ⟨_, hat, -⟩ := haccepts
          obtain ⟨k, hfind, -⟩ := Option.bind_eq_some_iff.mp hat
          exact ⟨k, hfind⟩
        obtain ⟨hopens, hbelow⟩ := (reached_cons hfind).mp hreached
        obtain ⟨hlength, rfl⟩ := of_openError? (opens_nil.mp hopens)
        have hmem := Entries.mem_of_find? hfind
        cases rest with
        | nil =>
          obtain ⟨hm, hlink, hname⟩ := (accepts_singleton hfind).mp haccepts
          exact .here hlength hmem hm hlink hname
        | cons =>
          exact .deeper hlength hmem
            ((ih _ hmem).mpr ⟨hbelow, (accepts_cons_cons hfind).mp haccepts⟩)

-- ================================================================== order

/-- Entries of different names come out in strictly rising order. -/
theorem sorted_lt {α : Type} {named : List (Bytes × α)}
    (hnodup : (named.map Prod.fst).Nodup) :
    (sorted named).Pairwise (·.1 < ·.1) := by
  have hdistinct : (sorted named).Pairwise (·.1 ≠ ·.1) := by
    rw [← List.pairwise_map (f := Prod.fst) (R := fun a b : Bytes => a ≠ b)]
    exact ((List.mergeSort_perm named _).map Prod.fst).nodup_iff.mpr hnodup
  refine ((sorted_pairwise named).and hdistinct).imp fun h => ?_
  exact (List.le_iff_lt_or_eq.mp h.1).resolve_right h.2

/-- The names of a tour increase. -/
theorem tour_pairwise (hn : n.Distinct) : ∀ directory : Path,
    (tour directory n).Pairwise (·.1 < ·.1) := by
  induction hn with
  | file => exact fun _ => by rw [tour]; exact .nil
  | link => exact fun _ => by rw [tour]; exact .nil
  | @directory readable entries hnodup _ ih =>
    intro directory
    rw [tour_directory, List.pairwise_cons]
    cases openError? directory readable with
    | some reason => exact ⟨nofun, .nil⟩
    | none =>
      dsimp only
      refine ⟨fun visit hvisit => ?_,
        List.pairwise_flatMap.mpr ⟨fun entry hentry => ?_, ?_⟩⟩
      · -- the directory itself comes before what lies below it
        obtain ⟨entry, -, h⟩ := List.mem_flatMap.mp hvisit
        obtain ⟨visit, -, rfl⟩ := List.mem_map.mp h
        exact List.nil_lt_cons _ _
      · rw [List.pairwise_map]
        refine (ih entry (mem_below.mp hentry).1 _).imp fun h => ?_
        exact List.cons_lt_cons_iff.mpr (.inr ⟨rfl, h⟩)
      · have hsorted : (below entries).Pairwise (·.1 < ·.1) :=
          sorted_lt (hnodup.sublist (List.filter_sublist.map _))
        refine hsorted.imp fun {a b} h v hv w hw => ?_
        obtain ⟨v, -, rfl⟩ := List.mem_map.mp hv
        obtain ⟨w, -, rfl⟩ := List.mem_map.mp hw
        exact List.cons_lt_cons_iff.mpr (.inl h)

-- =============================================================== thinned

variable {gone opened : List Bytes → Bool} {files' : Files} {name : Bytes}

/-- In a tree from which something has been taken a directory opens if it is
still there and it opened before, or has been made readable. -/
theorem opens_thinned :
    Opens root (n.thinned gone opened) names ↔ ¬ Node.Taken gone names ∧
    ∃ readable entries, Node.at? names n = some (.directory readable entries) ∧
      openError? (root.joinNames names) (readable || opened names) = none := by
  constructor
  · rintro ⟨readable, entries, hat, hopens⟩
    obtain ⟨hnot, readable', entries', hat', rfl⟩ :=
      Node.at?_thinned_eq_directory.mp ⟨entries, hat⟩
    exact ⟨hnot, readable', entries', hat', hopens⟩
  · rintro ⟨hnot, readable', entries', hat', hopens⟩
    obtain ⟨entries, hat⟩ :=
      Node.at?_thinned_eq_directory.mpr ⟨hnot, readable', entries', hat', rfl⟩
    exact ⟨_, entries, hat, hopens⟩

/-- What is left is accepted as before, if a link that is left leads to a
directory exactly if it did. -/
theorem accepts_thinned
    (hlinks : ∀ target, Node.at? names n = some (.link target) →
      ¬ Node.Taken gone names →
      files'.isDirectory (root.joinNames names)
        = files.isDirectory (root.joinNames names)) :
    Accepts files' matcher root (n.thinned gone opened) names ↔
      ¬ Node.Taken gone names ∧ Accepts files matcher root n names := by
  constructor
  · rintro ⟨m, hat, hm, hlink, hname⟩
    obtain ⟨hnot, k, hk, rfl⟩ := Node.at?_thinned_eq_some.mp hat
    rw [Node.isDirectory_thinned] at hm
    rw [Node.thinned_of_not_directory hm] at hlink
    refine ⟨hnot, k, hk, hm, fun hk' => ?_, hname⟩
    obtain ⟨target, rfl⟩ := Node.isLink_iff.mp hk'
    rw [← hlinks target hk hnot]
    exact hlink hk'
  · rintro ⟨hnot, m, hat, hm, hlink, hname⟩
    have hat' : Node.at? names (n.thinned gone opened) = some m :=
      Node.at?_thinned_eq_some.mpr
        ⟨hnot, m, hat, Node.thinned_of_not_directory hm⟩
    refine ⟨m, hat', hm, fun hm' => ?_, hname⟩
    obtain ⟨target, rfl⟩ := Node.isLink_iff.mp hm'
    rw [hlinks target hat hnot]
    exact hlink hm'

end Search

end Restoration
