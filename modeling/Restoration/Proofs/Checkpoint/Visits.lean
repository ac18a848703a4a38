/-
The directories that a search comes to, one after the other.

A search looks into the directories of its tour, each by itself (`lookInto`),
and stops at the first that holds a checkpoint (`search_eq`). The names of a
tour increase, so which directories are visited can be said without the
search (`mem_visits`): those that are reached, and before which there is no
candidate in the tour. One warning is told for each that does not open
(`findCheckpoint_events`).
-/
import Restoration.Proofs.Checkpoint.Tour

namespace Restoration

namespace Search

variable {files : Files} {matcher : Matcher} {directory root : Path}
  {n m : Node} {names above : List Bytes} {entries : Entries}

-- ================================================================ search

/-- What a look into one directory finds, and what is worth telling. -/
def lookInto (files : Files) (matcher : Matcher) (root : Path)
    (visit : List Bytes × Node) :
    Found :=
  match visit.2 with
  | .directory readable entries =>
    match openError? (root.joinNames visit.1) readable with
    | some reason =>
      ⟨none, [.skippingDirectory (root.joinNames visit.1) reason]⟩
    | none => ⟨firstHere? files matcher (root.joinNames visit.1) entries, []⟩
  | _ => ⟨none, []⟩

/-- A search, and another one if it finds nothing. -/
def Found.then (found next : Found) : Found :=
  match found.path with
  | some _ => found
  | none => ⟨next.path, found.events ++ next.events⟩

/-- The searches after the first go on only if it finds nothing. -/
theorem Found.first_cons (found : Found) (rest : List Found) :
    Found.first (found :: rest) = found.then (Found.first rest) :=
  rfl

/-- Going on from search to search does not depend on how they are grouped.
-/
theorem Found.then_assoc (a b c : Found) :
    (a.then b).then c = a.then (b.then c) := by
  rcases a with ⟨_ | _, _⟩ <;> rcases b with ⟨_ | _, _⟩ <;> simp [Found.then]

/-- Two lists of searches are two searches, one after the other. -/
theorem Found.first_append (before after : List Found) :
    Found.first (before ++ after)
      = (Found.first before).then (Found.first after) := by
  induction before with
  | nil => rfl
  | cons found rest ih =>
    rw [List.cons_append, Found.first_cons, Found.first_cons,
      Found.then_assoc, ih]

/-- The same for a list of lists. -/
theorem Found.first_flatMap {α : Type} (f : α → List Found) (l : List α) :
    Found.first (l.flatMap f)
      = Found.first (l.map fun a => Found.first (f a)) := by
  induction l with
  | nil => rfl
  | cons a rest ih =>
    rw [List.flatMap_cons, List.map_cons, Found.first_append,
      Found.first_cons, ih]

/-- A search of a directory that opens goes on below it if there is no file. -/
theorem search_directory (files : Files) (matcher : Matcher) (directory : Path)
    (readable : Bool) (entries : Entries) :
    search files matcher directory (.directory readable entries) =
      match openError? directory readable with
      | some reason => ⟨none, [.skippingDirectory directory reason]⟩
      | none => Found.then ⟨firstHere? files matcher directory entries, []⟩
          (.first ((below entries).map fun entry =>
            search files matcher (directory.join ⟨entry.1⟩) entry.2)) := by
  rw [search, searchBelow_eq, sorted_map, List.map_map]
  cases openError? directory readable with
  | some reason => rfl
  | none =>
    dsimp only
    cases firstHere? files matcher directory entries <;> rfl

/-- Nothing is found, or logged, in what is no directory. -/
theorem search_of_not_directory (hn : n.isDirectory = false) :
    search files matcher directory n = ⟨none, []⟩ := by
  cases n with
  | file => simp [search]
  | link => simp [search]
  | directory => cases hn

/-- A search looks into the directories of its tour, up to the first find. -/
theorem search_eq (files : Files) (matcher : Matcher)
    (n : Node) : ∀ directory : Path, search files matcher directory n =
      .first ((tour directory n).map (lookInto files matcher directory)) := by
  induction n using Node.induction with
  | file =>
    intro directory
    rw [search_of_not_directory rfl, tour, List.map_nil, Found.first]
  | link =>
    intro directory
    rw [search_of_not_directory rfl, tour, List.map_nil, Found.first]
  | directory readable entries ih =>
    intro directory
    rw [search_directory, tour_directory, List.map_cons,
      Found.first_cons, lookInto]
    dsimp only
    rw [show directory.joinNames [] = directory from rfl]
    cases openError? directory readable with
    | some reason => rfl
    | none =>
      dsimp only
      rw [List.map_flatMap, Found.first_flatMap]
      refine congrArg (fun searches => Found.then _ (.first searches))
        (List.map_congr_left ?_)
      intro entry hentry
      rw [ih entry (mem_below.mp hentry).1, List.map_map]
      rfl

-- ================================================================= visits

/-- The part of a list up to the first element where to stop. -/
def upTo {α : Type} (stop : α → Bool) : List α → List α
  | [] => []
  | a :: rest => a :: if stop a then [] else upTo stop rest

/-- The visits that are made are those before the first successful one and
that one. In terms of the order: nothing before them is successful. -/
theorem mem_upTo {α : Type} {R : α → α → Prop} (hasymm : ∀ a b, R a b → ¬ R b a)
    (stop : α → Bool) (a : α) : ∀ {l : List α}, l.Pairwise R →
      (a ∈ upTo stop l ↔ a ∈ l ∧ ∀ b ∈ l, R b a → stop b = false)
  | [], _ => by simp [upTo]
  | c :: rest, h => by
    obtain ⟨hfirst, hrest⟩ := List.pairwise_cons.mp h
    have ih := mem_upTo hasymm stop a hrest
    rw [upTo, List.mem_cons, List.mem_cons, List.forall_mem_cons]
    constructor
    · rintro (rfl | h)
      · refine ⟨.inl rfl, fun hself => absurd hself (hasymm _ _ hself),
          fun b hb hba => ?_⟩
        exact absurd hba (hasymm _ _ (hfirst b hb))
      · split at h
        case isTrue => cases h
        case isFalse hstop =>
          obtain ⟨hmem, hbefore⟩ := ih.mp h
          exact ⟨.inr hmem, fun _ => Bool.not_eq_true _ ▸ hstop, hbefore⟩
    · rintro ⟨rfl | hmem, hc, hbefore⟩
      · exact .inl rfl
      · rw [hc (hfirst a hmem)]
        exact .inr (ih.mpr ⟨hmem, hbefore⟩)

/-- They stand in the order of all visits. -/
theorem upTo_sublist {α : Type} (stop : α → Bool) : ∀ l :
    List α, (upTo stop l).Sublist l
  | [] => .slnil
  | a :: rest => by
    rw [upTo]
    split
    · exact (List.nil_sublist rest).cons_cons a
    · exact (upTo_sublist stop rest).cons_cons a

/-- The first find is made in the part up to it, and all that is told is
told there. -/
theorem Found.first_upTo {α : Type} (f : α → Found) : ∀ l : List α,
    Found.first ((upTo (fun a => (f a).path.isSome) l).map f)
      = Found.first (l.map f)
  | [] => rfl
  | a :: rest => by
    have ih := first_upTo f rest
    rw [upTo, List.map_cons, List.map_cons, first_cons, first_cons]
    cases hpath : (f a).path with
    | none => simp [ih]
    | some path => simp [Found.then, hpath]

/-- The log is that of the visits made. -/
theorem Found.first_events {α : Type} (f : α → Found) : ∀ l : List α,
    (Found.first (l.map f)).events =
      (upTo (fun a => (f a).path.isSome) l).flatMap fun a => (f a).events
  | [] => rfl
  | a :: rest => by
    have ih := first_events f rest
    rw [upTo, List.map_cons, first_cons, Found.then]
    cases hpath : (f a).path with
    | none => simp [ih]
    | some path => simp

/-- The directories that a search looks into. -/
def visits (files : Files) (matcher : Matcher) (root : Path) (n : Node) :
    List (List Bytes × Node) :=
  upTo (fun visit => (lookInto files matcher root visit).path.isSome)
    (tour root n)

/-- A candidate in a directory that the search can reach is a checkpoint
right there. -/
theorem candidate_concat (hn : n.Distinct) {readable : Bool} {name : Bytes}
    (hat : Node.at? names n = some (.directory readable entries))
    (hreached : Reached root n names) :
    Candidate files matcher root n (names ++ [name]) ↔
      openError? (root.joinNames names) readable = none ∧
        ∃ k, (name, k) ∈ entries ∧
          isCheckpoint files matcher (root.joinNames names) (name, k)
            = true := by
  obtain ⟨hnodup, -⟩ := Node.distinct_directory.mp (hn.of_at? hat)
  have hopens : (∀ above, above <+: names → Opens root n above) ↔
      openError? (root.joinNames names) readable = none := by
    constructor
    · intro h
      obtain ⟨_, _, hat', hopens⟩ := h names List.prefix_rfl
      rw [hat] at hat'
      cases hat'
      exact hopens
    · intro h above hprefix
      by_cases heq : above = names
      · exact heq ▸ ⟨readable, entries, hat, h⟩
      · exact hreached above hprefix heq
  have hentry (k : Node) : Node.at? (names ++ [name]) n = some k ↔
      (name, k) ∈ entries := by
    rw [Node.at?_concat, hat]
    exact ⟨Entries.mem_of_find?, Entries.find?_of_mem hnodup⟩
  rw [candidate_iff hn, reached_concat, hopens, Accepts, Path.joinNames_concat,
    List.getLast?_concat]
  simp only [hentry, isCheckpoint_iff, Option.some.injEq, exists_eq_left']

/-- A look into a directory finds something if one of its entries is a
candidate. -/
theorem lookInto_isSome (hn : n.Distinct) {visit : List Bytes × Node}
    (hvisit : visit ∈ tour root n) :
    (lookInto files matcher root visit).path.isSome = true ↔
      ∃ name, Candidate files matcher root n (visit.1 ++ [name]) := by
  obtain ⟨names, m⟩ := visit
  obtain ⟨hat, hm, hreached⟩ := (mem_tour hn).mp hvisit
  cases m with
  | file => cases hm
  | link => cases hm
  | directory readable entries =>
    simp only [candidate_concat hn hat hreached, lookInto]
    cases openError? (root.joinNames names) readable with
    | some reason => simp
    | none =>
      dsimp only
      rcases firstHere?_cases files matcher (root.joinNames names) entries with
        ⟨hhere, hnone⟩ | ⟨entry, hmem, hhere, hentry, -⟩
      · rw [hhere]
        refine ⟨nofun, fun ⟨name, _, k, hmem, hcheckpoint⟩ => ?_⟩
        rw [hnone _ hmem] at hcheckpoint
        cases hcheckpoint
      · rw [hhere]
        exact ⟨fun _ => ⟨entry.1, rfl, entry.2, hmem, hentry⟩, fun _ => rfl⟩

/-- What a search visits: the directories that are reached, none of which
comes after one that holds a candidate. -/
theorem mem_visits (hn : n.Distinct) :
    (names, m) ∈ visits files matcher root n ↔
    Node.at? names n = some m ∧ m.isDirectory = true ∧ Reached root n names ∧
      ∀ above name, Candidate files matcher root n (above ++ [name]) →
        ¬ above < names := by
  have hupTo := mem_upTo (fun _ _ h h' => List.lt_asymm h h')
    (fun visit => (lookInto files matcher root visit).path.isSome) (names, m)
    (tour_pairwise hn root)
  rw [visits, hupTo, mem_tour hn, and_assoc, and_assoc]
  refine and_congr_right fun _ => and_congr_right fun _ =>
    and_congr_right fun _ => ?_
  constructor
  · intro h above name hcandidate hlt
    obtain ⟨hreached, k, hat, -⟩ := (candidate_iff hn).mp hcandidate
    obtain ⟨readable, entries, hat', -⟩ :=
      reached_concat.mp hreached above List.prefix_rfl
    have habove : (above, .directory readable entries) ∈ tour root n :=
      (mem_tour hn).mpr
        ⟨hat', rfl, fun q hq _ => reached_concat.mp hreached q hq⟩
    have hfinds := (lookInto_isSome hn habove).mpr ⟨name, hcandidate⟩
    rw [h _ habove hlt] at hfinds
    cases hfinds
  · intro h visit hvisit hlt
    rw [← Bool.not_eq_true]
    intro hfinds
    obtain ⟨name, hcandidate⟩ := (lookInto_isSome hn hvisit).mp hfinds
    exact h visit.1 name hcandidate hlt

-- =============================================================== refusals

/-- Why a directory that is visited cannot be opened, with its names. -/
def refusal? (root : Path) (visit : List Bytes × Node) :
    Option (List Bytes × SystemError) :=
  match visit.2 with
  | .directory readable _ =>
    (openError? (root.joinNames visit.1) readable).map (visit.1, ·)
  | _ => none

/-- The warning about a directory that cannot be opened. -/
def warning (root : Path) (refusal : List Bytes × SystemError) : Event :=
  .skippingDirectory (root.joinNames refusal.1) refusal.2

/-- Looking into a directory logs its refusal to open, and nothing else. -/
theorem lookInto_events (files : Files) (matcher : Matcher) (root : Path)
    (visit : List Bytes × Node) : (lookInto files matcher root visit).events =
      (refusal? root visit).toList.map (warning root) := by
  unfold lookInto refusal?
  split
  · cases openError? (root.joinNames visit.1) _ <;> rfl
  · rfl

/-- What refuses is a directory that cannot be opened. -/
theorem refusal?_eq_some {visit : List Bytes × Node}
    {refusal : List Bytes × SystemError} :
    refusal? root visit = some refusal ↔ refusal.1 = visit.1 ∧
    ∃ readable entries,
      visit.2 = .directory readable entries ∧
        openError? (root.joinNames visit.1) readable = some refusal.2 := by
  obtain ⟨names, m⟩ := visit
  obtain ⟨names', reason⟩ := refusal
  cases m with
  | file => simp [refusal?]
  | link => simp [refusal?]
  | directory readable entries => simp [refusal?, and_comm, eq_comm]

end Search

-- ============================================================= checkpoint

open Search

variable {files files' : Files} {matcher : Matcher} {root : Path}
  {names : List Bytes}

/-- What a search comes out to. -/
def conclude (matcher : Matcher) (root : Path) (found : Found) :
    Except Failure Path × List Event :=
  (match found.path with
    | some path => .ok path
    | none =>
      .error (.checkpointNotFound root matcher.marker matcher.extension),
        found.events)

/-- The directories that are looked into for the checkpoint, with the names
that lead to them from the root. -/
def visited (files : Files) (matcher : Matcher) (root : Path) :
    List (List Bytes × Node) :=
  match files.look root with
  | .ok n => visits files matcher root n
  | .error _ => []

/-- The checkpoint is what is found in the directories that are visited. -/
theorem findCheckpoint_eq (files : Files) (matcher : Matcher) (root : Path) :
    findCheckpoint files matcher root =
      conclude matcher root (.first ((visited files matcher root).map
        (lookInto files matcher root))) := by
  unfold findCheckpoint visited
  cases files.look root with
  | error => rfl
  | ok n =>
    dsimp only
    rw [visits, Found.first_upTo, ← search_eq]
    cases n with
    | file => rw [search_of_not_directory rfl]; rfl
    | link => rw [search_of_not_directory rfl]; rfl
    | directory readable entries =>
      dsimp only [conclude]
      cases (search files matcher root (.directory readable entries)).path <;>
        rfl

/-- The directories that cannot be opened, among those that are visited. -/
def refusals (files : Files) (matcher : Matcher) (root : Path) :
    List (List Bytes × SystemError) :=
  (visited files matcher root).filterMap (refusal? root)

/-- All that is told is one warning for each of them. -/
theorem findCheckpoint_events (files : Files) (matcher : Matcher)
    (root : Path) :
    (findCheckpoint files matcher root).2 =
      (refusals files matcher root).map (warning root) := by
  rw [findCheckpoint_eq, refusals, visited, conclude]
  cases files.look root with
  | error => rfl
  | ok n =>
    dsimp only
    rw [visits, Found.first_upTo, Found.first_events,
      List.filterMap_eq_flatMap_toList, List.map_flatMap]
    exact congrArg (List.flatMap · _)
      (funext (lookInto_events files matcher root))

/-- A directory below a root cannot be opened. -/
def Refuses (files : Files) (root : Path) (names : List Bytes)
    (reason : SystemError) : Prop :=
  ∃ n readable entries, files.look root = .ok n ∧
    Node.at? names n = some (.directory readable entries) ∧
    openError? (root.joinNames names) readable = some reason

/-- A search comes to a place below its root: all directories above it open,
and no directory that comes before it holds a candidate. -/
def ComesTo (files : Files) (matcher : Matcher) (root : Path)
    (names : List Bytes) : Prop :=
  (∃ n, files.look root = .ok n ∧ Reached root n names) ∧
    ∀ above name, IsCandidate files matcher root (above ++ [name]) →
      ¬ above < names

/-- The candidates below the root are those of the directory it leads to. -/
theorem isCandidate_iff {n : Node} (hlook : files.look root = .ok n) :
    IsCandidate files matcher root names ↔
      Candidate files matcher root n names := by
  simp [IsCandidate, hlook]

/-- The search comes to what it can reach, unless something found earlier
ends it. -/
theorem comesTo_iff {n : Node} (hlook : files.look root = .ok n) :
    ComesTo files matcher root names ↔ Reached root n names ∧
      ∀ above name, IsCandidate files matcher root (above ++ [name]) →
        ¬ above < names := by
  simp [ComesTo, hlook]

/-- The directories that are looked into are those the search comes to. -/
theorem mem_visited (distinct : files.root.Distinct) {m : Node} :
    (names, m) ∈ visited files matcher root ↔
      (∃ n, files.look root = .ok n ∧ Node.at? names n = some m) ∧
      m.isDirectory = true ∧
        ComesTo files matcher root names := by
  unfold visited ComesTo IsCandidate
  cases hlook : files.look root with
  | error => simp
  | ok n => simp [mem_visits (Files.look_distinct distinct hlook)]

/-- The names of the directories that are visited increase. -/
theorem visited_pairwise (distinct : files.root.Distinct) (matcher : Matcher)
    (root : Path) :
    (visited files matcher root).Pairwise (·.1 < ·.1) := by
  unfold visited
  cases hlook : files.look root with
  | error => exact .nil
  | ok n =>
    have hdistinct := Files.look_distinct distinct hlook
    exact (tour_pairwise hdistinct root).sublist (upTo_sublist _ _)

/-- The refusals that are logged are those of the directories the search
comes to. -/
theorem mem_refusals (distinct : files.root.Distinct) {reason : SystemError} :
    (names, reason) ∈ refusals files matcher root ↔
      Refuses files root names reason ∧ ComesTo files matcher root names := by
  unfold refusals
  rw [List.mem_filterMap]
  constructor
  · rintro ⟨⟨names', m⟩, hvisit, hrefusal⟩
    obtain ⟨rfl, readable, entries, rfl, hreason⟩ :=
      refusal?_eq_some.mp hrefusal
    obtain ⟨⟨n, hlook, hat⟩, -, hcomes⟩ := (mem_visited distinct).mp hvisit
    exact ⟨⟨n, readable, entries, hlook, hat, hreason⟩, hcomes⟩
  · rintro ⟨⟨n, readable, entries, hlook, hat, hreason⟩, hcomes⟩
    exact ⟨(names, .directory readable entries),
      (mem_visited distinct).mpr ⟨⟨n, hlook, hat⟩, rfl, hcomes⟩,
      refusal?_eq_some.mpr ⟨rfl, readable, entries, rfl, hreason⟩⟩

/-- They are logged in the order of the paths, each once. -/
theorem refusals_pairwise (distinct : files.root.Distinct) (matcher : Matcher)
    (root : Path) :
    (refusals files matcher root).Pairwise (·.1 < ·.1) := by
  refine List.Pairwise.filterMap _
    (fun visit visit' h refusal hrefusal refusal' hrefusal' => ?_)
    (visited_pairwise distinct matcher root)
  obtain ⟨hnames, -⟩ := refusal?_eq_some.mp hrefusal
  obtain ⟨hnames', -⟩ := refusal?_eq_some.mp hrefusal'
  rw [hnames, hnames']
  exact h

/-- What is found, and what is told, hangs on what can be found, what cannot
be opened and where the search comes to. -/
theorem findCheckpoint_ext (distinct : files.root.Distinct)
    (distinct' : files'.root.Distinct)
    (same : SameCandidates files files' matcher root) (refuses : ∀ names reason,
      Refuses files' root names reason ∧ ComesTo files' matcher root names ↔
        Refuses files root names reason ∧ ComesTo files matcher root names) :
    findCheckpoint files' matcher root = findCheckpoint files matcher root := by
  have hirreflexive : Std.Irrefl fun a b : List Bytes ×
      SystemError => a.1 < b.1 :=
    ⟨fun a => List.lt_irrefl a.1⟩
  have hrefusals : refusals files' matcher root = refusals files matcher root :=
    (refusals_pairwise distinct' matcher root).eq_of_mem_iff
      (refusals_pairwise distinct matcher root) fun {refusal} => by
        rw [mem_refusals distinct', mem_refusals distinct]
        exact refuses _ _
  refine Prod.ext (findCheckpoint_congr distinct distinct' same) ?_
  rw [findCheckpoint_events, findCheckpoint_events, hrefusals]

end Restoration
