/-
A search takes no notice of links to directories.

A detour is a link below the root of a search whose full path leads to a
directory (`isDetour`). Without all detours, those apart that the walk of the
root itself takes, a search comes to the same (`findCheckpoint_unlinked`).
Where a link leads is asked under its path, and the answer is the same in
both trees: a path that leads to a directory after detours are taken out has
not taken any of them, and a link that is left although it leads to a
directory is on the way of the root, where nothing was taken out
(`isDirectory_unlinked`).

So only the directories of the tree itself count for the search. It visits
none of them twice, and no more than there are.
-/
import Restoration.Proofs.Checkpoint.Visits

namespace Restoration

open Search

namespace Files

variable {f : Files} {root : Path} {s : Trail} {names above q : List Bytes}
  {name : Bytes}

-- =============================================================== detours

/-- A link below a place where a root leads, whose full path leads to a
directory, and which the walk of the root does not come upon. -/
def isDetour (f : Files) (root : Path) (base place : List Bytes) : Bool :=
  let names := place.drop base.length
  base ++ names == place && !names.isEmpty &&
    (Node.at? place f.root).any Node.isLink &&
    f.isDirectory (root.joinNames names) &&
    !(looks f.root linkLimit (f.start root) root.steps).contains place

/-- The files without the detours below a root. -/
def unlinked (f : Files) (root : Path) : Files :=
  match f.resolve true root with
  | .ok s => f.thinned (f.isDetour root s.names) fun _ => false
  | .error _ => f

theorem isDetour_iff {base place : List Bytes} :
    f.isDetour root base place = true ↔
    ∃ names, place = base ++ names ∧ names ≠ [] ∧
      (∃ target, Node.at? place f.root = some (.link target)) ∧
      f.isDirectory (root.joinNames names) = true ∧
      place ∉ looks f.root linkLimit (f.start root) root.steps := by
  have hlink : (Node.at? place f.root).any Node.isLink = true ↔
      ∃ target, Node.at? place f.root = some (.link target) := by
    rw [Option.any_eq_true]
    simp only [Node.isLink_iff]
    exact ⟨fun ⟨_, hat, target, heq⟩ => ⟨target, heq ▸ hat⟩,
      fun ⟨target, hat⟩ => ⟨_, hat, target, rfl⟩⟩
  unfold isDetour
  simp only [Bool.and_eq_true, beq_iff_eq, Bool.not_eq_true',
    List.isEmpty_eq_false_iff, hlink, List.contains_eq_mem,
    decide_eq_false_iff_not, and_assoc]
  constructor
  · rintro ⟨hplace, h⟩
    exact ⟨_, hplace.symm, h⟩
  · rintro ⟨names, rfl, h⟩
    rw [List.drop_left]
    exact ⟨rfl, h⟩

/-- Nothing lies below a detour, so what is taken is a detour if it is there. -/
theorem taken_detour {base : List Bytes} {n : Node}
    (h : Node.Taken (f.isDetour root base) q)
    (hat : Node.at? q f.root = some n) :
    f.isDetour root base q = true := by
  obtain ⟨place, hne, hprefix, hdetour⟩ := h
  by_cases heq : place = q
  · exact heq ▸ hdetour
  obtain ⟨-, -, -, ⟨target, hlink⟩, -⟩ := isDetour_iff.mp hdetour
  rcases List.eq_nil_or_concat' q with rfl | ⟨above, name, rfl⟩
  · exact absurd (List.prefix_nil.mp hprefix) hne
  · obtain ⟨_, _, hdirectory⟩ :=
      directory_of_at? hat
        ((List.prefix_concat_iff.mp hprefix).resolve_left heq)
    rw [hlink] at hdirectory
    cases hdirectory

/-- The walk of the root comes upon nothing that is taken. -/
theorem clear_detour (hresolve : f.resolve true root = .ok s) :
    f.Clear (f.isDetour root s.names) root := by
  rintro q hq ⟨place, hne, hprefix, hdetour⟩
  obtain ⟨names, rfl, hnames, ⟨target, hlink⟩, -, hnot⟩ :=
    isDetour_iff.mp hdetour
  obtain ⟨-, -, -, hwalk⟩ := resolve_eq_ok.mp hresolve
  obtain ⟨places, used, hcourse, hused⟩ := walk_eq_ok_iff.mp hwalk
  obtain ⟨above, name, rfl⟩ :=
    (List.eq_nil_or_concat' names).resolve_left hnames
  have hroot : LinkFreeTo f.root s.names := by
    rw [← List.append_assoc] at hlink
    exact (linkFreeTo_of_at? hlink).above (List.prefix_append _ _)
  have hfree := (hcourse.linkFree (start_stands f root).1 hroot).2
  rw [(hcourse.walk hused).2] at hq hnot
  by_cases heq : s.names ++ (above ++ [name]) = q
  · exact hnot (heq ▸ hq)
  · refine hfree q hq _ target ?_ hlink
    rcases List.eq_nil_or_concat' q with rfl | ⟨above', name', rfl⟩
    · exact absurd (List.prefix_nil.mp hprefix) hne
    · rw [List.dropLast_concat]
      exact (List.prefix_concat_iff.mp hprefix).resolve_left heq

/-- A link that leads to a directory and is left is one that the walk of the
root follows, and nothing is taken on its course. -/
theorem not_taken_of_kept {t r : Trail} {places : List (List Bytes)}
    {used : Nat} {target : Path} (hresolve : f.resolve true root = .ok s)
    (ht : Stands f.root t) (hnames : t.names = s.names ++ above)
    (hlink : Node.at? (s.names ++ (above ++ [name])) f.root
      = some (.link target))
    (hkept : f.isDetour root s.names (s.names ++ (above ++ [name])) = false)
    (hdirectory : f.isDirectory (root.joinNames (above ++ [name])) = true)
    (hcourse : Course f.root t [name] places used r) :
    ∀ q ∈ places, ¬ Node.Taken (f.isDetour root s.names) q := by
  have hlooked : s.names ++ (above ++ [name]) ∈
      looks f.root linkLimit (f.start root) root.steps := by
    by_contra hnot
    have hdetour := isDetour_iff.mpr
      ⟨above ++ [name], rfl, by simp, ⟨target, hlink⟩, hdirectory, hnot⟩
    rw [hkept] at hdetour
    cases hdetour
  obtain ⟨-, -, -, hwalk⟩ := resolve_eq_ok.mp hresolve
  obtain ⟨places', used', hroot, hused⟩ := walk_eq_ok_iff.mp hwalk
  have hlooks := (hroot.walk hused).2
  rw [hlooks] at hlooked
  obtain ⟨t', name', places'', _, _, heq, ht', hpassed, hmem⟩ :=
    hroot.passes (start_stands f root).1 hlooked hlink
  rw [← List.append_assoc] at heq
  obtain ⟨habove, hname⟩ := List.append_inj' heq rfl
  cases hname
  obtain rfl := ht.unique ht' (habove.symm.trans hnames.symm)
  obtain ⟨rfl, -, -⟩ := hpassed.unique hcourse
  intro q hq
  exact clear_detour hresolve q (hlooks ▸ hmem q hq)

/-- A directory below the root is not taken. -/
theorem not_taken_of_directory {readable : Bool} {entries : Entries}
    (hresolve : f.resolve true root = .ok s)
    (hat : Node.at? names (s.node f.root)
      = some (.directory readable entries)) :
    ¬ Node.Taken (fun below => f.isDetour root s.names (s.names ++ below))
      names := by
  rcases List.eq_nil_or_concat' names with rfl | ⟨above, name, rfl⟩
  · exact Node.not_taken_nil
  · intro htaken
    rw [(resolve_stands hresolve).at?_below] at hat
    have hdetour :=
      taken_detour ((Node.taken_append s.names).mpr (.inr htaken)) hat
    obtain ⟨-, -, -, ⟨target, hlink⟩, -⟩ := isDetour_iff.mp hdetour
    rw [hat] at hlink
    cases hlink

/-- What a root leads to, without the detours below it. -/
def withoutDetours (f : Files) (root : Path) (s : Trail) : Node :=
  (s.node f.root).thinned
    (fun below => f.isDetour root s.names (s.names ++ below)) fun _ => false

theorem look_unlinked (hresolve : f.resolve true root = .ok s) :
    (f.unlinked root).look root = .ok (f.withoutDetours root s) := by
  rw [unlinked, hresolve]
  exact look_thinned (clear_detour hresolve) hresolve

/-- The directories below the root are left. -/
theorem at?_withoutDetours (hresolve : f.resolve true root = .ok s)
    (names : List Bytes) (readable : Bool) :
    (∃ entries, Node.at? names (f.withoutDetours root s)
      = some (.directory readable entries)) ↔
      ∃ entries,
        Node.at? names (s.node f.root)
          = some (.directory readable entries) := by
  rw [withoutDetours, Node.at?_thinned_eq_directory]
  simp only [Bool.or_false]
  constructor
  · rintro ⟨-, _, entries, hat, rfl⟩
    exact ⟨entries, hat⟩
  · rintro ⟨entries, hat⟩
    exact ⟨not_taken_of_directory hresolve hat, readable, entries, hat, rfl⟩

/-- Where a link that is left leads is the same without the detours. -/
theorem isDirectory_unlinked {target : Path} (named : f.root.WellNamed)
    (hresolve : f.resolve true root = .ok s)
    (hat : Node.at? (above ++ [name]) (s.node f.root) = some (.link target))
    (hleft :
      ¬ Node.Taken (fun below => f.isDetour root s.names (s.names ++ below))
      (above ++ [name])) :
    (f.unlinked root).isDirectory (root.joinNames (above ++ [name])) =
      f.isDirectory (root.joinNames (above ++ [name])) := by
  have hs := resolve_stands hresolve
  have hnode := look_wellNamed named (look_of_resolve hresolve)
  have hlink := hs.at?_below.symm.trans hat
  have hkept :
      f.isDetour root s.names (s.names ++ (above ++ [name])) = false := by
    rw [← Bool.not_eq_true]
    exact fun hdetour =>
      hleft ⟨above ++ [name], by simp, List.prefix_rfl, hdetour⟩
  rw [unlinked, hresolve]
  refine isDirectory_thinned (clear_detour hresolve) hresolve
    (hnode.names_of_at? hat) hat ?_ ?_
  · intro htaken
    have hway : s.names ++ above <+: s.names ++ (above ++ [name]) :=
      (List.prefix_append_right_inj _).mpr (List.prefix_append _ _)
    have hdetour := taken_detour (htaken.mono hway) hlink
    rw [hkept] at hdetour
    cases hdetour
  · exact fun hdirectory _ _ _ _ ht hnames hcourse _ =>
      not_taken_of_kept hresolve ht hnames hlink hkept hdirectory hcourse

end Files

-- =============================================================== search

variable {files : Files} {matcher : Matcher} {root : Path} {s : Trail}
  {names : List Bytes}

open Files

theorem opens_unlinked (hresolve : files.resolve true root = .ok s) :
    Opens root (files.withoutDetours root s) names ↔
      Opens root (s.node files.root) names := by
  rw [withoutDetours, opens_thinned]
  simp only [Bool.or_false]
  exact and_iff_right_of_imp fun ⟨_, _, hat, _⟩ =>
    not_taken_of_directory hresolve hat

theorem reached_unlinked (hresolve : files.resolve true root = .ok s) :
    Reached root (files.withoutDetours root s) names ↔
      Reached root (s.node files.root) names :=
  forall_congr' fun _ => forall_congr' fun _ => forall_congr' fun _ =>
    opens_unlinked hresolve

/-- What is accepted still is, and nothing else: no detour is. -/
theorem accepts_unlinked (named : files.root.WellNamed)
    (hresolve : files.resolve true root = .ok s) {above : List Bytes}
    {name : Bytes} :
    Accepts (files.unlinked root) matcher root (files.withoutDetours root s)
      (above ++ [name]) ↔
      Accepts files matcher root (s.node files.root) (above ++ [name]) := by
  rw [withoutDetours,
    accepts_thinned fun _ => isDirectory_unlinked named hresolve]
  refine and_iff_right_of_imp ?_
  rintro ⟨m, hat, -, hlinked, -⟩ htaken
  rw [(resolve_stands hresolve).at?_below] at hat
  have hdetour :=
    taken_detour ((Node.taken_append s.names).mpr (.inr htaken)) hat
  obtain ⟨names, heq, -, ⟨target, hlink⟩, hdirectory, -⟩ :=
    isDetour_iff.mp hdetour
  rw [hlink] at hat
  cases hat
  rw [← List.append_cancel_left heq, hlinked rfl] at hdirectory
  cases hdirectory

/-- Without the detours there are the same candidates. -/
theorem sameCandidates_unlinked (distinct : files.root.Distinct)
    (named : files.root.WellNamed) (hresolve : files.resolve true root = .ok s)
    (matcher : Matcher) :
    SameCandidates files (files.unlinked root) matcher root := by
  intro names
  have hlook := look_of_resolve hresolve
  have hdistinct := look_distinct distinct hlook
  have hdistinct' : (files.withoutDetours root s).Distinct :=
    hdistinct.thinned _ _
  rw [isCandidate_iff hlook, isCandidate_iff (look_unlinked hresolve),
    candidate_iff hdistinct, candidate_iff hdistinct',
    reached_unlinked hresolve]
  refine and_congr_right fun _ => ?_
  rcases List.eq_nil_or_concat' names with rfl | ⟨above, name, rfl⟩
  · exact iff_of_false not_accepts_nil not_accepts_nil
  · exact accepts_unlinked named hresolve

theorem refuses_unlinked (hresolve : files.resolve true root = .ok s)
    {reason : SystemError} :
    Refuses (files.unlinked root) root names reason ↔
      Refuses files root names reason := by
  have hlook := look_of_resolve hresolve
  have h := at?_withoutDetours hresolve names
  unfold Refuses
  rw [hlook, look_unlinked hresolve]
  constructor
  · rintro ⟨_, readable, entries, ⟨⟩, hat, hreason⟩
    obtain ⟨entries', hat'⟩ := (h readable).mp ⟨entries, hat⟩
    exact ⟨_, readable, entries', rfl, hat', hreason⟩
  · rintro ⟨_, readable, entries, ⟨⟩, hat, hreason⟩
    obtain ⟨entries', hat'⟩ := (h readable).mpr ⟨entries, hat⟩
    exact ⟨_, readable, entries', rfl, hat', hreason⟩

theorem comesTo_unlinked (distinct : files.root.Distinct)
    (named : files.root.WellNamed)
    (hresolve : files.resolve true root = .ok s) :
    ComesTo (files.unlinked root) matcher root names ↔
      ComesTo files matcher root names := by
  have hlook := look_of_resolve hresolve
  rw [comesTo_iff hlook, comesTo_iff (look_unlinked hresolve),
    reached_unlinked hresolve]
  exact and_congr_right fun _ => forall_congr' fun above =>
    forall_congr' fun name =>
    imp_congr_left
      (sameCandidates_unlinked distinct named hresolve matcher
        (above ++ [name]))

/-- The search comes to the same without the detours below its root. It looks
into directories of the tree, into none of them twice, and into no more than
there are. -/
theorem findCheckpoint_unlinked (distinct : files.root.Distinct)
    (named : files.root.WellNamed) (matcher : Matcher) (root : Path) :
    findCheckpoint (files.unlinked root) matcher root
      = findCheckpoint files matcher root ∧
    findCheckpoint files matcher root = conclude matcher root (.first
      ((visited files matcher root).map (lookInto files matcher root))) ∧
    ((visited files matcher root).map Prod.fst).Nodup ∧
    (∀ visit ∈ visited files matcher root, visit.2.isDirectory = true ∧
      ∃ n, files.look root = .ok n ∧ Node.at? visit.1 n = some visit.2) ∧
    ∀ n, files.look root = .ok n →
      (visited files matcher root).length ≤ n.directories := by
  refine ⟨?_, findCheckpoint_eq files matcher root, ?_, ?_, fun n hlook => ?_⟩
  · cases hresolve : files.resolve true root with
    | error => rw [unlinked, hresolve]
    | ok s =>
      have distinct' : (files.unlinked root).root.Distinct := by
        rw [unlinked, hresolve]
        exact distinct.thinned _ _
      refine findCheckpoint_ext distinct distinct'
        (sameCandidates_unlinked distinct named hresolve matcher)
        fun names reason => ?_
      rw [refuses_unlinked hresolve, comesTo_unlinked distinct named hresolve]
  · rw [List.nodup_iff_pairwise_ne, List.pairwise_map]
    refine (visited_pairwise distinct matcher root).imp
      fun {visit other} h heq => ?_
    rw [heq] at h
    exact List.lt_irrefl _ h
  · rintro ⟨names, m⟩ hvisit
    obtain ⟨hat, hm, -⟩ := (mem_visited distinct).mp hvisit
    exact ⟨hm, hat⟩
  · rw [visited, hlook]
    exact (upTo_sublist _ _).length_le.trans (tour_length n root)

/-- A directory `in` with links to itself, one of them named like a
checkpoint, two directories with links to each other, and a link out of it. -/
def tangled : Files where
  root := .directory true [
    (name "in", .directory true [
      (name "self", .link ⟨Path.dot⟩),
      (name "aeneas.pkl", .link ⟨Path.dot⟩),
      (name "a", .directory true [
        (name "b", .link ⟨name "../b"⟩),
        (name "aeneas_out.pkl", .link ⟨name "/out"⟩)]),
      (name "b", .directory true [
        (name "a", .link ⟨name "../a"⟩),
        (name "aeneas_b.pkl", .file [] false)])]),
    (name "out", .directory true [(name "aeneas_x.pkl", .file [] false)])]
  workingDirectory := []
where name (text : String) : Bytes := Utf8.encode text

/-- The link that the root takes is left, the others are not. -/
theorem findCheckpoint_unlinked_tangled :
    tangled.root.Distinct ∧ tangled.root.WellNamed ∧
    (Node.at? [tangled.name "in", tangled.name "self"]
      (tangled.unlinked (.ofString "/in/self")).root).isSome = true ∧
    Node.at? [tangled.name "in", tangled.name "aeneas.pkl"]
      (tangled.unlinked (.ofString "/in/self")).root = none ∧
    Node.at?
      [tangled.name "in", tangled.name "a", tangled.name "aeneas_out.pkl"]
      (tangled.unlinked (.ofString "/in/self")).root = none ∧
    findCheckpoint (tangled.unlinked (.ofString "/in/self")) .default
      (.ofString "/in/self") =
      (.ok (.ofString "/in/self/b/aeneas_b.pkl"), []) := by
  have distinct : tangled.root.Distinct := by
    suffices tangled.name "in" ≠ tangled.name "out" ∧
        [tangled.name "self", tangled.name "aeneas.pkl", tangled.name "a",
          tangled.name "b"].Nodup ∧
        tangled.name "b" ≠ tangled.name "aeneas_out.pkl" ∧
        tangled.name "a" ≠ tangled.name "aeneas_b.pkl" by
      simpa [tangled, and_assoc] using this
    decide +kernel
  have named : tangled.root.WellNamed := by
    have names :
        ∀ text ∈ ["in", "out", "self", "aeneas.pkl", "a", "b", "aeneas_out.pkl",
        "aeneas_b.pkl", "aeneas_x.pkl"], IsName (tangled.name text) := by
      decide +kernel
    simp only [List.forall_mem_cons] at names
    simp [tangled, names]
  have found : findCheckpoint tangled .default (.ofString "/in/self") =
      (.ok (.ofString "/in/self/b/aeneas_b.pkl"), []) := by cbv
  refine ⟨distinct, named, by decide +kernel, ?_, ?_, ?_⟩
  · with_unfolding_all rfl
  · with_unfolding_all rfl
  · exact (findCheckpoint_unlinked distinct named .default
      (.ofString "/in/self")).1.trans found

end Restoration
