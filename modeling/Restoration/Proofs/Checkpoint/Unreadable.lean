/-
A directory that cannot be opened hides nothing but itself.

Directories below a root are sealed (`Sealed`) if none of them can be opened
under its path, and nothing leads into them: no link that stands outside of
them, and not the root itself. Then it makes no difference for the result of
a search what they hold, and it is the same as if they were empty
(`findCheckpoint_emptied`). All candidates lie outside of them, and nothing
that a path outside leads by is taken away with what they hold
(`isDirectory_emptied`).

The directories that cannot be opened are all that is told of a search, in
the order in which it comes to them, each of them once.

A root that leads through a directory that cannot be opened finds what it
does not find once the directory is emptied (`findCheckpoint_through`).
-/
import Restoration.Proofs.Checkpoint.Visits

namespace Restoration

open Search

namespace Files

variable {f : Files} {root : Path} {s : Trail} {names above q : List Bytes}
  {name : Bytes} {chosen : List Bytes → Bool}

-- =============================================================== emptied

/-- The files with some directories emptied and made readable. -/
def emptied (f : Files) (chosen : List Bytes → Bool) : Files :=
  f.thinned (fun q => chosen q.dropLast) chosen

/-- A place lies inside one of the chosen directories. -/
def Within (chosen : List Bytes → Bool) (q : List Bytes) : Prop :=
  ∃ place name, chosen place = true ∧ place ++ [name] <+: q

/-- What lies below a place within a chosen directory is within it too. -/
theorem Within.mono {q' : List Bytes} (h : Within chosen q)
    (hq : q <+: q') : Within chosen q' := by
  obtain ⟨place, name, hchosen, hprefix⟩ := h
  exact ⟨place, name, hchosen, hprefix.trans hq⟩

/-- What lies below one of them lies inside. -/
theorem within_of_chosen {base place : List Bytes}
    (hchosen : chosen (base ++ place) = true) (hplace : place <+: above) :
    Within chosen (base ++ (above ++ [name])) := by
  obtain ⟨rest, rfl⟩ := hplace
  obtain ⟨next, others, heq⟩ : ∃ next others, rest ++ [name] = next :: others :=
    List.exists_cons_of_ne_nil (by simp)
  refine ⟨base ++ place, next, hchosen, others, ?_⟩
  rw [List.append_assoc place, heq]
  simp

/-- What is inside is taken when the directories are emptied. -/
theorem taken_iff_within :
    Node.Taken (fun q => chosen q.dropLast) q ↔ Within chosen q := by
  constructor
  · rintro ⟨place, hne, hprefix, hchosen⟩
    obtain ⟨above, name, rfl⟩ := (List.eq_nil_or_concat' place).resolve_left hne
    dsimp only at hchosen
    rw [List.dropLast_concat] at hchosen
    exact ⟨above, name, hchosen, hprefix⟩
  · rintro ⟨place, name, hchosen, hprefix⟩
    refine ⟨place ++ [name], by simp, hprefix, ?_⟩
    dsimp only
    rwa [List.dropLast_concat]

/-- The link of a name in the directory at a place leads somewhere by way of
some places. -/
def LeadsBy (f : Files) (above : List Bytes) (name : Bytes)
    (inside : List Bytes → Prop) : Prop :=
  (∃ r, walk f.root true linkLimit (trailFrom f.root [] above) [name] = .ok r) ∧
    ∃ q ∈ looks f.root linkLimit (trailFrom f.root [] above) [name], inside q

/-- Chosen directories below a root cannot be opened, and nothing leads into
them. -/
structure Sealed (f : Files) (root : Path)
    (chosen : List Bytes → Bool) : Prop where
  refuse : ∀ place, chosen place = true → ∃ s names reason,
    f.resolve true root = .ok s ∧ place = s.names ++ names ∧
    Refuses f root names reason
  links : ∀ above name target,
    Node.at? (above ++ [name]) f.root = some (.link target) →
    ¬ Within chosen (above ++ [name]) → ¬ f.LeadsBy above name (Within chosen)
  way : ∀ q ∈ looks f.root linkLimit (f.start root) root.steps,
    ¬ Within chosen q

/-- The way to the root leads through no chosen directory. -/
theorem Sealed.clear (h : f.Sealed root chosen) :
    f.Clear (fun q => chosen q.dropLast) root :=
  fun q hq htaken => h.way q hq (taken_iff_within.mp htaken)

/-- A chosen directory cannot be opened. -/
theorem Sealed.refuses (h : f.Sealed root chosen)
    (hresolve : f.resolve true root = .ok s)
    (hchosen : chosen (s.names ++ names) = true) :
    ∃ reason, Refuses f root names reason := by
  obtain ⟨s', names', reason, hresolve', heq, hrefuses⟩ := h.refuse _ hchosen
  rw [hresolve] at hresolve'
  cases hresolve'
  exact ⟨reason, List.append_cancel_left heq ▸ hrefuses⟩

/-- A directory that opens is not one of those that are sealed. -/
theorem Sealed.not_chosen (h : f.Sealed root chosen)
    (hresolve : f.resolve true root = .ok s)
    (hopens : Opens root (s.node f.root) names) :
    chosen (s.names ++ names) = false := by
  rw [← Bool.not_eq_true]
  intro hchosen
  obtain ⟨reason, n, readable, entries, hlook, hat, hreason⟩ :=
    h.refuses hresolve hchosen
  obtain ⟨readable', entries', hat', hnone⟩ := hopens
  rw [look, hresolve] at hlook
  cases hlook
  rw [hat] at hat'
  cases hat'
  rw [hreason] at hnone
  cases hnone

/-- What is reached does not lie inside of them. -/
theorem Sealed.not_within (h : f.Sealed root chosen)
    (hresolve : f.resolve true root = .ok s)
    (hreached : Reached root (s.node f.root) names) :
    ¬ Within chosen (s.names ++ names) := by
  rintro ⟨place, name, hchosen, hprefix⟩
  obtain ⟨s', below, reason, hresolve', rfl, -⟩ := h.refuse _ hchosen
  rw [hresolve] at hresolve'
  cases hresolve'
  rw [List.append_assoc, List.prefix_append_right_inj] at hprefix
  have hopens := hreached below ((List.prefix_append _ _).trans hprefix) ?_
  · rw [h.not_chosen hresolve hopens] at hchosen
    cases hchosen
  · rintro rfl
    have hlength := hprefix.length_le
    simp at hlength

/-- Where a link leads that does not lie inside of them is the same when
they are emptied. -/
theorem Sealed.isDirectory_emptied {target : Path} (h : f.Sealed root chosen)
    (named : f.root.WellNamed) (hresolve : f.resolve true root = .ok s)
    (hat : Node.at? (above ++ [name]) (s.node f.root) = some (.link target))
    (hwithin : ¬ Within chosen (s.names ++ (above ++ [name]))) :
    (f.emptied chosen).isDirectory (root.joinNames (above ++ [name])) =
      f.isDirectory (root.joinNames (above ++ [name])) := by
  have hs := resolve_stands hresolve
  have hnode := look_wellNamed named (look_of_resolve hresolve)
  refine isDirectory_thinned h.clear hresolve (hnode.names_of_at? hat) hat ?_ ?_
  · rintro htaken
    have hway : s.names ++ above <+: s.names ++ (above ++ [name]) :=
      (List.prefix_append_right_inj _).mpr (List.prefix_append _ _)
    exact hwithin (taken_iff_within.mp (htaken.mono hway))
  · intro _ t places used r ht hnames hcourse hused q hq htaken
    -- the trail to the directory of the link is the one that its names give
    have hempty : Stands f.root [] := trivial
    obtain ⟨hstands, htrail⟩ := trailFrom_stands hempty (s.names ++ above)
    obtain rfl := ht.unique hstands (htrail.trans hnames.symm)
    rw [hs.at?_below, ← List.append_assoc] at hat
    rw [← List.append_assoc] at hwithin
    obtain ⟨hwalk, hlooks⟩ := hcourse.walk hused
    exact h.links _ name target hat hwithin
      ⟨⟨r, hwalk⟩, q, hlooks ▸ hq, taken_iff_within.mp htaken⟩

end Files

-- ================================================================ search

variable {files : Files} {matcher : Matcher} {root : Path} {s : Trail}
  {names above : List Bytes} {chosen : List Bytes → Bool} {name : Bytes}

open Files

/-- What a root leads to, with the chosen directories emptied. -/
def emptiedBelow (files : Files) (s : Trail)
    (chosen : List Bytes → Bool) : Node :=
  (s.node files.root).thinned (fun below => chosen (s.names ++ below).dropLast)
    (fun below => chosen (s.names ++ below))

/-- The root leads to the same directory, with the chosen ones below it
emptied. -/
theorem look_emptied (h : files.Sealed root chosen)
    (hresolve : files.resolve true root = .ok s) :
    (files.emptied chosen).look root = .ok (emptiedBelow files s chosen) :=
  look_thinned h.clear hresolve

/-- What is gone is what was within a chosen directory. -/
theorem taken_emptied_iff (h : files.Sealed root chosen)
    (hresolve : files.resolve true root = .ok s) :
    Node.Taken (fun below => chosen (s.names ++ below).dropLast) names ↔
      Within chosen (s.names ++ names) := by
  obtain ⟨-, -, -, hnot⟩ := resolve_thinned chosen h.clear hresolve
  rw [← taken_iff_within, Node.taken_append, or_iff_right hnot]

/-- A directory that was not chosen opens in the full tree if it does in the
emptied one. -/
theorem opens_of_emptied (hchosen : chosen (s.names ++ names) = false)
    (hopens : Opens root (emptiedBelow files s chosen) names) :
    Opens root (s.node files.root) names := by
  obtain ⟨-, readable, entries, hat, hnone⟩ := opens_thinned.mp hopens
  rw [hchosen, Bool.or_false] at hnone
  exact ⟨readable, entries, hat, hnone⟩

/-- And conversely, as long as it is still there. -/
theorem opens_emptied (h : files.Sealed root chosen)
    (hresolve : files.resolve true root = .ok s)
    (hwithin : ¬ Within chosen (s.names ++ names))
    (hopens : Opens root (s.node files.root) names) :
    Opens root (emptiedBelow files s chosen) names := by
  obtain ⟨readable, entries, hat, hnone⟩ := hopens
  obtain ⟨-, rfl⟩ := of_openError? hnone
  have hnot := mt (taken_emptied_iff h hresolve).mp hwithin
  exact opens_thinned.mpr ⟨hnot, true, entries, hat, hnone⟩

/-- Sealed directories hold no candidates, and emptying them brings none. -/
theorem sameCandidates_emptied (distinct : files.root.Distinct)
    (named : files.root.WellNamed) (h : files.Sealed root chosen)
    (hresolve : files.resolve true root = .ok s) (matcher : Matcher) :
    SameCandidates files (files.emptied chosen) matcher root := by
  intro names
  have hlook := look_of_resolve hresolve
  have hdistinct := look_distinct distinct hlook
  have hdistinct' : (emptiedBelow files s chosen).Distinct :=
    hdistinct.thinned _ _
  rw [isCandidate_iff hlook, isCandidate_iff (look_emptied h hresolve),
    candidate_iff hdistinct, candidate_iff hdistinct']
  rcases List.eq_nil_or_concat' names with rfl | ⟨above, name, rfl⟩
  · exact iff_of_false (fun h => not_accepts_nil h.2) fun h =>
      not_accepts_nil h.2
  rw [emptiedBelow, accepts_thinned fun _ hat hnot =>
    h.isDirectory_emptied named hresolve hat
      (mt (taken_emptied_iff h hresolve).mpr hnot),
    taken_emptied_iff h hresolve, ← emptiedBelow]
  constructor
  · rintro ⟨hreached, hwithin, haccepts⟩
    refine ⟨reached_concat.mpr fun place hplace => ?_, haccepts⟩
    refine opens_of_emptied ?_ (reached_concat.mp hreached place hplace)
    -- otherwise the entry would lie inside
    rw [← Bool.not_eq_true]
    exact fun hchosen => hwithin (within_of_chosen hchosen hplace)
  · rintro ⟨hreached, haccepts⟩
    have hwithin := h.not_within hresolve hreached
    refine ⟨reached_concat.mpr fun place hplace => ?_, hwithin, haccepts⟩
    refine opens_emptied h hresolve (fun hinside => ?_)
      (reached_concat.mp hreached place hplace)
    exact hwithin (hinside.mono ((List.prefix_append_right_inj _).mpr
      (hplace.trans (List.prefix_append _ _))))

/-- What sealed directories hold makes no difference for what is found. All
that is told is one warning for each directory that cannot be opened and that
the search comes to, in the order in which they are visited. -/
theorem findCheckpoint_emptied (distinct : files.root.Distinct)
    (named : files.root.WellNamed) (h : files.Sealed root chosen)
    (matcher : Matcher) :
    (findCheckpoint (files.emptied chosen) matcher root).1 =
      (findCheckpoint files matcher root).1 ∧
    (findCheckpoint files matcher root).2
      = (refusals files matcher root).map (warning root) ∧
    (refusals files matcher root).Pairwise (·.1 < ·.1) ∧
    ∀ names reason, (names, reason) ∈ refusals files matcher root ↔
      Refuses files root names reason ∧ ComesTo files matcher root names := by
  refine ⟨?_, findCheckpoint_events files matcher root,
    refusals_pairwise distinct matcher root, fun _ _ => mem_refusals distinct⟩
  cases hresolve : files.resolve true root with
  | ok s =>
    exact findCheckpoint_congr distinct (distinct.thinned _ _)
      (sameCandidates_emptied distinct named h hresolve matcher)
  | error reason =>
    -- there is nothing below the root, so nothing is chosen
    have hnone (place : List Bytes) : chosen place = false := by
      rw [← Bool.not_eq_true]
      intro hchosen
      obtain ⟨s, _, _, hresolve', -⟩ := h.refuse place hchosen
      rw [hresolve] at hresolve'
      cases hresolve'
    rw [emptied, thinned, Node.thinned_of_none _ (fun _ => hnone _) hnone]

/-- A directory `in` with a checkpoint, and one that cannot be opened and
holds another. -/
def denied : Files where
  root := .directory true [(name "in", .directory true [
    (name "u", .directory false [(name "aeneas_0.pkl", .file [] false)]),
    (name "z", .directory true [(name "aeneas.pkl", .file [] false)])])]
  workingDirectory := []
where name (text : String) : Bytes := Utf8.encode text

theorem findCheckpoint_emptied_denied :
    denied.root.Distinct ∧ denied.root.WellNamed ∧
    denied.Sealed (.ofString "/in") (· == [denied.name "in", denied.name "u"]) ∧
    (findCheckpoint (denied.emptied (· == [denied.name "in", denied.name "u"]))
      .default (.ofString "/in")).1 = .ok (.ofString "/in/z/aeneas.pkl") ∧
    (findCheckpoint denied .default (.ofString "/in")).2 =
      [.skippingDirectory (.ofString "/in/u") .denied] := by
  have distinct : denied.root.Distinct := by
    suffices denied.name "u" ≠ denied.name "z" by simpa [denied] using this
    decide +kernel
  have named : denied.root.WellNamed := by
    have names : ∀ text ∈ ["in", "u", "z", "aeneas_0.pkl", "aeneas.pkl"],
        IsName (denied.name text) := by
      decide +kernel
    simp only [List.forall_mem_cons] at names
    simp [denied, names]
  have found : findCheckpoint denied .default (.ofString "/in") =
      (.ok (.ofString "/in/z/aeneas.pkl"),
        [.skippingDirectory (.ofString "/in/u") .denied]) := by
    cbv
  have hsealed : denied.Sealed (.ofString "/in")
      (· == [denied.name "in", denied.name "u"]) := by
    have hresolve : denied.resolve true (.ofString "/in") =
        .ok (trailFrom denied.root [] [denied.name "in"]) := by
      with_unfolding_all rfl
    have hlooks : looks denied.root linkLimit (denied.start (.ofString "/in"))
        (Path.ofString "/in").steps = [[], [denied.name "in"]] := by
      with_unfolding_all rfl
    refine ⟨fun place hplace => ?_, fun above name target hat => ?_,
      fun q hq => ?_⟩
    · have hrefuses :
          Refuses denied (.ofString "/in") [denied.name "u"] .denied := by
        refine ⟨(trailFrom denied.root [] [denied.name "in"]).node denied.root,
          false, [(denied.name "aeneas_0.pkl", .file [] false)], ?_, ?_, ?_⟩ <;>
        with_unfolding_all rfl
      refine ⟨_, [denied.name "u"], .denied, hresolve, ?_, hrefuses⟩
      rw [(trailFrom_stands (t := []) trivial _).2]
      exact eq_of_beq hplace
    · have hfree : denied.root.LinkFree := by simp [denied]
      cases hfree.of_at? hat
    · rintro ⟨place, name, hplace, hprefix⟩
      rw [eq_of_beq hplace] at hprefix
      rw [hlooks] at hq
      have hlength := hprefix.length_le
      rcases List.mem_pair.mp hq with rfl | rfl <;> simp at hlength
  refine ⟨distinct, named, hsealed, ?_, by rw [found]⟩
  rw [(findCheckpoint_emptied distinct named hsealed .default).1, found]

/-- A directory `in` with a checkpoint, and two directories one in the other. -/
def crossed : Files where
  root := .directory true [(name "in", .directory true [
    (name "u", .directory true [(name "sub", .directory true [])]),
    (name "aeneas.pkl", .file [] false)])]
  workingDirectory := []
where name (text : String) : Bytes := Utf8.encode text

/-- A path to `in` by way of the two directories, as long as a path can be. -/
def longRoot : Path :=
  ⟨Utf8.encode "in/u/sub/../.." ++ List.replicate 4081 Path.slash⟩

/-- The path is as long as a path may be. -/
theorem longRoot_length : longRoot.bytes.length = longestPath := by
  rw [longRoot, List.length_append, List.length_replicate]
  with_unfolding_all rfl

/-- It ends with a slash. -/
theorem longRoot_endsInSlash : longRoot.endsInSlash = true := by
  rw [Path.endsInSlash, longRoot, List.replicate_succ', ← List.append_assoc,
    List.getLast?_concat]
  rfl

/-- Slashes at its end add no names to a path. -/
theorem names_slashes (b : Bytes) (count : Nat) :
    Path.names ⟨b ++ List.replicate count Path.slash⟩ = Path.names ⟨b⟩ := by
  induction count with
  | zero => rw [List.replicate_zero, List.append_nil]
  | succ count ih =>
    rw [List.replicate_succ', ← List.append_assoc]
    exact (Path.names_concat_slash ⟨_⟩).trans ih

/-- The steps of the long path go through the unreadable directory and back.
-/
theorem longRoot_steps : longRoot.steps =
    [crossed.name "in", crossed.name "u", crossed.name "sub", Path.dots,
      Path.dots, Path.dot] := by
  rw [Path.steps, longRoot_endsInSlash, if_pos rfl, longRoot, names_slashes]
  with_unfolding_all rfl

/-- It starts at the working directory. -/
theorem longRoot_isAbsolute : longRoot.isAbsolute = false := by
  with_unfolding_all rfl

/-- So it resolves as its six steps do. -/
theorem resolve_longRoot (f : Files) :
    f.resolve true longRoot
      = walk f.root true linkLimit f.here [crossed.name "in",
      crossed.name "u", crossed.name "sub", Path.dots, Path.dots,
      Path.dot] := by
  have hzero : longRoot.bytes.contains 0 = false := by
    have hbefore : 0 ∉ Utf8.encode "in/u/sub/../.." := by decide +kernel
    have hslash : (0 : UInt8) ≠ Path.slash := by decide
    rw [List.contains_eq_mem, decide_eq_false_iff_not, longRoot,
      List.mem_append, List.mem_replicate]
    exact not_or.mpr ⟨hbefore, fun h => hslash h.2⟩
  have hne : longRoot.bytes ≠ [] := fun hnil => by
    have hlength := longRoot_length
    rw [hnil] at hlength
    cases hlength
  rw [resolve, hzero, if_neg Bool.false_ne_true, if_neg hne, longRoot_length,
    if_neg (Nat.lt_irrefl _), longRoot_isAbsolute, if_neg Bool.false_ne_true,
    longRoot_steps]

/-- A directory for whose path there is no room cannot be opened, but the
root can lead through it. Then the root leads nowhere any more once the
directory is emptied. -/
theorem findCheckpoint_through :
    (∀ names target, Node.at? names crossed.root ≠ some (.link target)) ∧
    (crossed.resolve true longRoot).map Trail.names = .ok [crossed.name "in"] ∧
    Refuses crossed longRoot [crossed.name "u"] .nameTooLong ∧
    (∃ path, (findCheckpoint crossed .default longRoot).1 = .ok path) ∧
    (findCheckpoint
      (crossed.emptied (· == [crossed.name "in", crossed.name "u"])) .default
      longRoot).1 = .error (.checkpointNotFound longRoot "aeneas" "pkl") := by
  have distinct : crossed.root.Distinct := by
    suffices crossed.name "u" ≠ crossed.name "aeneas.pkl" by
      simpa [crossed] using this
    decide +kernel
  have hfree : crossed.root.LinkFree := by simp [crossed]
  have hlook : crossed.look longRoot = .ok (.directory true [
      (crossed.name "u",
        .directory true [(crossed.name "sub", .directory true [])]),
      (crossed.name "aeneas.pkl", .file [] false)]) := by
    rw [look, resolve_longRoot]
    with_unfolding_all rfl
  refine ⟨fun names target hat => (hfree.of_at? hat).not_link, ?_, ?_, ?_, ?_⟩
  · rw [resolve_longRoot]
    with_unfolding_all rfl
  · refine ⟨_, true, [(crossed.name "sub", .directory true [])], hlook, ?_, ?_⟩
    · with_unfolding_all rfl
    · have hname : Path.isAbsolute ⟨crossed.name "u"⟩ = false := by
        with_unfolding_all rfl
      have hlength : (crossed.name "u").length = 1 := by with_unfolding_all rfl
      have hjoin : longRoot.joinNames [crossed.name "u"] =
          ⟨longRoot.bytes ++ crossed.name "u"⟩ := by
        rw [Path.joinNames, List.foldl_cons, List.foldl_nil, Path.join, hname,
          if_neg Bool.false_ne_true, if_pos (.inr longRoot_endsInSlash)]
      rw [hjoin, openError?, List.length_append, longRoot_length, hlength,
        if_pos (by decide)]
  · have hcandidate :
        IsCandidate crossed .default longRoot [crossed.name "aeneas.pkl"] :=
      ⟨_, hlook, .here (Nat.le_of_eq longRoot_length)
        (List.mem_cons_of_mem _ List.mem_cons_self)
        rfl (fun hlink => absurd hlink Bool.false_ne_true) (by decide +kernel)⟩
    rcases findCheckpoint_cases distinct .default longRoot with
      ⟨names, -, hfound⟩ | ⟨hnone, -⟩
    · exact ⟨_, hfound⟩
    · exact absurd hcandidate (hnone _)
  · have hnowhere :
        (crossed.emptied (· == [crossed.name "in", crossed.name "u"])).look
          longRoot
        = .error .noEntry := by
      rw [look, resolve_longRoot]
      with_unfolding_all rfl
    rw [findCheckpoint, hnowhere]
    rfl

end Restoration
