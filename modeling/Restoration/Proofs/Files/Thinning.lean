/-
A tree that is thinned out.

Entries are taken out of it with all that lies below them, and directories
are made readable (`Node.thinned`). At every place there is what was there
before, itself thinned out, or nothing (`at?_thinned`). A walk sees a
difference only where it looks at a place that is taken, so a path on whose
course nothing is taken leads to the same place (`look_thinned`).

What is taken is gone, so walks in the thinned tree do not look there. Hence
paths below such a path lead to no more directories than before, and to no
fewer as far as nothing is taken on the courses of their links
(`isDirectory_thinned`).
-/
import Restoration.Proofs.Files.Course

namespace Restoration

-- =============================================================== thinning

namespace Node

mutual

/-- A node without the entries at some places, and with directories at some
places readable. -/
def thinned (gone opened : List Bytes → Bool) : Node → Node
  | .directory readable entries =>
    .directory (readable || opened []) (thinnedEntries gone opened entries)
  | .file contents executable => .file contents executable
  | .link target => .link target

/-- Entries without those at some places. -/
def thinnedEntries (gone opened : List Bytes → Bool) :
    List (Bytes × Node) → List (Bytes × Node)
  | [] => []
  | (name, n) :: rest =>
    if gone [name] then thinnedEntries gone opened rest
    else (name,
      thinned (fun q => gone (name :: q)) (fun q => opened (name :: q)) n)
      :: thinnedEntries gone opened rest

end

/-- A place is taken if it is gone or lies below one that is. -/
def Taken (gone : List Bytes → Bool) (q : List Bytes) : Prop :=
  ∃ place, place ≠ [] ∧ place <+: q ∧ gone place = true

variable {gone opened : List Bytes → Bool} {q q' : List Bytes}
  {name : Bytes} {n : Node}

/-- The root itself is never taken away. -/
theorem not_taken_nil : ¬ Taken gone [] := fun ⟨_, hne, hprefix, _⟩ =>
  hne (List.prefix_nil.mp hprefix)

/-- What lies below a place that is gone is gone with it. -/
theorem Taken.mono (h : Taken gone q) (hq : q <+: q') : Taken gone q' := by
  obtain ⟨place, hne, hprefix, hgone⟩ := h
  exact ⟨place, hne, hprefix.trans hq, hgone⟩

/-- A place is taken away with the first of its names or further down. -/
theorem taken_cons : Taken gone (name :: q) ↔
    gone [name] = true ∨ Taken (fun q => gone (name :: q)) q := by
  constructor
  · rintro ⟨place, hne, hprefix, hgone⟩
    cases place with
    | nil => exact absurd rfl hne
    | cons first place =>
      obtain ⟨rfl, hbelow⟩ := List.cons_prefix_cons.mp hprefix
      cases place with
      | nil => exact .inl hgone
      | cons second place =>
          exact .inr ⟨second :: place, List.cons_ne_nil _ _, hbelow, hgone⟩
  · rintro (hgone | ⟨place, -, hprefix, hgone⟩)
    · exact ⟨[name], List.cons_ne_nil _ _,
        List.cons_prefix_cons.mpr ⟨rfl, List.nil_prefix⟩, hgone⟩
    · exact ⟨name :: place, List.cons_ne_nil _ _,
        List.cons_prefix_cons.mpr ⟨rfl, hprefix⟩, hgone⟩

/-- The same for any part of the way. -/
theorem taken_append (above : List Bytes) : ∀ {gone : List Bytes → Bool},
    Taken gone (above ++ q) ↔ Taken gone above ∨
    Taken (fun below => gone (above ++ below)) q := by
  induction above with
  | nil => exact fun {gone} => (or_iff_right not_taken_nil).symm
  | cons name above ih =>
    intro gone
    rw [List.cons_append, taken_cons, taken_cons, ih, or_assoc]
    rfl

/-- Thinning leaves every node of the kind it is. -/
theorem kind_thinned (n : Node) : (n.thinned gone opened).kind = n.kind := by
  cases n with
  | file => rw [thinned]
  | link => rw [thinned]
  | directory => rw [thinned]; rfl

/-- So a directory is still one. -/
theorem isDirectory_thinned (n : Node) :
    (n.thinned gone opened).isDirectory = n.isDirectory :=
  isDirectory_of_kind_eq (kind_thinned n)

/-- Thinning changes nothing but directories. -/
theorem thinned_of_not_directory (h : n.isDirectory = false) :
    n.thinned gone opened = n := by
  cases n with
  | file => rw [thinned]
  | link => rw [thinned]
  | directory => cases h

/-- The entries of a thinned directory are its thinned entries. -/
theorem entries_thinned (n : Node) :
    (n.thinned gone opened).entries = thinnedEntries gone opened n.entries := by
  cases n with
  | file => rw [thinned]; exact (thinnedEntries.eq_1 _ _).symm
  | link => rw [thinned]; exact (thinnedEntries.eq_1 _ _).symm
  | directory => rw [thinned]; rfl

/-- An entry that stays is found as before, with less below it. -/
theorem find?_thinnedEntries : ∀ entries : Entries,
    Entries.find? name (thinnedEntries gone opened entries) =
      if gone [name] then none
      else (Entries.find? name entries).map
        (thinned (fun q => gone (name :: q)) (fun q => opened (name :: q)))
  | [] => by
    rw [thinnedEntries]
    split <;> rfl
  | (k, m) :: rest => by
    have ih := find?_thinnedEntries rest
    rw [thinnedEntries]
    by_cases hk : k = name
    · subst hk
      split
      case isTrue hgone => rw [ih, if_pos hgone]
      case isFalse =>
        rw [Entries.find?, if_pos rfl, Entries.find?, if_pos rfl]; rfl
    · rw [Entries.find?, if_neg hk, ← ih]
      split
      · rfl
      · rw [Entries.find?, if_neg hk]

/-- What is taken is not there any more. -/
theorem at?_of_taken :
    ∀ {q : List Bytes} {gone opened : List Bytes → Bool} {n : Node},
    Taken gone q → at? q (n.thinned gone opened) = none
  | [], _, _, _, h => absurd h not_taken_nil
  | name :: q, gone, opened, n, h => by
    rw [at?, entries_thinned, find?_thinnedEntries]
    rcases taken_cons.mp h with hgone | h
    · rw [if_pos hgone]
      rfl
    · split
      · rfl
      · rw [Option.bind_map]
        exact Option.bind_eq_none_iff.mpr fun m _ => at?_of_taken h

/-- What is not taken is there as before, but thinned out. -/
theorem at?_thinned :
    ∀ {q : List Bytes} {gone opened : List Bytes → Bool} {n : Node},
    ¬ Taken gone q → at? q (n.thinned gone opened) =
      (at? q n).map
        (thinned (fun below => gone (q ++ below))
          (fun below => opened (q ++ below)))
  | [], _, _, _, _ => rfl
  | name :: q, gone, opened, n, h => by
    obtain ⟨hgone, hq⟩ := not_or.mp (mt taken_cons.mpr h)
    rw [at?, at?, entries_thinned, find?_thinnedEntries, if_neg hgone,
      Option.bind_map, Option.map_bind]
    exact congrArg _ (funext fun m => at?_thinned hq)

/-- Where nothing is gone and nothing is opened, nothing changes. -/
theorem thinned_of_none (n : Node) : ∀ {gone opened : List Bytes → Bool},
    (∀ q, gone q = false) → (∀ q, opened q = false) →
    n.thinned gone opened = n := by
  induction n using Node.induction with
  | file => exact fun _ _ => thinned_of_not_directory rfl
  | link => exact fun _ _ => thinned_of_not_directory rfl
  | directory readable entries ih =>
    intro gone opened hgone hopened
    have hentries : ∀ {entries : Entries},
        (∀ entry ∈ entries, ∀ {gone opened : List Bytes → Bool},
          (∀ q, gone q = false) → (∀ q, opened q = false) →
          entry.2.thinned gone opened = entry.2) →
        thinnedEntries gone opened entries = entries := by
      intro entries h
      induction entries with
      | nil => rw [thinnedEntries]
      | cons entry rest ih =>
        obtain ⟨hentry, hrest⟩ := List.forall_mem_cons.mp h
        obtain ⟨name, n⟩ := entry
        rw [thinnedEntries, hgone, if_neg Bool.false_ne_true, ih hrest,
          hentry (fun _ => hgone _) (fun _ => hopened _)]
    rw [thinned, hopened, Bool.or_false, hentries ih]

/-- What is there in the thinned tree was there before. -/
theorem at?_thinned_eq_some {m : Node} :
    at? q (n.thinned gone opened) = some m ↔
    ¬ Taken gone q ∧ ∃ k, at? q n = some k ∧
      k.thinned (fun below => gone (q ++ below))
        (fun below => opened (q ++ below)) = m := by
  by_cases hq : Taken gone q
  · rw [at?_of_taken hq]
    exact ⟨nofun, fun h => absurd hq h.1⟩
  · rw [at?_thinned hq, Option.map_eq_some_iff, and_iff_right hq]

/-- The directories of the thinned tree are those that were there and are
not taken. -/
theorem at?_thinned_eq_directory {readable : Bool} :
    (∃ entries,
      at? q (n.thinned gone opened) = some (.directory readable entries)) ↔
      ¬ Taken gone q ∧ ∃ readable' entries',
        at? q n = some (.directory readable' entries') ∧
        (readable' || opened q) = readable := by
  constructor
  · rintro ⟨entries, hat⟩
    obtain ⟨hq, k, hk, hthinned⟩ := at?_thinned_eq_some.mp hat
    cases k with
    | file => rw [thinned] at hthinned; cases hthinned
    | link => rw [thinned] at hthinned; cases hthinned
    | directory readable' entries' =>
      rw [thinned, List.append_nil] at hthinned
      cases hthinned
      exact ⟨hq, readable', entries', hk, rfl⟩
  · rintro ⟨hq, readable', entries', hk, rfl⟩
    rw [at?_thinned hq, hk, Option.map_some, thinned, List.append_nil]
    exact ⟨_, rfl⟩

/-- A thinned directory has no entry that was not there before. -/
theorem mem_thinnedEntries {entry : Bytes × Node} : ∀ {entries : Entries},
    entry ∈ thinnedEntries gone opened entries → ∃ m, (entry.1, m) ∈ entries ∧
      entry.2 = m.thinned (fun q => gone (entry.1 :: q))
        (fun q => opened (entry.1 :: q))
  | [], h => by
    rw [thinnedEntries] at h
    cases h
  | (k, m) :: rest, h => by
    have ih (h : entry ∈ thinnedEntries gone opened rest) :=
      (mem_thinnedEntries h).imp fun _ h =>
        And.imp_left (List.mem_cons_of_mem (k, m)) h
    rw [thinnedEntries] at h
    split at h
    · exact ih h
    · rcases List.mem_cons.mp h with rfl | h
      · exact ⟨m, List.mem_cons_self, rfl⟩
      · exact ih h

/-- The names that stay keep their order. -/
theorem names_thinnedEntries : ∀ entries : Entries,
    ((thinnedEntries gone opened entries).map Prod.fst).Sublist
      (entries.map Prod.fst)
  | [] => by rw [thinnedEntries]
  | (k, m) :: rest => by
    rw [thinnedEntries]
    split
    · exact (names_thinnedEntries rest).cons k
    · exact (names_thinnedEntries rest).cons_cons k

/-- A tree of distinct names is one after it is thinned out. -/
theorem Distinct.thinned (h : n.Distinct) :
    ∀ gone opened, (n.thinned gone opened).Distinct := by
  induction h with
  | file => exact fun _ _ => by rw [Node.thinned]; exact distinct_file
  | link => exact fun _ _ => by rw [Node.thinned]; exact distinct_link
  | directory names _ ih =>
    intro gone opened
    rw [Node.thinned]
    refine .directory (names.sublist (names_thinnedEntries _))
      fun entry hentry => ?_
    obtain ⟨m, hmem, hm⟩ := mem_thinnedEntries hentry
    rw [hm]
    exact ih _ hmem _ _

end Node

namespace Files

variable {f : Files} {p : Path} {gone opened : List Bytes → Bool} {s : Trail}

-- =============================================================== thinning

/-- Files without those at some places, and with directories at some places
readable. -/
def thinned (f : Files) (gone opened : List Bytes → Bool) : Files :=
  { f with root := f.root.thinned gone opened }

/-- Nothing that the walk of a path looks at is taken. -/
def Clear (f : Files) (gone : List Bytes → Bool) (p : Path) : Prop :=
  ∀ q ∈ looks f.root linkLimit (f.start p) p.steps, ¬ Node.Taken gone q

/-- A path starts where it did. -/
theorem start_thinned (f : Files) (p : Path) :
    ((f.thinned gone opened).start p).names = (f.start p).names :=
  @start_names f (f.thinned gone opened) rfl p

/-- Wherever nothing was taken away, a place holds the kind of node it held.
-/
theorem sameKindAt_thinned (root : Node) :
    SameKindAt (fun q => ¬ Node.Taken gone q) root
      (root.thinned gone opened) := by
  intro q hq
  rw [Node.at?_thinned hq, Option.map_map]
  exact congrArg (fun g => (Node.at? q root).map g) (funext Node.kind_thinned)

/-- The start of a path that is clear of what is gone is not gone either. -/
theorem Clear.start (hclear : f.Clear gone p) (hne : p.bytes ≠ []) :
    ¬ Node.Taken gone (f.start p).names := by
  cases habsolute : p.isAbsolute with
  | true =>
    rw [Files.start, habsolute]
    exact Node.not_taken_nil
  | false =>
    apply hclear
    obtain ⟨first, rest, hsteps⟩ :=
      List.exists_cons_of_ne_nil (steps_ne_nil habsolute hne)
    obtain ⟨-, look, -, hlooks⟩ := walk_looks_eq f.root linkLimit
    rw [hsteps, hlooks, looksWith]
    exact List.mem_cons_self

/-- A course on which nothing is taken is there in the thinned tree as well. -/
theorem Course.thinned {root : Node} {t t' r : Trail} {names : List Bytes}
    {places : List (List Bytes)} {used : Nat}
    (h : Course root t names places used r) (opened : List Bytes → Bool)
    (ht : Stands root t) (ht' : Stands (root.thinned gone opened) t')
    (hnames : t'.names = t.names) (hstart : ¬ Node.Taken gone t.names)
    (hplaces : ∀ q ∈ places, ¬ Node.Taken gone q) :
    ∃ r', Course (root.thinned gone opened) t' names places used r' ∧
      r'.names = r.names ∧ ¬ Node.Taken gone r.names :=
  h.transfer (sameKindAt_thinned root)
    (fun hq hnot htaken => hnot (htaken.mono hq)) ht ht' hnames hstart hplaces

/-- And the other way round. -/
theorem Course.of_thinned {root : Node} {t t' r' : Trail} {names : List Bytes}
    {places : List (List Bytes)} {used : Nat}
    (h : Course (root.thinned gone opened) t' names places used r')
    (ht : Stands root t) (ht' : Stands (root.thinned gone opened) t')
    (hnames : t'.names = t.names) (hstart : ¬ Node.Taken gone t.names)
    (hplaces : ∀ q ∈ places, ¬ Node.Taken gone q) :
    ∃ r, Course root t names places used r ∧ r.names = r'.names ∧
      ¬ Node.Taken gone r'.names :=
  h.transfer (fun q hq => (sameKindAt_thinned root q hq).symm)
    (fun hq hnot htaken => hnot (htaken.mono hq)) ht' ht hnames.symm
    (hnames ▸ hstart) hplaces

/-- A path on whose course nothing is taken leads to the same place. -/
theorem resolve_thinned (opened : List Bytes → Bool) (hclear : f.Clear gone p)
    (h : f.resolve true p = .ok s) :
    ∃ s', (f.thinned gone opened).resolve true p = .ok s' ∧ s'.names = s.names ∧
      ¬ Node.Taken gone s.names := by
  obtain ⟨hzero, hbytes, hlength, hwalk⟩ := resolve_eq_ok.mp h
  obtain ⟨places, used, hcourse, hused⟩ := walk_eq_ok_iff.mp hwalk
  have hplaces : ∀ q ∈ places, ¬ Node.Taken gone q := by
    rw [← (hcourse.walk hused).2]
    exact hclear
  obtain ⟨s', hcourse', hnames, hs⟩ :=
    hcourse.thinned opened (start_stands f p).1
    (start_stands (f.thinned gone opened) p).1 (start_thinned f p)
    (hclear.start hbytes) hplaces
  have hwalk' := walk_eq_ok_iff.mpr ⟨places, used, hcourse', hused⟩
  exact ⟨s', resolve_eq_ok.mpr ⟨hzero, hbytes, hlength, hwalk'⟩, hnames, hs⟩

/-- What stands on a trail, thinned out. -/
theorem Stands.node_thinned {root : Node} {t t' : Trail} (ht : Stands root t)
    (ht' : Stands (root.thinned gone opened) t') (hnames : t'.names = t.names)
    (hnot : ¬ Node.Taken gone t.names) : t'.node (root.thinned gone opened) =
      (t.node root).thinned (fun q => gone (t.names ++ q))
        (fun q => opened (t.names ++ q)) := by
  rw [ht.node, ht'.node, hnames, Node.at?_thinned hnot]
  cases Node.at? t.names root with
  | some n => rfl
  | none =>
    rw [Option.map_none, Option.getD_none, Node.empty, Node.thinned,
      Node.thinnedEntries, Bool.true_or]

/-- What a path leads to, nothing being taken on its course, is thinned out. -/
theorem look_thinned (hclear : f.Clear gone p) (h : f.resolve true p = .ok s) :
    (f.thinned gone opened).look p = .ok ((s.node f.root).thinned
      (fun q => gone (s.names ++ q)) (fun q => opened (s.names ++ q))) := by
  obtain ⟨s', hresolve, hnames, hnot⟩ := resolve_thinned opened hclear h
  rw [look, hresolve]
  exact congrArg Except.ok
    ((resolve_stands h).node_thinned (resolve_stands hresolve) hnames hnot)

variable {above : List Bytes} {name : Bytes} {n : Node}

/-- Where a walk stands above something, there is something. -/
theorem isSome_of_below (hs : Stands f.root s)
    (hat : Node.at? (above ++ [name]) (s.node f.root) = some n) :
    (Node.at? s.names f.root).isSome = true := by
  rw [hs.at?_below, Node.at?_append] at hat
  exact Option.isSome_of_isSome_bind (Option.isSome_of_eq_some hat)

/-- What a course below a path looks at in the thinned tree is there, so it
is not taken. -/
theorem not_taken_of_thinned {places : List (List Bytes)} {used : Nat}
    {r' : Trail} {names : List Bytes} (hclear : f.Clear gone p)
    (hresolve : f.resolve true p = .ok s)
    (hreal : (Node.at? s.names f.root).isSome = true)
    (h : Course (f.thinned gone opened).root ((f.thinned gone opened).start p)
      (p.names ++ names)
      places used r') : ∀ q ∈ places, ¬ Node.Taken gone q := by
  obtain ⟨places₀, used₀, hroot, -, hlooks⟩ := course_of_resolve hresolve
  have hplaces₀ : ∀ q ∈ places₀, ¬ Node.Taken gone q :=
    fun q hq => hclear q (hlooks q hq)
  have hstart' := (start_stands (f.thinned gone opened) p).1
  obtain ⟨s', hroot', hs', hnot⟩ :=
    hroot.thinned opened (start_stands f p).1 hstart'
    (start_thinned f p) (hclear.start (resolve_eq_ok.mp hresolve).2.1) hplaces₀
  obtain ⟨s₁, places₁, _, places₂, _, hroot₁, hbelow, rfl, -⟩ := h.split rfl
  obtain ⟨rfl, -, rfl⟩ := hroot'.unique hroot₁
  have hreal' : (Node.at? (Trail.names s₁) (f.thinned gone opened).root).isSome
      = true := by
    rw [hs', thinned, Node.at?_thinned hnot, Option.isSome_map]
    exact hreal
  obtain ⟨hthere, -⟩ :=
    hbelow.isSome (hroot₁.kept (kept_stands _) hstart') hreal'
  intro q hq htaken
  rcases List.mem_append.mp hq with hq | hq
  · exact hplaces₀ q hq htaken
  · have hgone := hthere q hq
    rw [thinned, Node.at?_of_taken htaken] at hgone
    cases hgone

/-- The course of an entry below a path follows the path, then the entries
of the tree, and then the entry. -/
theorem course_below {places : List (List Bytes)} {used : Nat} {r : Trail}
    (hresolve : f.resolve true p = .ok s)
    (hnames : ∀ name' ∈ above, IsName name')
    (hat : Node.at? (above ++ [name]) (s.node f.root) = some n)
    (h : Course f.root (f.start p) (p.names ++ (above ++ [name]))
      places used r) :
    ∃ t places' used', Stands f.root t ∧ t.names = s.names ++ above ∧
      Course f.root t [name] places' used' r ∧ used' ≤ used ∧
      ∀ q ∈ places, q ∈ looks f.root linkLimit (f.start p) p.steps ∨
        q <+: s.names ++ above ∨ q ∈ places' := by
  obtain ⟨places₀, used₀, hroot, -, hlooks⟩ := course_of_resolve hresolve
  obtain ⟨s₁, places₁, used₁, places₂, used₂, hroot₁, hbelow, rfl, rfl⟩ :=
    h.split rfl
  obtain ⟨rfl, -, rfl⟩ := hroot.unique hroot₁
  obtain ⟨t, places₃, used₃, places₄, used₄, habove, hname, rfl, rfl⟩ :=
    hbelow.split rfl
  rw [Node.at?_concat] at hat
  obtain ⟨d, hd, hfind⟩ := Option.bind_eq_some_iff.mp hat
  obtain ⟨readable, hreadable⟩ := Node.directory_of_find? hfind
  obtain ⟨places₅, t', hcourse, -, ht, hplaces⟩ :=
    Course.along hnames hd (by rw [hreadable]; rfl)
  obtain ⟨rfl, -, rfl⟩ := hcourse.unique habove
  have hstands := habove.kept (kept_stands _) (resolve_stands hresolve)
  refine ⟨t, places₄, used₄, hstands, ht, hname, by omega, ?_⟩
  intro q hq
  rcases List.mem_append.mp hq with hq | hq
  · exact .inl (hlooks q hq)
  rcases List.mem_append.mp hq with hq | hq
  · obtain ⟨above', hprefix, rfl⟩ := hplaces q hq
    exact .inr (.inl ((List.prefix_append_right_inj _).mpr hprefix))
  · exact .inr (.inr hq)

/-- An entry below a path leads to a directory in the thinned tree if it did
before and nothing is taken on its own course. -/
theorem isDirectory_thinned (hclear : f.Clear gone p)
    (hresolve : f.resolve true p = .ok s)
    (hnames : ∀ name' ∈ above ++ [name], IsName name')
    (hat : Node.at? (above ++ [name]) (s.node f.root) = some n)
    (hkept : ¬ Node.Taken gone (s.names ++ above))
    (hcourse : f.isDirectory (p.joinNames (above ++ [name])) = true →
      ∀ {t places used r}, Stands f.root t → t.names = s.names ++ above →
        Course f.root t [name] places used r → used ≤ linkLimit →
        ∀ q ∈ places, ¬ Node.Taken gone q) :
    (f.thinned gone opened).isDirectory (p.joinNames (above ++ [name])) =
      f.isDirectory (p.joinNames (above ++ [name])) := by
  have hne : above ++ [name] ≠ [] := by simp
  have hstart := start_stands f p
  have hstart' := start_stands (f.thinned gone opened) p
  have hbase := hclear.start (resolve_eq_ok.mp hresolve).2.1
  have hdirectory {r r' : Trail} (hr : Stands f.root r)
      (hr' : Stands (f.thinned gone opened).root r') (heq : r'.names = r.names)
      (hnot : ¬ Node.Taken gone r.names) :
      (r'.node (f.thinned gone opened).root).isDirectory
        = (r.node f.root).isDirectory :=
    hr.isDirectory_congr Node.isDirectory_of_kind_eq hr' heq
      (sameKindAt_thinned f.root _ hnot)
  rw [Bool.eq_iff_iff]
  constructor
  · intro h
    rw [isDirectory_iff, steps_joinNames hne hnames, start_joinNames hnames]
      at h ⊢
    obtain ⟨hzero, hbytes, hlength, places, used, r', hjoined, hused, hr'⟩ := h
    have hreal := isSome_of_below (resolve_stands hresolve) hat
    obtain ⟨r, hr, heq, hnot⟩ :=
      hjoined.of_thinned hstart.1 hstart'.1 (start_thinned f p) hbase
        (not_taken_of_thinned hclear hresolve hreal hjoined)
    rw [hdirectory (hr.kept (kept_stands _) hstart.1)
      (hjoined.kept (kept_stands _) hstart'.1) heq.symm (heq ▸ hnot)] at hr'
    exact ⟨hzero, hbytes, hlength, places, used, r, hr, hused, hr'⟩
  · intro h
    have hpath := h
    rw [isDirectory_iff, steps_joinNames hne hnames, start_joinNames hnames]
      at h ⊢
    obtain ⟨hzero, hbytes, hlength, places, used, r, hjoined, hused, hr⟩ := h
    obtain ⟨t, places', used', ht, htnames, hname, hless, hplaces⟩ :=
      course_below hresolve
      (fun name' hname' => hnames name' (List.mem_append_left _ hname')) hat
      hjoined
    have hnot : ∀ q ∈ places, ¬ Node.Taken gone q := by
      intro q hq
      rcases hplaces q hq with hq | hq | hq
      · exact hclear q hq
      · exact fun htaken => hkept (htaken.mono hq)
      · exact hcourse hpath ht htnames hname (hless.trans hused) q hq
    obtain ⟨r', hr', heq, hrnot⟩ := hjoined.thinned opened hstart.1 hstart'.1
      (start_thinned f p) hbase hnot
    rw [← hdirectory (hjoined.kept (kept_stands _) hstart.1)
      (hr'.kept (kept_stands _) hstart'.1) heq hrnot] at hr
    exact ⟨hzero, hbytes, hlength, places, used, r', hr', hused, hr⟩

end Files

end Restoration
