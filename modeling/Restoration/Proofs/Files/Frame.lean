/-
The entry that a path names, and what a removal leaves alone.

Slashes at the end of a path do not change which entry it names (`named?`),
but they can change where it leads: behind a slash a link is followed. So a
removal is made at the entry that its path names (`named?_of_resolve`),
unless that is a link with a slash behind it.

Wherever a removal is made, nothing else is changed by it: by themselves all
nodes elsewhere are as before (`removeAll_sameOutside`). An emptied directory
is taken out under its path once more. By then that walk is made in another
tree, but one that agrees with the first wherever both have something
(`removeAll_agree`), and so the walk ends at the same entry.
-/
import Restoration.Proofs.Files.Walk

namespace Restoration

-- ================================================================= edits

/-- A name that was dropped is not found. -/
theorem Entries.find?_drop_self (name : Bytes) : ∀ entries : Entries,
    Entries.find? name (Entries.drop name entries) = none
  | [] => rfl
  | (k, m) :: rest => by
    have ih := find?_drop_self name rest
    unfold drop at ih ⊢
    rw [List.filter_cons]
    split
    case isTrue hk => rw [find?, if_neg (by simpa using hk), ih]
    case isFalse => exact ih

namespace Node

/-- An edit below a node leaves the node itself as it is. -/
theorem bare_edit (change : Entries → Entries) (names : List Bytes) (n : Node) :
    (edit change names n).bare = n.bare := by
  cases n with
  | file => cases names <;> rfl
  | link => cases names <;> rfl
  | directory readable es =>
    cases names with
    | nil => rfl
    | cons name names =>
      rw [edit]
      cases Entries.find? name es <;> rfl

variable {name : Bytes} {change : Entries → Entries}
  {above below q : List Bytes}

/-- By themselves nodes are as before, except at the entry that is changed
and below it. -/
theorem bare_at?_edit (h : OnlyAt name change) (n : Node)
    (hnot : ¬ above ++ [name] <+: q) :
    (at? q (edit change above n)).map bare = (at? q n).map bare := by
  by_cases hway : q <+: above ++ [name]
  · rcases List.prefix_concat_iff.mp hway with rfl | hway
    · exact absurd (List.prefix_refl _) hnot
    · obtain ⟨rest, rfl⟩ := hway
      rw [at?_edit_append, Option.map_map]
      exact congrArg (fun g => (at? q n).map g)
        (funext fun m => bare_edit change rest m)
  · rw [at?_edit_of_apart h hnot hway]

/-- What is below the edited directory is looked up in its new entries. -/
theorem at?_edit_entry (change : Entries → Entries) (above : List Bytes)
    (name : Bytes) (below : List Bytes) (n : Node) :
    at? (above ++ name :: below) (edit change above n)
      = (at? above n).bind fun m =>
      match m with
      | .directory _ es => (Entries.find? name (change es)).bind (at? below)
      | _ => none := by
  have habove := at?_edit_append change above [] n
  rw [List.append_nil] at habove
  rw [at?_append, habove]
  cases at? above n with
  | none => rfl
  | some m => cases m <;> rfl

/-- Below an entry that is put in there is what it brings. -/
theorem at?_of_edit_put {m k n : Node}
    (h : at? (above ++ name :: below)
      (edit (Entries.put name m) above n) = some k) :
    at? below m = some k := by
  rw [at?_edit_entry, Option.bind_eq_some_iff] at h
  obtain ⟨d, -, h⟩ := h
  split at h
  · rwa [Entries.find?_put_self] at h
  · cases h

/-- Nothing is left below a name that was dropped. -/
theorem at?_edit_drop (n : Node) :
    at? (above ++ name :: below) (edit (Entries.drop name) above n) = none := by
  rw [at?_edit_entry]
  cases at? above n with
  | none => rfl
  | some m =>
    cases m with
    | directory readable es =>
      rw [Option.bind_some]
      dsimp only
      rw [Entries.find?_drop_self]
      rfl
    | file => rfl
    | link => rfl

/-- A directory is emptied if it may be read. -/
theorem bare_of_remains {readable : Bool} {es : Entries}
    (h : (Node.directory readable es).remains = none) :
    (Node.directory readable es).bare = .empty := by
  cases readable with
  | true => rfl
  | false => cases h

end Node

namespace Files

-- ================================================================ frames

/-- By themselves all nodes outside are the same, and so is the working
directory. -/
structure SameOutside (inside : List Bytes → Prop) (f f' : Files) : Prop where
  workingDirectory : f'.workingDirectory = f.workingDirectory
  alike : AlikeAt (fun q => ¬ inside q) f.root f'.root

variable {inside inside' : List Bytes → Prop} {f f' f'' : Files}

/-- Files are the same as themselves everywhere. -/
theorem SameOutside.refl (inside : List Bytes → Prop) (f : Files) :
    SameOutside inside f f :=
  ⟨rfl, fun _ _ => rfl⟩

/-- Two changes inside the same places are one such change. -/
theorem SameOutside.trans (h : SameOutside inside f f')
    (h' : SameOutside inside f' f'') :
    SameOutside inside f f'' :=
  ⟨h'.workingDirectory.trans h.workingDirectory,
    fun q hq => (h'.alike q hq).trans (h.alike q hq)⟩

/-- A change inside some places is a change inside any wider ones. -/
theorem SameOutside.mono (h : SameOutside inside f f')
    (hmore : ∀ q, inside q → inside' q) :
    SameOutside inside' f f' :=
  ⟨h.workingDirectory, fun q hq => h.alike q fun hin => hq (hmore q hin)⟩

/-- An edit shows at the entry that it changes. -/
theorem sameOutside_edit (f : Files) {t : Trail} {name : Bytes}
    {change : Entries → Entries} (h : Node.OnlyAt name change) :
    SameOutside (t.names ++ [name] <+: ·) f (f.edit t change) :=
  ⟨rfl, fun _ hq => Node.bare_at?_edit h f.root hq⟩

-- ================================================================= agree

variable {root root' : Node}

/-- A tree agrees with itself. -/
theorem Agree.refl (root : Node) : Agree root root := by
  intro q n n' hat hat'
  rw [hat] at hat'
  cases hat'
  rfl

/-- Taking something out keeps two trees in agreement. -/
theorem Agree.edit_drop (h : Agree root root') (above : List Bytes)
    (name : Bytes) :
    Agree root (Node.edit (Entries.drop name) above root') := by
  intro q n n' hat hat'
  by_cases hin : above ++ [name] <+: q
  · obtain ⟨below, rfl⟩ := hin
    rw [List.append_assoc, List.singleton_append, Node.at?_edit_drop] at hat'
    cases hat'
  · have hbare := Node.bare_at?_edit (Node.onlyAt_drop name) root' hin
    rw [hat', Option.map_some, eq_comm, Option.map_eq_some_iff] at hbare
    obtain ⟨m, hm, hbare⟩ := hbare
    rw [← hbare]
    exact h q n m hat hm

/-- So does emptying a directory that may be read. -/
theorem agree_edit_empty {above : Trail} {name : Bytes} {n : Node}
    (hstands : Stands root ((name, n) :: above))
    (hempty : n.bare = Node.empty) :
    Agree root (Node.edit (Entries.put name .empty) above.names root) := by
  intro q m m' hat hat'
  by_cases hin : above.names ++ [name] <+: q
  · obtain ⟨below, rfl⟩ := hin
    rw [List.append_assoc, List.singleton_append] at hat'
    have hbelow := Node.at?_of_edit_put hat'
    cases below with
    | cons => cases hbelow
    | nil =>
      cases hbelow
      have hnode := hstands.node
      rw [List.append_nil] at hat
      rw [Trail.names_cons, hat] at hnode
      cases hnode
      exact hempty.symm
  · have hbare := Node.bare_at?_edit (Node.onlyAt_put name .empty) root hin
    rw [hat, hat'] at hbare
    exact Option.some.inj hbare

-- ================================================================= names

/-- The place of a name in the directory at a place. -/
def child (above : List Bytes) (name : Bytes) : List Bytes :=
  if name = Path.dot then above
  else if name = Path.dots then above.dropLast
  else above ++ [name]

/-- A name other than `.` and `..` stands for the entry of that name. -/
theorem child_of_ne {name : Bytes} (hdot : name ≠ Path.dot)
    (hdots : name ≠ Path.dots) (above : List Bytes) :
    child above name = above ++ [name] := by
  rw [child, if_neg hdot, if_neg hdots]

/-- A walk ends at the place of its last name, unless it follows a link
there. -/
theorem walk_concat {followLast : Bool} {links : Nat} {before : List Bytes}
    {name : Bytes} {t r : Trail} (ht : Stands root t)
    (h : walk root followLast links t (before ++ [name]) = .ok r) :
    ∃ above, walk root true links t before = .ok above ∧
      ((followLast = true →
          ∀ target,
            Node.at? (child above.names name) root ≠ some (.link target)) →
        r.names = child above.names name) := by
  obtain ⟨above, left, hbefore, hname⟩ :=
    walk_split (.inl (List.cons_ne_nil name [])) links h
  have habove : Stands root above := (kept_stands root).walk ht hbefore
  refine ⟨above, hbefore, fun hlink => ?_⟩
  obtain ⟨-, hr⟩ := walk_name hname
  by_cases hdot : name = Path.dot
  · rw [if_pos hdot] at hr
    rw [hr, child, if_pos hdot]
  by_cases hdots : name = Path.dots
  · rw [if_neg hdot, if_pos hdots] at hr
    rw [hr, child, if_neg hdot, if_pos hdots, Trail.names_tail]
  · rw [if_neg hdot, if_neg hdots] at hr
    obtain ⟨n, hfind, hr⟩ := hr
    rw [child_of_ne hdot hdots] at hlink ⊢
    rw [hr, Trail.names_cons]
    cases followLast with
    | false => exact .inr rfl
    | true =>
      refine .inl ?_
      rintro target rfl
      exact hlink rfl target (habove.at? hfind)

variable {p : Path} {before : List Bytes} {name : Bytes}

/-- Only a path without names has no last one. -/
theorem lastName_eq_none (h : lastName p = none) : p.names = [] := by
  unfold lastName at h
  split at h
  · rename_i hreverse
    exact List.reverse_eq_nil_iff.mp hreverse
  · cases h

/-- What a path leads to stands in the tree. -/
theorem resolve_stands {followLast : Bool} {r : Trail}
    (h : f.resolve followLast p = .ok r) :
    Stands f.root r :=
  (kept_stands f.root).walk (start_stands f p).1 (resolve_eq_ok.mp h).2.2.2

/-- On the way somewhere a path leads to the directory of its last name, and
goes on from there. -/
theorem resolve_split {followLast : Bool} {r : Trail}
    (hlast : lastName p = some (before, name))
    (h : f.resolve followLast p = .ok r) :
    ∃ above left rest,
      walk f.root true linkLimit (f.start p) before = .ok above ∧
      walk f.root followLast left above (name :: rest) = .ok r := by
  obtain ⟨-, -, -, hwalk⟩ := resolve_eq_ok.mp h
  obtain ⟨rest, hsteps⟩ : ∃ rest, p.steps = before ++ name :: rest := by
    rcases steps_cases p with hsteps | hsteps <;>
      rw [hsteps, lastName_eq_some hlast]
    · exact ⟨[], rfl⟩
    · exact ⟨[Path.dot], by rw [List.append_assoc]; rfl⟩
  rw [hsteps] at hwalk
  obtain ⟨above, left, hbefore, hname⟩ :=
    walk_split (.inl (List.cons_ne_nil _ _)) linkLimit hwalk
  exact ⟨above, left, rest, hbefore, hname⟩

/-- A path that resolves leads to the directory of its last name first. -/
theorem walk_of_resolve {followLast : Bool} {r : Trail}
    (hlast : lastName p = some (before, name))
    (h : f.resolve followLast p = .ok r) :
    ∃ above, walk f.root true linkLimit (f.start p) before = .ok above := by
  obtain ⟨above, left, rest, hbefore, -⟩ := resolve_split hlast h
  exact ⟨above, hbefore⟩

/-- And on to its last name, unless that is a link with a slash behind it. -/
theorem names_of_resolve {r above : Trail}
    (hlast : lastName p = some (before, name)) (h : f.resolve false p = .ok r)
    (habove : walk f.root true linkLimit (f.start p) before = .ok above)
    (hlink : p.endsInSlash = true →
      ∀ target,
        Node.at? (child above.names name) f.root ≠ some (.link target)) :
    r.names = child above.names name := by
  obtain ⟨-, -, -, hwalk⟩ := resolve_eq_ok.mp h
  have hstart := (start_stands f p).1
  have hnames := lastName_eq_some hlast
  unfold Path.steps at hwalk
  split at hwalk
  case isFalse hslash =>
    rw [hnames] at hwalk
    obtain ⟨above', habove', hr⟩ := walk_concat hstart hwalk
    rw [habove] at habove'
    cases habove'
    exact hr fun h => by cases h
  case isTrue hslash =>
    obtain ⟨r', left, hwalk', hdot⟩ :=
      walk_split (.inl (List.cons_ne_nil _ [])) linkLimit hwalk
    have hr : r = r' := by simpa using (walk_name hdot).2
    rw [hnames] at hwalk'
    obtain ⟨above', habove', hr'⟩ := walk_concat hstart hwalk'
    rw [habove] at habove'
    cases habove'
    rw [hr]
    exact hr' fun _ => hlink hslash

/-- The place of the entry that a path names, its slashes not counted. -/
def named? (f : Files) (p : Path) : Option (List Bytes) :=
  if p.bytes = [] then none
  else
    match lastName p with
    | none => some (f.base p)
    | some (before, name) =>
      match walk f.root true linkLimit (f.start p) before with
      | .ok above => some (child above.names name)
      | .error _ => none

/-- The place that a path names: the entry of its last name in whatever
directory the names before it lead to. -/
theorem named?_eq_some {place : List Bytes} :
    f.named? p = some place ↔ p.bytes ≠ [] ∧
      ((lastName p = none ∧ place = f.base p) ∨
        ∃ before name above, lastName p = some (before, name) ∧
          walk f.root true linkLimit (f.start p) before = .ok above ∧
          place = child above.names name) := by
  unfold named?
  split
  case isTrue hempty => exact ⟨nofun, fun h => absurd hempty h.1⟩
  case isFalse hne =>
    cases lastName p with
    | none => simp [hne, eq_comm]
    | some entry =>
      obtain ⟨before, name⟩ := entry
      dsimp only
      cases hwalk : walk f.root true linkLimit (f.start p) before with
      | error => simp [hwalk]
      | ok above => simp [hne, hwalk, eq_comm]

/-- What is at the entry that a path names, or below it. -/
def Inside (f : Files) (p : Path) (q : List Bytes) : Prop :=
  ∃ place, f.named? p = some place ∧ place <+: q

/-- What is where a path leads, or below that. -/
def Reaches (f : Files) (p : Path) (q : List Bytes) : Prop :=
  ∃ t, f.resolve false p = .ok t ∧ t.names <+: q

/-- A path that names a link, with a slash at the end that has it followed. -/
def LinkBehindSlash (f : Files) (p : Path) : Prop :=
  p.endsInSlash = true ∧
    ∃ place target, f.named? p = some place ∧
      Node.at? place f.root = some (.link target)

/-- A path leads to the entry that it names, unless that is a link with a
slash behind it. -/
theorem named?_of_resolve {r : Trail} (h : f.resolve false p = .ok r)
    (hlink : ¬ f.LinkBehindSlash p) : f.named? p = some r.names := by
  obtain ⟨-, hbytes, -, hwalk⟩ := resolve_eq_ok.mp h
  cases hlast : lastName p with
  | none =>
    refine named?_eq_some.mpr ⟨hbytes, .inl ⟨hlast, ?_⟩⟩
    have hnames := lastName_eq_none hlast
    have hr : r = f.start p := by
      rcases steps_cases p with hsteps | hsteps <;> rw [hsteps, hnames] at hwalk
      · cases hwalk
        rfl
      · simpa using (walk_name hwalk).2
    rw [hr, (start_stands f p).2]
  | some entry =>
    obtain ⟨before, name⟩ := entry
    obtain ⟨above, habove⟩ := walk_of_resolve hlast h
    have hnamed : f.named? p = some (child above.names name) :=
      named?_eq_some.mpr
        ⟨hbytes, .inr ⟨before, name, above, hlast, habove, rfl⟩⟩
    rw [hnamed, names_of_resolve hlast h habove]
    exact fun hslash target hat => hlink ⟨hslash, _, target, hnamed, hat⟩

/-- What a path reaches is inside the place it names, unless a slash at its
end has it follow a link. -/
theorem inside_of_reaches (hlink : ¬ f.LinkBehindSlash p) {q : List Bytes}
    (h : f.Reaches p q) :
    f.Inside p q := by
  obtain ⟨t, hresolve, hq⟩ := h
  exact ⟨t.names, named?_of_resolve hresolve hlink, hq⟩

-- =============================================================== renamed

/-- Where a path starts depends on the working directory alone. -/
theorem base_eq (h : f'.workingDirectory = f.workingDirectory) (p : Path) :
    f'.base p = f.base p := by
  rw [base, base, h]

/-- The same of the trail it starts on. -/
theorem start_names (h : f'.workingDirectory = f.workingDirectory) (p : Path) :
    (f'.start p).names = (f.start p).names := by
  rw [(start_stands f' p).2, (start_stands f p).2, base_eq h]

/-- In a tree that agrees with one where it leads somewhere, a path names
the same entry. -/
theorem named?_of_agree (hdirectory : f'.workingDirectory = f.workingDirectory)
    (hagree : Agree f.root f'.root) {followLast : Bool} {r : Trail}
    (hresolve : f.resolve followLast p = .ok r) {place : List Bytes}
    (h : f'.named? p = some place) : f.named? p = some place := by
  obtain ⟨hbytes, ⟨hlast, rfl⟩ | ⟨before, name, above', hlast, habove', rfl⟩⟩ :=
    named?_eq_some.mp h
  · exact named?_eq_some.mpr ⟨hbytes, .inl ⟨hlast, base_eq hdirectory p⟩⟩
  · obtain ⟨above, habove⟩ := walk_of_resolve hlast hresolve
    have hnames :=
      walk_agree hagree linkLimit (start_stands f p).1 (start_stands f' p).1
      (start_names hdirectory p) habove habove'
    rw [hnames]
    exact named?_eq_some.mpr
      ⟨hbytes, .inr ⟨before, name, above, hlast, habove, rfl⟩⟩

/-- The places where is looked for the entry that a path names. -/
def way (f : Files) (p : Path) : List (List Bytes) :=
  match lastName p with
  | none => []
  | some (before, _) => looks f.root linkLimit (f.start p) before

/-- A path that is not on its own way. -/
def Aside (f : Files) (p : Path) : Prop := ∀ q ∈ f.way p, ¬ f.Inside p q

/-- Where all nodes outside are the same, such a path names the same entry. -/
theorem named?_of_sameOutside (h : SameOutside (f.Inside p) f f')
    (haside : f.Aside p) {place : List Bytes}
    (hnamed : f'.named? p = some place) : f.named? p = some place := by
  obtain ⟨hbytes, ⟨hlast, rfl⟩ | ⟨before, name, above', hlast, habove', rfl⟩⟩ :=
    named?_eq_some.mp hnamed
  · exact named?_eq_some.mpr
      ⟨hbytes, .inl ⟨hlast, base_eq h.workingDirectory p⟩⟩
  have hstands := (start_stands f p).1
  have hstands' := (start_stands f' p).1
  have hnames := start_names h.workingDirectory p
  cases habove : walk f.root true linkLimit (f.start p) before with
  | ok above =>
    have hlooks : ∀ q ∈ looks f.root linkLimit (f.start p) before,
        ¬ f.Inside p q := by
      rw [Aside, way, hlast] at haside
      exact haside
    obtain ⟨r', hr', hsame⟩ :=
      walk_alike h.alike linkLimit hstands hstands' hnames hlooks habove
    rw [habove'] at hr'
    cases hr'
    rw [hsame]
    exact named?_eq_some.mpr
      ⟨hbytes, .inr ⟨before, name, above, hlast, habove, rfl⟩⟩
  | error reason =>
    -- the path named nothing, so nothing is excepted and it still names nothing
    have hnone (q : List Bytes) : ¬ f.Inside p q := by
      rintro ⟨place, hplace, -⟩
      obtain ⟨-, ⟨hlast', -⟩ | ⟨before', name', above, hlast', habove'', -⟩⟩ :=
        named?_eq_some.mp hplace
      · rw [hlast] at hlast'
        cases hlast'
      · rw [hlast] at hlast'
        cases hlast'
        rw [habove] at habove''
        cases habove''
    have hback : AlikeAt (fun _ => True) f'.root f.root :=
      fun q _ => (h.alike q (hnone q)).symm
    obtain ⟨r, hr, -⟩ := walk_alike hback linkLimit hstands' hstands hnames.symm
      (fun _ _ => trivial) habove'
    rw [habove] at hr
    cases hr

-- =============================================================== removal

/-- A directory that was emptied is taken out where it was emptied. -/
theorem removeEmpty_place
    (hdirectory : f'.workingDirectory = f.workingDirectory)
    (hagree : Agree f.root f'.root) {r : Trail}
    (hresolve : f.resolve false p = .ok r) (h : f'.removeEmpty p = .ok f'') :
    ∃ above name, r.names = Trail.names above ++ [name] ∧
      f'' = f'.edit above (Entries.drop name) := by
  obtain ⟨before, name, above', hlast, hdot, hdots, habove',
      ⟨readable, hfind⟩, rfl⟩ :=
    removeEmpty_cases h
  obtain ⟨above, habove⟩ := walk_of_resolve hlast hresolve
  have hstands' := (kept_stands f'.root).walk (start_stands f' p).1 habove'
  have hnames :=
    walk_agree hagree linkLimit (start_stands f p).1 (start_stands f' p).1
    (start_names hdirectory p) habove habove'
  have hlink (target : Path) : Node.at? (child above.names name) f.root
      ≠ some (.link target) := by
    rw [child_of_ne hdot hdots, ← hnames]
    intro hat
    cases hagree _ _ _ hat (hstands'.at? hfind)
  refine ⟨above', name, ?_, rfl⟩
  rw [names_of_resolve hlast hresolve habove fun _ => hlink,
    child_of_ne hdot hdots, ← hnames]

/-- Removing an empty directory changes nothing but that directory. -/
theorem removeEmpty_sameOutside
    (hdirectory : f'.workingDirectory = f.workingDirectory)
    (hagree : Agree f.root f'.root) {r : Trail}
    (hresolve : f.resolve false p = .ok r) (h : f'.removeEmpty p = .ok f'') :
    SameOutside (r.names <+: ·) f' f'' := by
  obtain ⟨above, name, hnames, rfl⟩ :=
    removeEmpty_place hdirectory hagree hresolve h
  rw [hnames]
  exact sameOutside_edit f' (Node.onlyAt_drop name)

/-- A removal changes nothing but what is where its path leads, or below
that. -/
theorem removeAll_sameOutside (f : Files) (p : Path) :
    SameOutside (f.Reaches p) f (f.removeAll p).files := by
  unfold removeAll
  split
  case h_1 => exact .refl _ _
  case h_2 hresolve =>
    exact ⟨rfl, fun q hq => absurd ⟨[], hresolve, List.nil_prefix⟩ hq⟩
  case h_3 name n above hresolve =>
    have hreaches (q : List Bytes)
        (hq : Trail.names ((name, n) :: above) <+: q) : f.Reaches p q :=
      ⟨_, hresolve, hq⟩
    have hedit {change : Entries → Entries} (h : Node.OnlyAt name change) :
        SameOutside (f.Reaches p) f (f.edit above change) := by
      rw [Trail.names_cons] at hreaches
      exact (sameOutside_edit f h).mono hreaches
    split
    case h_1 => exact hedit (Node.onlyAt_drop name)
    case h_2 => exact .refl _ _
    case h_3 readable es =>
      split
      case h_1 m reason hremains => exact hedit (Node.onlyAt_put name m)
      case h_2 hremains =>
        have hemptied := hedit (Node.onlyAt_put name .empty)
        have hagree :=
          agree_edit_empty (resolve_stands hresolve)
            (Node.bare_of_remains hremains)
        dsimp only
        split
        case h_1 f' hempty =>
          have hagain :=
            removeEmpty_sameOutside hemptied.workingDirectory hagree
              hresolve hempty
          exact hemptied.trans (hagain.mono hreaches)
        case h_2 => exact hemptied
        case h_3 => exact hemptied

/-- Where a removal succeeds, nothing is put in. -/
theorem removeAll_agree (h : (f.removeAll p).result = .ok ()) :
    Agree f.root (f.removeAll p).files.root := by
  revert h
  unfold removeAll
  split
  case h_1 => exact fun h => by cases h
  case h_2 => exact fun h => by cases h
  case h_3 name n above hresolve =>
    split
    case h_1 => exact fun _ =>
      (Agree.refl f.root).edit_drop (Trail.names above) name
    case h_2 => exact fun h => by cases h
    case h_3 readable es =>
      split
      case h_1 => exact fun h => by cases h
      case h_2 hremains =>
        have hagree :=
          agree_edit_empty (resolve_stands hresolve)
            (Node.bare_of_remains hremains)
        dsimp only
        split
        case h_1 f' hempty =>
          obtain ⟨before, last, t, -, -, -, -, -, rfl⟩ :=
            removeEmpty_cases hempty
          exact fun _ => hagree.edit_drop t.names last
        case h_2 => exact fun _ => hagree
        case h_3 => exact fun h => by cases h

end Files

end Restoration
