/-
Files under names that nobody has used.

Where a name is new (`Fresh`) nothing has been looked up under it, so a walk
that gets to its end gets there as well when something has been put in under
the name (`Course.edit`). A file that is put in is found under its path from
then on (`Fresh.look_put`), and what other paths led to before stays where it
is (`Fresh.look_put_of_file`). Taking the file out again gives back the tree
as it was (`Fresh.drop_put`), but for what has been put in beside it
(`Fresh.drop_put_put`).
-/
import Restoration.Proofs.Files.Course

namespace Restoration

-- =============================================================== entries

namespace Entries

variable {name other : Bytes} {n m : Node}

/-- Dropping a name that is not there changes nothing. -/
theorem drop_of_find?_none : ∀ {entries : Entries}, find? name entries = none →
    drop name entries = entries
  | [], _ => rfl
  | (k, m) :: rest, h => by
    rw [find?] at h
    split at h
    case isTrue => cases h
    case isFalse hk =>
      have ih := drop_of_find?_none h
      unfold drop at ih ⊢
      rw [List.filter_cons_of_pos (by simpa using hk), ih]

/-- A new entry is taken out again. -/
theorem drop_put : ∀ {entries : Entries}, find? name entries = none →
    drop name (put name n entries) = entries
  | [], _ => by
    rw [put, drop, List.filter_cons_of_neg (by simp)]
    rfl
  | (k, m) :: rest, h => by
    rw [find?] at h
    split at h
    case isTrue => cases h
    case isFalse hk =>
      have ih : drop name (put name n rest) = rest := drop_put h
      unfold drop at ih ⊢
      rw [put, if_neg hk, List.filter_cons_of_pos (by simpa using hk), ih]

/-- One entry is taken out before or after another one is put in. -/
theorem drop_put_of_ne (hne : other ≠ name) : ∀ entries : Entries,
    drop name (put other n entries) = put other n (drop name entries)
  | [] => by
    rw [put, drop, List.filter_cons_of_pos (by simpa using hne)]
    rfl
  | (k, m) :: rest => by
    have ih := drop_put_of_ne hne rest
    unfold drop at ih ⊢
    rw [put]
    split
    case isTrue hk =>
      have hkept : k ≠ name := hk ▸ hne
      rw [List.filter_cons_of_pos (by simpa using hkept),
        List.filter_cons_of_pos (by simpa using hkept), put, if_pos hk]
    case isFalse hk =>
      by_cases hgone : k = name
      · rw [List.filter_cons_of_neg (by simpa using hgone),
          List.filter_cons_of_neg (by simpa using hgone), ih]
      · rw [List.filter_cons_of_pos (by simpa using hgone),
          List.filter_cons_of_pos (by simpa using hgone), put, if_neg hk, ih]

/-- Of two things put under one name the later stays. -/
theorem put_put : ∀ entries :
    Entries, put name m (put name n entries) = put name m entries
  | [] => by rw [put, put, put, if_pos rfl]
  | (k, l) :: rest => by
    rw [put]
    split
    case isTrue hk => rw [put, if_pos hk, put, if_pos hk]
    case isFalse hk => rw [put, if_neg hk, put_put rest, put, if_neg hk]

/-- Nor does it change anything to put what is there already. -/
theorem put_of_find? : ∀ {entries : Entries}, find? name entries = some n →
    put name n entries = entries
  | [], h => nomatch h
  | (k, l) :: rest, h => by
    rw [find?] at h
    rw [put]
    split at h
    case isTrue hk => rw [if_pos hk, Option.some.inj h]
    case isFalse hk => rw [if_neg hk, put_of_find? h]

end Entries

-- ================================================================= edits

namespace Node

/-- Two edits of one directory are one. -/
theorem edit_edit (change change' : Entries → Entries) :
    ∀ (names : List Bytes) (n : Node),
      edit change' names (edit change names n) = edit (change' ∘ change) names n
  | names, .file .. => by cases names <;> rfl
  | names, .link _ => by cases names <;> rfl
  | [], .directory .. => rfl
  | name :: names, .directory readable es => by
    rw [edit, edit]
    cases hfind : Entries.find? name es with
    | none =>
      dsimp only
      rw [edit, hfind]
    | some m =>
      dsimp only
      rw [edit, Entries.find?_put_self]
      dsimp only
      rw [Entries.put_put, edit_edit change change' names m]

/-- An edit that leaves the entries of its directory as they are leaves the
tree as it is. -/
theorem edit_eq_self {change : Entries → Entries} {readable : Bool}
    {entries : Entries} (hchange : change entries = entries) :
    ∀ {names : List Bytes} {n : Node},
      at? names n = some (.directory readable entries) → edit change names n = n
  | [], n, h => by
    cases h
    rw [edit, hchange]
  | name :: names, n, h => by
    obtain ⟨m, hfind, hm⟩ := Option.bind_eq_some_iff.mp h
    obtain ⟨readable', hn⟩ := directory_of_find? hfind
    rw [hn, edit, hfind]
    dsimp only
    rw [edit_eq_self hchange hm, Entries.put_of_find? hfind]

/-- The kind of a node does not depend on what is below it. -/
theorem kind_bare (n : Node) : n.bare.kind = n.kind := by cases n <;> rfl

/-- A file is all there is to know about its node. -/
theorem bare_eq_file {n : Node} {contents : Bytes} {executable : Bool}
    (h : n.bare = .file contents executable) :
    n = .file contents executable := by
  cases n with
  | directory => cases h
  | file => exact h
  | link => cases h

/-- Of a directory only the entries are not known from its bare node. -/
theorem bare_eq_directory {n : Node} {readable : Bool} {entries : Entries}
    (h : n.bare = (Node.directory readable entries).bare) :
    ∃ entries', n = .directory readable entries' := by
  cases n with
  | directory => cases h; exact ⟨_, rfl⟩
  | file => cases h
  | link => cases h

/-- Where nothing is, nothing is below. -/
theorem at?_below_none {names below : List Bytes} {n : Node}
    (h : at? names n = none) :
    at? (names ++ below) n = none := by
  rw [at?_append, h]
  rfl

/-- A name is nowhere below a directory if no entry has it, here and below. -/
theorem at?_none_of_entries {name : Bytes} {readable : Bool} {entries : Entries}
    (h : ∀ entry ∈ entries, entry.1 ≠ name ∧
      ∀ above, at? (above ++ [name]) entry.2 = none) :
    ∀ above, at? (above ++ [name]) (.directory readable entries) = none
  | [] => by
    cases hfind : Entries.find? name entries with
    | none =>
      rw [List.nil_append, at?, show (directory readable entries).entries
          = entries from rfl, hfind]
      rfl
    | some m => exact absurd rfl (h _ (Entries.mem_of_find? hfind)).1
  | first :: above => by
    rw [List.cons_append, at?, show (directory readable entries).entries
        = entries from rfl]
    cases hfind : Entries.find? first entries with
    | none => rfl
    | some m => exact (h _ (Entries.mem_of_find? hfind)).2 above

@[simp] theorem at?_file {name : Bytes} {contents : Bytes} {executable : Bool}
    (above : List Bytes) :
    at? (above ++ [name]) (.file contents executable) = none := by
  cases above <;> rfl

end Node

namespace Files

variable {root : Node} {t t' r : Trail} {names above : List Bytes}
  {name other : Bytes} {places : List (List Bytes)} {used : Nat}
  {change : Entries → Entries}

/-- A walk that gets to its end gets there as well after an edit under a name
that was not there. -/
theorem Course.edit (hchange : Node.OnlyAt name change)
    (hnone : Node.at? (above ++ [name]) root = none)
    (h : Course root t names places used r) (ht : Stands root t)
    (ht' : Stands (Node.edit change above root) t')
    (hnames : t'.names = t.names) (hstart : ¬ above ++ [name] <+: t.names) :
    ∃ r', Course (Node.edit change above root) t' names places used r' ∧
      r'.names = r.names ∧ ¬ above ++ [name] <+: r.names := by
  have hkind : SameKindAt (fun q => ¬ above ++ [name] <+: q) root
      (Node.edit change above root) := by
    intro q hq
    have hbare :=
      congrArg (Option.map Node.kind) (Node.bare_at?_edit hchange root hq)
    rwa [Option.map_map, Option.map_map,
      funext (f := Node.kind ∘ Node.bare) Node.kind_bare] at hbare
  have habove {q q' : List Bytes} (hq : q' <+: q)
      (h : ¬ above ++ [name] <+: q) :
      ¬ above ++ [name] <+: q' := fun hbelow => h (hbelow.trans hq)
  have hat (q : List Bytes) (hq : (Node.at? q root).isSome = true) :
      ¬ above ++ [name] <+: q := by
    rintro ⟨below, rfl⟩
    rw [Node.at?_below_none hnone] at hq
    cases hq
  exact h.transfer hkind habove ht ht' hnames hstart
    (h.within hat habove ht hstart).1

-- ================================================================ holder

variable {f g : Files} {directory p : Path} {n : Node}

/-- When a directory can hold a file of a given name: the path has a text
that can be looked up, it leads to a directory, and the name is not too
long. -/
theorem holder_eq_ok : f.holder directory name = .ok t ↔
    (directory.join ⟨name⟩).bytes.contains 0 = false ∧
      (directory.join ⟨name⟩).bytes.length ≤ longestPath ∧
      walk f.root true linkLimit (f.start (directory.join ⟨name⟩))
        directory.names = .ok t ∧
      (∃ readable entries,
        Node.at? t.names f.root = some (.directory readable entries)) ∧
      name.length ≤ longestName := by
  unfold holder
  dsimp only
  split
  case isTrue hzero => exact ⟨nofun, fun h => by rw [hzero] at h; cases h.1⟩
  case isFalse hzero =>
  split
  case isTrue hlong =>
    exact ⟨nofun, fun h => absurd h.2.1 (Nat.not_le.mpr hlong)⟩
  case isFalse hlong =>
  have hplain : (directory.join ⟨name⟩).bytes.contains 0 = false ∧
      (directory.join ⟨name⟩).bytes.length ≤ longestPath :=
    ⟨Bool.not_eq_true _ ▸ hzero, Nat.not_lt.mp hlong⟩
  rw [← and_assoc, and_iff_right hplain]
  unfold start
  cases walk f.root true linkLimit
      (if (directory.join ⟨name⟩).isAbsolute then [] else f.here)
      directory.names with
  | error reason => exact ⟨nofun, fun h => nomatch h.1⟩
  | ok s =>
    -- what is left to say is what stands there
    rw [Except.ok.injEq]
    dsimp only [bind, Except.bind]
    split
    case h_1 readable entries hat =>
      split
      case isTrue hlong =>
        exact ⟨nofun, fun h => absurd h.2.2 (Nat.not_le.mpr hlong)⟩
      case isFalse hshort =>
        constructor
        · rintro ⟨⟩
          exact ⟨rfl, ⟨readable, entries, hat⟩, Nat.not_lt.mp hshort⟩
        · rintro ⟨rfl, -⟩
          rfl
    case h_2 n hnot hat =>
      refine ⟨nofun, ?_⟩
      rintro ⟨rfl, ⟨readable, entries, hat'⟩, -⟩
      rw [hat] at hat'
      exact absurd (Option.some.inj hat') (hnot readable entries)
    case h_3 hnone =>
      refine ⟨nofun, ?_⟩
      rintro ⟨rfl, ⟨readable, entries, hat'⟩, -⟩
      rw [hnone] at hat'
      cases hat'

-- ================================================================= fresh

/-- A name that entries can have, that no entry has, and that is not on the
way to the working directory, which may be gone. -/
structure Fresh (f : Files) (name : Bytes) : Prop where
  isName : IsName name
  inTree : ∀ above, Node.at? (above ++ [name]) f.root = none
  onTheWay : name ∉ f.workingDirectory

/-- A name that no entry has is on no way to a start. -/
theorem Fresh.start (h : f.Fresh name) (p : Path) (above : List Bytes) :
    ¬ above ++ [name] <+: (f.start p).names := by
  intro hprefix
  have hmem : name ∈ (f.start p).names :=
    hprefix.mem (List.mem_append_right _ List.mem_cons_self)
  rw [(start_stands f p).2, base] at hmem
  split at hmem
  · cases hmem
  · exact h.onTheWay hmem

/-- A walk comes out as before after an edit under a fresh name. -/
theorem Fresh.walk_edit (h : f.Fresh name) (hchange : Node.OnlyAt name change)
    (hwalk : walk f.root true linkLimit (f.start p) names = .ok r) (t : Trail) :
    ∃ r', walk (f.edit t change).root true linkLimit ((f.edit t change).start p)
      names = .ok r' ∧ r'.names = r.names ∧
      ¬ t.names ++ [name] <+: r.names := by
  obtain ⟨places, used, hcourse, hused⟩ := walk_eq_ok_iff.mp hwalk
  have hdirectory : (f.edit t change).workingDirectory = f.workingDirectory :=
    rfl
  have hnames := start_names hdirectory p
  obtain ⟨r', hcourse', hr', hoff⟩ :=
    hcourse.edit hchange (h.inTree t.names) (start_stands f p).1
    (start_stands (f.edit t change) p).1 hnames (h.start p t.names)
  exact ⟨r', walk_eq_ok_iff.mpr ⟨places, used, hcourse', hused⟩, hr', hoff⟩

/-- So the directory in which a name stands is found again. -/
theorem Fresh.holder_edit (h : f.Fresh other)
    (hchange : Node.OnlyAt other change)
    (hholder : f.holder directory name = .ok t) (s : Trail) :
    ∃ t', (f.edit s change).holder directory name = .ok t' ∧
      t'.names = t.names := by
  obtain ⟨hzero, hlong, hwalk, ⟨readable, entries, hat⟩, hshort⟩ :=
    holder_eq_ok.mp hholder
  obtain ⟨t', hwalk', hnames, hoff⟩ := h.walk_edit hchange hwalk s
  have hbare := Node.bare_at?_edit hchange f.root hoff
  rw [hat, Option.map_some, Option.map_eq_some_iff] at hbare
  obtain ⟨n, hn, hbare⟩ := hbare
  obtain ⟨entries', rfl⟩ := Node.bare_eq_directory hbare
  exact ⟨t', holder_eq_ok.mpr
    ⟨hzero, hlong, hwalk', ⟨readable, entries', hnames ▸ hn⟩, hshort⟩, hnames⟩

/-- Taking a fresh name out changes nothing. -/
theorem Fresh.drop (h : f.Fresh name) (directory : Path) :
    f.drop directory name = f := by
  unfold Files.drop
  split
  case h_2 => rfl
  case h_1 t hholder =>
    obtain ⟨-, -, -, ⟨readable, entries, hat⟩, -⟩ := holder_eq_ok.mp hholder
    have hnone := h.inTree t.names
    rw [Node.at?_concat, hat] at hnone
    rw [edit, Node.edit_eq_self (Entries.drop_of_find?_none hnone) hat]

/-- Putting a file is an edit of the directory that holds it. -/
theorem put_eq_ok : f.put directory name n = .ok g ↔
    ∃ t, f.holder directory name = .ok t ∧
      f.edit t (Entries.put name n) = g := by
  unfold put
  cases f.holder directory name with
  | error reason => exact ⟨nofun, nofun⟩
  | ok t => simp [Except.map]

/-- What is put in under a fresh name is taken out again, and all is as it
was. -/
theorem Fresh.drop_put (h : f.Fresh name)
    (hput : f.put directory name n = .ok g) :
    g.drop directory name = f := by
  obtain ⟨t, hholder, rfl⟩ := put_eq_ok.mp hput
  obtain ⟨t', hholder', hnames⟩ :=
    h.holder_edit (Node.onlyAt_put name n) hholder t
  obtain ⟨-, -, -, ⟨readable, entries, hat⟩, -⟩ := holder_eq_ok.mp hholder
  have hnone := h.inTree t.names
  rw [Node.at?_concat, hat] at hnone
  rw [Files.drop, hholder']
  dsimp only
  rw [edit, edit, hnames, Node.edit_edit,
    Node.edit_eq_self (Entries.drop_put hnone) hat]

-- ================================================================= files

variable {contents : Bytes} {executable : Bool}

/-- A file that is put in under a fresh name is found under its path. -/
theorem Fresh.look_put (h : f.Fresh name)
    (hput : f.put directory name (.file contents executable) = .ok g) :
    g.look (directory.join ⟨name⟩) = .ok (.file contents executable) := by
  obtain ⟨t, hholder, rfl⟩ := put_eq_ok.mp hput
  obtain ⟨t', hholder', hnames⟩ :=
    h.holder_edit (Node.onlyAt_put name _) hholder t
  obtain ⟨-, -, -, ⟨readable, entries, hat⟩, -⟩ := holder_eq_ok.mp hholder
  obtain ⟨hzero, hlong, hwalk, -, hshort⟩ := holder_eq_ok.mp hholder'
  have hsteps : (directory.join ⟨name⟩).steps = directory.names ++ [name] :=
    steps_joinNames (List.cons_ne_nil name [])
      (List.forall_mem_singleton.mpr h.isName)
  have hbytes : (directory.join ⟨name⟩).bytes ≠ [] := by
    intro hnil
    rw [Path.steps, Path.endsInSlash, Path.names, hnil] at hsteps
    exact absurd hsteps.symm
      (List.append_ne_nil_of_right_ne_nil _ (List.cons_ne_nil _ _))
  -- from the directory one more step leads to the file
  obtain ⟨places, used, hcourse, hused⟩ := walk_eq_ok_iff.mp hwalk
  have hstands := (kept_stands _).walk (start_stands _ _).1 hwalk
  have hfind : Entries.find? name (t'.node (f.edit t (Entries.put name
      (.file contents executable))).root).entries
    = some (.file contents executable) := by
    rw [hstands.find?_eq, hnames, edit, Node.at?_edit_entry, hat]
    exact congrArg (Option.bind · _) (Entries.find?_put_self entries)
  have hentry := hcourse.append (.entry
    ⟨h.isName.notDot, h.isName.notDots, hshort, hfind⟩
    (fun _ h => by cases h) .done)
  rw [← hsteps] at hentry
  have hresolve := resolve_eq_ok.mpr ⟨hzero, hbytes, hlong,
    walk_eq_ok_iff.mpr ⟨_, _, hentry, (Nat.zero_add used).symm ▸ hused⟩⟩
  rw [look, hresolve]
  rfl

/-- A file that was found stays where it is. -/
theorem Fresh.look_put_of_file (h : f.Fresh name)
    (hput : f.put directory name n = .ok g)
    (hlook : f.look p = .ok (.file contents executable)) :
    g.look p = .ok (.file contents executable) := by
  obtain ⟨t, -, rfl⟩ := put_eq_ok.mp hput
  unfold look at hlook ⊢
  cases hresolve : f.resolve true p with
  | error reason => rw [hresolve] at hlook; cases hlook
  | ok r =>
    obtain ⟨hzero, hbytes, hlong, hwalk⟩ := resolve_eq_ok.mp hresolve
    obtain ⟨r', hwalk', hnames, hoff⟩ :=
      h.walk_edit (Node.onlyAt_put name n) hwalk t
    rw [resolve_eq_ok.mpr ⟨hzero, hbytes, hlong, hwalk'⟩]
    have hstands := (kept_stands f.root).walk (start_stands f p).1 hwalk
    have hstands' := (kept_stands _).walk (start_stands (f.edit t _) p).1 hwalk'
    rw [hresolve] at hlook
    have hnode : (Node.at? r.names f.root).getD .empty
        = .file contents executable :=
      hstands.node ▸ Except.ok.inj hlook
    have hat : Node.at? r.names f.root = some (.file contents executable) := by
      cases hat : Node.at? r.names f.root with
      | none => rw [hat] at hnode; cases hnode
      | some m => rw [hat] at hnode; exact congrArg some hnode
    have hbare := Node.bare_at?_edit (Node.onlyAt_put name n) f.root hoff
    rw [hat, Option.map_some, Option.map_eq_some_iff] at hbare
    obtain ⟨m, hm, hbare⟩ := hbare
    cases Node.bare_eq_file hbare
    have hfile : r'.node (f.edit t (Entries.put name n)).root
        = .file contents executable := by
      rw [hstands'.node, hnames, edit, hm, Option.getD_some]
    exact congrArg Except.ok hfile

/-- Another fresh name stays one when a file is put in. -/
theorem Fresh.put (h : f.Fresh other) (hne : other ≠ name)
    (hput : f.put directory name (.file contents executable) = .ok g) :
    g.Fresh other := by
  obtain ⟨t, -, rfl⟩ := put_eq_ok.mp hput
  refine ⟨h.isName, fun above => ?_, h.onTheWay⟩
  by_cases hin : t.names ++ [name] <+: above ++ [other]
  · obtain ⟨below, hbelow⟩ := hin
    rw [List.append_assoc, List.singleton_append] at hbelow
    rw [← hbelow, Option.eq_none_iff_forall_ne_some]
    intro k hk
    -- nothing is below a file
    cases below with
    | nil =>
      obtain ⟨-, hlast⟩ := List.append_inj' hbelow rfl
      exact hne (List.cons.inj hlast).1.symm
    | cons => cases Node.at?_of_edit_put hk
  · have hbare :=
      Node.bare_at?_edit (Node.onlyAt_put name (.file contents executable))
        f.root hin
    rw [h.inTree above, Option.map_none, Option.map_eq_none_iff] at hbare
    exact hbare

/-- What is put in beside a file is there without the file as well. -/
theorem Fresh.drop_put_put (h : f.Fresh name) (hother : f.Fresh other)
    (hne : other ≠ name)
    (hput : f.put directory name (.file contents executable) = .ok g)
    {g' : Files} (hput' : g.put directory other n = .ok g') :
    f.put directory other n = .ok (g'.drop directory name) := by
  have hdrop := h.drop_put hput
  have hfresh := hother.put hne hput
  obtain ⟨t, hholder, rfl⟩ := put_eq_ok.mp hput
  obtain ⟨r, hholder', rfl⟩ := put_eq_ok.mp hput'
  -- both walks lead to the same names
  have hstart (f : Files) {x : Bytes} (hx : IsName x) :
      f.start (directory.join ⟨x⟩) = f.start directory :=
    start_joinNames (List.forall_mem_singleton.mpr hx)
  obtain ⟨-, -, hwalk, hdirectory, -⟩ := holder_eq_ok.mp hholder
  obtain ⟨hzero, hlong, hwalk', -, hshort⟩ := holder_eq_ok.mp hholder'
  rw [hstart _ h.isName] at hwalk
  rw [hstart _ hother.isName] at hwalk'
  obtain ⟨r', hwalkr, hr, -⟩ := h.walk_edit (Node.onlyAt_put name _) hwalk t
  obtain rfl : r' = r := Except.ok.inj (hwalkr.symm.trans hwalk')
  have hplain : f.holder directory other = .ok t :=
    holder_eq_ok.mpr
      ⟨hzero, hlong, (hstart f hother.isName).symm ▸ hwalk, hdirectory, hshort⟩
  obtain ⟨u, hu, hunames⟩ := h.holder_edit (Node.onlyAt_put name _) hholder t
  obtain ⟨v, hv, hvnames⟩ := hfresh.holder_edit (Node.onlyAt_put other n) hu r'
  rw [Files.drop, hu] at hdrop
  have hroot : Node.edit (Entries.drop name) u.names
      (Node.edit (Entries.put name (.file contents executable)) t.names f.root)
        = f.root :=
    congrArg Files.root hdrop
  rw [hunames] at hroot
  have hroots : Node.edit (Entries.put other n) t.names f.root =
      Node.edit (Entries.drop name) v.names
      (Node.edit (Entries.put other n) r'.names
        (Node.edit (Entries.put name (.file contents executable)) t.names
          f.root)) := by
    have hcommute : Entries.drop name ∘ Entries.put other n =
        Entries.put other n ∘ Entries.drop name :=
      funext (Entries.drop_put_of_ne hne)
    rw [hvnames, hunames, hr, Node.edit_edit, hcommute, ← Node.edit_edit, hroot]
  rw [Files.put, hplain, Files.drop, hv]
  exact congrArg (fun root => Except.ok { f with root := root }) hroots

end Files

end Restoration
