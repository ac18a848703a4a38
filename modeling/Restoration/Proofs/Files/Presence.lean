/-
What a path names, and whether that is still there after a removal.

Two questions can be asked about a path: where it leads, links being
followed to the end, and what it names, which may be a link itself. The
answers part at a link that leads nowhere (`Dangling`), and there only
(`dangling_iff`): a walk that does not end at a link is the same walk
whether or not the last link is followed (`walk_followed`).

A removal that succeeds leaves nothing that the path names
(`isPresent_removeAll`). The entry is gone from its place, and the path
names no other one: the walk of the same path in what is left, if it still
gets to a directory, gets to the same one (`walk_agree`).
-/
import Restoration.Proofs.Files.Frame

namespace Restoration.Files

variable {root : Node} {f : Files} {p : Path}

-- =============================================================== dangling

/-- A path names a link that leads nowhere. -/
def Dangling (f : Files) (p : Path) : Prop :=
  ∃ target reason, f.lookAt p = .ok (.link target) ∧ f.look p = .error reason

/-- A walk that does not end at a link gets there, if links are followed, as
well. -/
theorem walkWith_followed
    {follow follow' : Trail → List Bytes → Except SystemError Trail} {r : Trail}
    (hr : ∀ target, r.node root ≠ .link target)
    (hfollow : ∀ {t names}, follow t names = .ok r → follow' t names = .ok r) :
    ∀ {names : List Bytes} {t : Trail},
      walkWith root false follow t names = .ok r →
      walkWith root true follow' t names = .ok r
  | [], _, h => h
  | name :: rest, t, h => by
    cases walkWith_cons_iff.mp h with
    | here directory hwalk =>
      exact walkWith_cons_iff.mpr
        (.here directory (walkWith_followed hr hfollow hwalk))
    | back directory hwalk =>
      exact walkWith_cons_iff.mpr
        (.back directory (walkWith_followed hr hfollow hwalk))
    | link _ _ _ _ _ hreached =>
      subst hreached
      exact absurd rfl (hr _)
    | follow hdot hdots hlength hfind _ hwalk =>
      have hlast : (rest.isEmpty && !true) = false := Bool.and_false _
      exact walkWith_cons_iff.mpr
        (.follow hdot hdots hlength hfind hlast (hfollow hwalk))
    | entry hdot hdots hlength hfind hlink hwalk =>
      exact walkWith_cons_iff.mpr
        (.entry hdot hdots hlength hfind hlink
          (walkWith_followed hr hfollow hwalk))

/-- A walk that ends at no link may as well follow one at its end. -/
theorem walk_followed {r : Trail} (hr : ∀ target, r.node root ≠ .link target) :
    ∀ {links : Nat} {names : List Bytes} {t : Trail},
      walk root false links t names = .ok r →
      walk root true links t names = .ok r
  | 0, _, _, h => walkWith_followed hr (fun h => h) h
  | _ + 1, _, _, h => walkWith_followed hr (walk_followed hr) h

/-- Something is present under a path if the path resolves. -/
theorem isPresent_iff :
    f.isPresent p = true ↔ ∃ r, f.resolve false p = .ok r := by
  unfold isPresent lookAt
  cases f.resolve false p with
  | error reason => simp [Except.map, Except.toBool]
  | ok r => simp [Except.map, Except.toBool]

/-- What a path names and does not lead to is a link that leads nowhere. -/
theorem dangling_iff :
    f.Dangling p ↔ f.isPresent p = true ∧ f.leadsSomewhere p = false := by
  unfold Dangling leadsSomewhere
  constructor
  · rintro ⟨target, reason, hnamed, hlook⟩
    rw [isPresent, hnamed, hlook]
    exact ⟨rfl, rfl⟩
  · rintro ⟨hpresent, hlook⟩
    obtain ⟨r, hresolve⟩ := isPresent_iff.mp hpresent
    cases hreason : f.look p with
    | ok n => rw [hreason] at hlook; cases hlook
    | error reason =>
      by_cases hr : ∃ target, r.node f.root = .link target
      · obtain ⟨target, hr⟩ := hr
        refine ⟨target, reason, ?_, rfl⟩
        rw [lookAt, hresolve, ← hr]
        rfl
      · -- otherwise the path would lead there
        obtain ⟨hzero, hbytes, hlong, hwalk⟩ := resolve_eq_ok.mp hresolve
        have hled : f.resolve true p = .ok r :=
          resolve_eq_ok.mpr
            ⟨hzero, hbytes, hlong, walk_followed (not_exists.mp hr) hwalk⟩
        rw [look, hled] at hreason
        cases hreason

-- ================================================================ absence

/-- A path that names something leads to the directory of its last name, and
the name is there. -/
theorem find?_of_resolve {followLast : Bool} {before : List Bytes}
    {name : Bytes} {r : Trail} (hlast : lastName p = some (before, name))
    (hdot : name ≠ Path.dot) (hdots : name ≠ Path.dots)
    (h : f.resolve followLast p = .ok r) :
    ∃ t, walk f.root true linkLimit (f.start p) before = .ok t ∧
      ∃ n, Entries.find? name (t.node f.root).entries = some n := by
  obtain ⟨t, left, rest, hbefore, hname⟩ := resolve_split hlast h
  obtain ⟨follow, hfollow⟩ := walk_eq_walkWith f.root followLast left
  rw [hfollow] at hname
  refine ⟨t, hbefore, ?_⟩
  cases walkWith_cons_iff.mp hname with
  | here => exact absurd rfl hdot
  | back => exact absurd rfl hdots
  | link _ _ _ hfind | follow _ _ _ hfind | entry _ _ _ hfind =>
      exact ⟨_, hfind⟩

/-- Nothing is present where the directory has no entry of that name. -/
theorem isPresent_eq_false {before : List Bytes} {name : Bytes}
    (hlast : lastName p = some (before, name)) (hdot : name ≠ Path.dot)
    (hdots : name ≠ Path.dots)
    (h : ∀ t, walk f.root true linkLimit (f.start p) before = .ok t →
      Entries.find? name (t.node f.root).entries = none) :
    f.isPresent p = false := by
  rw [← Bool.not_eq_true, isPresent_iff]
  rintro ⟨r, hresolve⟩
  obtain ⟨t, hwalk, n, hfind⟩ := find?_of_resolve hlast hdot hdots hresolve
  rw [h t hwalk] at hfind
  cases hfind

/-- An entry that is taken out where a path has led is no longer named by
the path. -/
theorem isPresent_edit_drop {before : List Bytes} {name : Bytes} {t : Trail}
    (hlast : lastName p = some (before, name)) (hdot : name ≠ Path.dot)
    (hdots : name ≠ Path.dots)
    (hwalk : walk f.root true linkLimit (f.start p) before = .ok t) :
    (f.edit t (Entries.drop name)).isPresent p = false := by
  refine isPresent_eq_false hlast hdot hdots fun t' hwalk' => ?_
  have hagree : Agree f.root (f.edit t (Entries.drop name)).root :=
    (Agree.refl f.root).edit_drop t.names name
  have hdirectory : (f.edit t (Entries.drop name)).workingDirectory
    = f.workingDirectory := rfl
  have hstart := start_stands f p
  have hstart' := start_stands (f.edit t (Entries.drop name)) p
  have hnames : t'.names = t.names :=
    walk_agree hagree linkLimit hstart.1 hstart'.1
      (start_names hdirectory p) hwalk hwalk'
  rw [Option.eq_none_iff_forall_ne_some]
  intro n hfind
  have hat := ((kept_stands _).walk hstart'.1 hwalk').at? hfind
  rw [hnames] at hat
  have hnone :
      Node.at? (t.names ++ [name]) (f.edit t (Entries.drop name)).root = none :=
    Node.at?_edit_drop f.root
  rw [hnone] at hat
  cases hat

/-- A directory that is not there when it is to be taken out is not named
either. -/
theorem isPresent_of_removeEmpty (h : f.removeEmpty p = .error .noEntry) :
    f.isPresent p = false := by
  unfold removeEmpty at h
  split at h
  case h_1 => cases h
  case h_2 before name hlast =>
    split at h
    case isTrue => cases h
    case isFalse hdot =>
      split at h
      case isTrue => cases h
      case isFalse hdots =>
        refine isPresent_eq_false hlast hdot hdots fun t hwalk => ?_
        change walk f.root true linkLimit
          (if p.isAbsolute then [] else f.here) before = .ok t at hwalk
        rw [hwalk] at h
        dsimp only [bind, Except.bind] at h
        split at h
        · assumption
        all_goals cases h

-- ================================================================= links

/-- No link stands on the way to the working directory. -/
def Direct (f : Files) : Prop :=
  ∀ place target, place <+: f.workingDirectory →
    Node.at? place f.root ≠ some (.link target)

/-- No link stands on a trail above its end. -/
def OnDirectories (t : Trail) : Prop := ∀ entry ∈ t.tail, entry.2.isLink = false

/-- That no link stands above the end of a trail survives every step of a
walk. -/
theorem kept_onDirectories (root : Node) : Kept root OnDirectories where
  nil := fun _ h => absurd h List.not_mem_nil
  tail h entry hentry := h entry (List.mem_of_mem_tail hentry)
  cons {t name n} h hfind := by
    intro entry hentry
    obtain ⟨readable, hnode⟩ := Node.directory_of_find? hfind
    cases t with
    | nil => cases hentry
    | cons top above =>
      rcases List.mem_cons.mp hentry with rfl | hentry
      · have htop : entry.2 = .directory readable _ := hnode
        rw [htop]
        rfl
      · exact h entry hentry

/-- Going down meets no link if no link stands on the way. -/
theorem trailFrom_direct : ∀ {names : List Bytes} {t : Trail}, Stands root t →
    (∀ place target, place <+: t.names ++ names →
      Node.at? place root ≠ some (.link target)) →
    (∀ entry ∈ t, entry.2.isLink = false) →
    ∀ entry ∈ trailFrom root t names, entry.2.isLink = false
  | [], _, _, _, ht => ht
  | name :: names, t, hstands, hdirect, ht => by
    rw [trailFrom]
    have happend : Trail.names
        ((name, (Entries.find? name (t.node root).entries).getD .empty) :: t)
        ++ names = t.names ++ name :: names := by
      rw [Trail.names_cons, List.append_assoc]
      rfl
    refine trailFrom_direct ⟨hstands, rfl⟩ (happend ▸ hdirect)
      (List.forall_mem_cons.mpr ⟨?_, ht⟩)
    cases hfind : Entries.find? name (t.node root).entries with
    | none => rfl
    | some n =>
      cases n with
      | file => rfl
      | directory => rfl
      | link target =>
        have hprefix : t.names ++ [name] <+: t.names ++ name :: names :=
          (List.prefix_append_right_inj _).mpr (List.prefix_append [name] names)
        exact absurd (hstands.at? hfind) (hdirect _ target hprefix)

/-- No link is on the way to the working directory. -/
theorem start_direct (hdirect : f.Direct) (p : Path) :
    ∀ entry ∈ f.start p, entry.2.isLink = false := by
  unfold start
  split
  · exact fun _ h => absurd h List.not_mem_nil
  · exact trailFrom_direct trivial hdirect fun _ h => absurd h List.not_mem_nil

/-- A link that a path names is met at its last name. -/
theorem lastName_of_link {name : Bytes} {target : Path} {above : Trail}
    (hdirect : f.Direct)
    (h : f.resolve false p = .ok ((name, .link target) :: above)) :
    ∃ before, lastName p = some (before, name) ∧ name ≠ Path.dot ∧
      name ≠ Path.dots ∧
      walk f.root true linkLimit (f.start p) before = .ok above := by
  obtain ⟨-, -, -, hwalk⟩ := resolve_eq_ok.mp h
  have hstart := start_direct hdirect p
  unfold Path.steps at hwalk
  split at hwalk
  case isTrue =>
    -- behind a slash the walk ends at a directory
    obtain ⟨t, left, -, hdot⟩ :=
      walk_split (.inl (List.cons_ne_nil _ [])) linkLimit hwalk
    obtain ⟨directory, ht⟩ := walk_name hdot
    rw [if_pos rfl] at ht
    subst ht
    cases directory
  case isFalse =>
  cases hlast : lastName p with
  | none =>
    rw [lastName_eq_none hlast] at hwalk
    obtain ⟨follow, hfollow⟩ := walk_eq_walkWith f.root false linkLimit
    rw [hfollow] at hwalk
    have hend : f.start p = (name, .link target) :: above := Except.ok.inj hwalk
    have hlink := hstart (name, .link target) (hend ▸ List.mem_cons_self)
    cases hlink
  | some entry =>
    obtain ⟨before, last⟩ := entry
    rw [lastName_eq_some hlast] at hwalk
    obtain ⟨t, left, hbefore, hname⟩ :=
      walk_split (.inl (List.cons_ne_nil _ [])) linkLimit hwalk
    have hon : OnDirectories t := (kept_onDirectories f.root).walk
      (fun entry hentry => hstart entry (List.mem_of_mem_tail hentry)) hbefore
    obtain ⟨directory, ht⟩ := walk_name hname
    by_cases hdot : last = Path.dot
    · rw [if_pos hdot] at ht
      subst ht
      cases directory
    by_cases hdots : last = Path.dots
    · rw [if_neg hdot, if_pos hdots] at ht
      have hlink := hon (name, .link target) (ht ▸ List.mem_cons_self)
      cases hlink
    · rw [if_neg hdot, if_neg hdots] at ht
      obtain ⟨n, -, hreached⟩ := ht
      cases hreached (.inr rfl)
      exact ⟨before, rfl, hdot, hdots, hbefore⟩

-- =============================================================== removal

/-- After a removal that succeeds, the path names nothing. -/
theorem isPresent_removeAll (hdirect : f.Direct)
    (h : (f.removeAll p).result = .ok ()) :
    (f.removeAll p).files.isPresent p = false := by
  revert h
  unfold removeAll
  split
  case h_1 => exact fun h => by cases h
  case h_2 => exact fun h => by cases h
  case h_3 name n above hresolve =>
    split
    case h_1 target =>
      obtain ⟨before, hlast, hdot, hdots, hwalk⟩ :=
        lastName_of_link hdirect hresolve
      exact fun _ => isPresent_edit_drop hlast hdot hdots hwalk
    case h_2 => exact fun h => by cases h
    case h_3 readable es =>
      split
      case h_1 => exact fun h => by cases h
      case h_2 =>
        dsimp only
        split
        case h_1 f' hempty =>
          obtain ⟨before, last, t, hlast, hdot, hdots, hwalk, -, rfl⟩ :=
            removeEmpty_cases hempty
          exact fun _ => isPresent_edit_drop hlast hdot hdots hwalk
        case h_2 hempty => exact fun _ => isPresent_of_removeEmpty hempty
        case h_3 => exact fun h => by cases h

end Restoration.Files
