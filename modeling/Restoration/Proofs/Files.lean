/-
What is kept on a walk.

A walk goes down to entries, back along its own trail, off to the root, or on
to an empty directory behind a working directory that is gone. What every
such step keeps is kept by a walk, however many links are followed
(`Kept.walk`), so a property of walks is one invariant of trails.

There are two of them here. If no directory of a tree has two entries of one
name (`Node.Distinct`), neither has any directory on a trail. And what stands
on a trail is what the tree has at the names of the trail (`Stands`), an
empty directory where it has nothing.
-/
import Restoration.Files

namespace Restoration

-- ============================================================= induction

mutual

/-- What holds of a directory if it holds of its entries holds of all nodes. -/
@[elab_as_elim] theorem Node.induction {P : Node → Prop}
    (file : ∀ contents executable, P (.file contents executable))
    (link : ∀ target, P (.link target))
    (directory : ∀ readable entries, (∀ entry ∈ entries, P entry.2) →
      P (.directory readable entries)) :
    ∀ n, P n
  | .file contents executable => file contents executable
  | .link target => link target
  | .directory readable entries =>
    directory readable entries
      (Node.induction_entries file link directory entries)

/-- The same for all nodes in a list of entries. -/
theorem Node.induction_entries {P : Node → Prop}
    (file : ∀ contents executable, P (.file contents executable))
    (link : ∀ target, P (.link target))
    (directory : ∀ readable entries, (∀ entry ∈ entries, P entry.2) →
      P (.directory readable entries)) :
    ∀ entries : List (Bytes × Node), ∀ entry ∈ entries, P entry.2
  | [], _, h => absurd h List.not_mem_nil
  | (_, n) :: rest, entry, h => by
    rcases List.mem_cons.mp h with rfl | h
    · exact Node.induction file link directory n
    · exact Node.induction_entries file link directory rest entry h

end

/-- A link is a node with a target. -/
theorem Node.isLink_iff {n : Node} :
    n.isLink = true ↔ ∃ target, n = .link target := by
  cases n <;> simp [Node.isLink]

-- ========================================================= distinct names

/-- No directory has two entries of one name, here and below. -/
inductive Node.Distinct : Node → Prop
  | file (contents : Bytes) (executable : Bool) :
      Distinct (.file contents executable)
  | link (target : Path) : Distinct (.link target)
  | directory {readable : Bool} {entries : Entries}
      (names : (entries.map Prod.fst).Nodup)
      (below : ∀ entry ∈ entries, entry.2.Distinct) :
      Distinct (.directory readable entries)

/-- A file has no entries that could share a name. -/
@[simp] theorem Node.distinct_file {contents : Bytes} {executable : Bool} :
    (Node.file contents executable).Distinct :=
  .file contents executable

/-- Nor has a link, whatever it leads to. -/
@[simp] theorem Node.distinct_link {target : Path} :
    (Node.link target).Distinct := .link target

/-- A directory has to keep the names of its own entries apart, and
everything below them. -/
@[simp] theorem Node.distinct_directory {readable : Bool} {entries : Entries} :
    (Node.directory readable entries).Distinct ↔
      (entries.map Prod.fst).Nodup ∧ ∀ entry ∈ entries, entry.2.Distinct := by
  constructor
  · rintro (_ | _ | ⟨names, below⟩)
    exact ⟨names, below⟩
  · exact fun ⟨names, below⟩ => .directory names below

/-- Where there is nothing, no two names are the same. -/
theorem Node.distinct_empty : Node.empty.Distinct := by simp [Node.empty]

/-- What is in a directory keeps names apart if the directory does. -/
theorem Node.Distinct.of_mem {n : Node} (h : n.Distinct) {entry : Bytes × Node}
    (hmem : entry ∈ n.entries) : entry.2.Distinct := by
  cases h with
  | file => cases hmem
  | link => cases hmem
  | directory _ below => exact below entry hmem

/-- A directory is its readability and its entries. -/
theorem Node.directory_of_isDirectory {n : Node} (h : n.isDirectory = true) :
    ∃ readable, n = .directory readable n.entries := by
  cases n with
  | directory readable entries => exact ⟨readable, rfl⟩
  | file => cases h
  | link => cases h

/-- Only directories have entries to be found. -/
theorem Node.directory_of_find? {name : Bytes} {n m : Node}
    (h : Entries.find? name n.entries = some m) :
    ∃ readable, n = .directory readable n.entries := by
  cases n with
  | directory readable entries => exact ⟨readable, rfl⟩
  | file => cases h
  | link => cases h

/-- What is found under a name is an entry of that name. -/
theorem Entries.mem_of_find? {name : Bytes} {n : Node} :
    ∀ {entries : Entries}, Entries.find? name entries = some n →
      (name, n) ∈ entries
  | [], h => by cases h
  | (k, m) :: rest, h => by
    rw [Entries.find?] at h
    split at h
    case isTrue hk =>
      cases h
      exact hk ▸ List.mem_cons_self
    case isFalse => exact List.mem_cons_of_mem _ (mem_of_find? h)

/-- An entry is found under its name if no other entry has that name. -/
theorem Entries.find?_of_mem {name : Bytes} {n : Node} :
    ∀ {entries : Entries}, (entries.map Prod.fst).Nodup → (name, n) ∈ entries →
      Entries.find? name entries = some n
  | (k, m) :: rest, hnodup, hmem => by
    rw [List.map_cons, List.nodup_cons] at hnodup
    rw [find?]
    rcases List.mem_cons.mp hmem with heq | hmem
    · cases heq
      exact if_pos rfl
    · have hne : k ≠ name := by
        rintro rfl
        exact hnodup.1 (List.mem_map.mpr ⟨_, hmem, rfl⟩)
      rw [if_neg hne]
      exact find?_of_mem hnodup.2 hmem

namespace Node

/-- Names can be followed in two parts. -/
theorem at?_append (names below : List Bytes) (n : Node) :
    at? (names ++ below) n = (at? names n).bind (at? below) := by
  induction names generalizing n with
  | nil => rfl
  | cons name names ih =>
      rw [List.cons_append, at?, at?, Option.bind_assoc]
      exact congrArg _ (funext ih)

/-- The last of the names is looked up in what the names before it lead to.
-/
theorem at?_concat (names : List Bytes) (name : Bytes) (n : Node) :
    at? (names ++ [name]) n = (at? names n).bind fun m =>
    Entries.find? name m.entries := by
  rw [at?_append]
  refine congrArg _ (funext fun m => ?_)
  rw [at?]
  cases Entries.find? name m.entries <;> rfl

/-- Whatever names lead to keeps names apart if the tree does. -/
theorem Distinct.of_at? : ∀ {names : List Bytes} {n m : Node}, n.Distinct →
    at? names n = some m → m.Distinct
  | [], _, _, h, hat => Option.some.inj hat ▸ h
  | name :: names, _, _, h, hat => by
    obtain ⟨k, hfind, hk⟩ := Option.bind_eq_some_iff.mp hat
    exact Distinct.of_at? (h.of_mem (Entries.mem_of_find? hfind)) hk

end Node

-- ================================================================ trails

namespace Trail

/-- The newest entry of a trail has the last of its names. -/
theorem names_cons (name : Bytes) (n : Node) (t : Trail) :
    names ((name, n) :: t) = names t ++ [name] := by
  simp [names]

/-- Going back takes the last name away. -/
theorem names_tail (t : Trail) : Trail.names t.tail = t.names.dropLast := by
  cases t with
  | nil => rfl
  | cons entry above =>
      rw [Trail.names_cons, List.dropLast_concat, List.tail_cons]

end Trail

namespace Files

variable {root : Node}

/-- What stands on a trail has distinct names. -/
def OnDistinct (trail : Trail) : Prop := ∀ entry ∈ trail, entry.2.Distinct

/-- The node at which a trail has arrived keeps names apart. -/
theorem OnDistinct.node {trail : Trail} (hroot : root.Distinct)
    (h : OnDistinct trail) :
    (trail.node root).Distinct := by
  cases trail with
  | nil => exact hroot
  | cons entry rest => exact h entry List.mem_cons_self

/-- A trail may go on to an entry that keeps names apart. -/
theorem OnDistinct.cons {trail : Trail} {entry : Bytes × Node}
    (hentry : entry.2.Distinct) (h : OnDistinct trail) :
    OnDistinct (entry :: trail) :=
  List.forall_mem_cons.mpr ⟨hentry, h⟩

/-- There is nothing on the trail of the root. -/
theorem onDistinct_nil : OnDistinct [] := fun _ h => absurd h List.not_mem_nil

/-- How a walk that has one name more before it gets on. -/
inductive Proceeds (root : Node) (followLast : Bool)
    (follow : Trail → List Bytes → Except SystemError Trail) (trail : Trail)
    (rest : List Bytes) (reached : Trail) : Bytes → Prop
  | here (directory : (trail.node root).isDirectory = true)
      (h : walkWith root followLast follow trail rest = .ok reached) :
      Proceeds root followLast follow trail rest reached Path.dot
  | back (directory : (trail.node root).isDirectory = true)
      (h : walkWith root followLast follow trail.tail rest = .ok reached) :
      Proceeds root followLast follow trail rest reached Path.dots
  /-- A link at the end. -/
  | link {name : Bytes} {target : Path} (hdot : name ≠ Path.dot)
      (hdots : name ≠ Path.dots) (hlength : name.length ≤ longestName)
      (hfind : Entries.find? name (trail.node root).entries
        = some (.link target))
      (hlast : (rest.isEmpty && !followLast) = true)
      (h : reached = (name, .link target) :: trail) :
      Proceeds root followLast follow trail rest reached name
  | follow {name : Bytes} {target : Path} (hdot : name ≠ Path.dot)
      (hdots : name ≠ Path.dots) (hlength : name.length ≤ longestName)
      (hfind : Entries.find? name (trail.node root).entries
        = some (.link target))
      (hlast : (rest.isEmpty && !followLast) = false)
      (h : follow (if target.isAbsolute then [] else trail)
        (target.steps ++ rest) = .ok reached) :
      Proceeds root followLast follow trail rest reached name
  | entry {name : Bytes} {n : Node} (hdot : name ≠ Path.dot)
      (hdots : name ≠ Path.dots) (hlength : name.length ≤ longestName)
      (hfind : Entries.find? name (trail.node root).entries = some n)
      (hlink : ∀ target, n ≠ .link target)
      (h : walkWith root followLast follow ((name, n) :: trail) rest
        = .ok reached) :
      Proceeds root followLast follow trail rest reached name

/-- A walk over a first name goes one of six ways, by what that name is and
what it leads to. -/
theorem walkWith_cons_iff {followLast : Bool}
    {follow : Trail → List Bytes → Except SystemError Trail}
    {trail reached : Trail} {name : Bytes} {rest : List Bytes} :
    walkWith root followLast follow trail (name :: rest) = .ok reached
      ↔ Proceeds root followLast follow trail rest reached name := by
  constructor
  · intro h
    rw [walkWith] at h
    split at h
    case h_2 => cases h
    case h_1 readable entries hnode =>
      have hdirectory : (trail.node root).isDirectory = true := by
        rw [hnode]; rfl
      have hentries : (trail.node root).entries = entries := by rw [hnode]; rfl
      rw [← hentries] at h
      split at h
      case isTrue hdot => exact hdot ▸ .here hdirectory h
      case isFalse hdot =>
      split at h
      case isTrue hdots => exact hdots ▸ .back hdirectory h
      case isFalse hdots =>
      split at h
      case isTrue => cases h
      case isFalse hlength =>
        have hlength := Nat.not_lt.mp hlength
        split at h
        case h_1 => cases h
        case h_2 target hfind =>
          split at h
          case isTrue hlast =>
            cases h
            exact .link hdot hdots hlength hfind hlast rfl
          case isFalse hlast =>
            exact .follow hdot hdots hlength hfind
              (Bool.not_eq_true _ ▸ hlast) h
        case h_3 n hlink hfind =>
          exact .entry hdot hdots hlength hfind
            (fun target htarget => hlink target htarget) h
  · intro h
    cases h with
    | here directory h =>
      obtain ⟨readable, hnode⟩ := Node.directory_of_isDirectory directory
      rw [walkWith, hnode]
      exact (if_pos rfl).trans h
    | back directory h =>
      obtain ⟨readable, hnode⟩ := Node.directory_of_isDirectory directory
      rw [walkWith, hnode]
      exact (if_neg (by decide)).trans ((if_pos rfl).trans h)
    | link hdot hdots hlength hfind hlast h =>
      obtain ⟨readable, hnode⟩ := Node.directory_of_find? hfind
      rw [walkWith, hnode]
      dsimp only
      rw [if_neg hdot, if_neg hdots, if_neg (Nat.not_lt.mpr hlength), hfind]
      dsimp only
      rw [if_pos hlast, h]
    | follow hdot hdots hlength hfind hlast h =>
      obtain ⟨readable, hnode⟩ := Node.directory_of_find? hfind
      rw [walkWith, hnode]
      dsimp only
      rw [if_neg hdot, if_neg hdots, if_neg (Nat.not_lt.mpr hlength), hfind]
      dsimp only
      rw [hlast]
      exact h
    | @entry name n hdot hdots hlength hfind hlink h =>
      obtain ⟨readable, hnode⟩ := Node.directory_of_find? hfind
      rw [walkWith, hnode]
      dsimp only
      rw [if_neg hdot, if_neg hdots, if_neg (Nat.not_lt.mpr hlength), hfind]
      cases n with
      | link target => exact absurd rfl (hlink target)
      | file => exact h
      | directory => exact h

/-- A property of trails that is kept on the way: back, off to the root, and
on to an entry. -/
structure Kept (root : Node) (I : Trail → Prop) : Prop where
  nil : I []
  tail : ∀ {trail : Trail}, I trail → I trail.tail
  cons : ∀ {trail : Trail} {name : Bytes} {n : Node}, I trail →
    Entries.find? name (trail.node root).entries = some n →
    I ((name, n) :: trail)

/-- A walk keeps what its steps keep, if the links on it are followed by a
walk that does: by induction on the names that are left. -/
theorem Kept.walkWith {I : Trail → Prop} (hI : Kept root I) {followLast : Bool}
    {follow : Trail → List Bytes → Except SystemError Trail}
    (hfollow : ∀ {trail names reached}, I trail →
      follow trail names = .ok reached → I reached) :
    ∀ {names : List Bytes} {trail reached : Trail}, I trail →
      walkWith root followLast follow trail names = .ok reached → I reached
  | [], trail, reached, htrail, h => by
    cases h
    exact htrail
  | name :: rest, trail, reached, htrail, h => by
    cases walkWith_cons_iff.mp h with
    | here _ hrest => exact hI.walkWith hfollow htrail hrest
    | back _ hrest => exact hI.walkWith hfollow (hI.tail htrail) hrest
    | link _ _ _ hfind _ hreached => exact hreached ▸ hI.cons htrail hfind
    | entry _ _ _ hfind _ hrest =>
        exact hI.walkWith hfollow (hI.cons htrail hfind) hrest
    | follow _ _ _ _ _ hrest =>
      refine hfollow ?_ hrest
      split
      · exact hI.nil
      · exact htrail

/-- Whatever is kept on the way is kept by a walk. -/
theorem Kept.walk {I : Trail → Prop} (hI : Kept root I) {followLast : Bool} :
    ∀ {links : Nat} {trail reached : Trail} {names : List Bytes}, I trail →
      walk root followLast links trail names = .ok reached → I reached
  | 0, _, _, _, htrail, h => hI.walkWith (fun _ h => by cases h) htrail h
  | _ + 1, _, _, _, htrail, h => hI.walkWith hI.walk htrail h

/-- No step leaves the directories that keep names apart. -/
theorem kept_onDistinct (hroot : root.Distinct) : Kept root OnDistinct where
  nil := onDistinct_nil
  tail htrail entry hentry := htrail entry (List.mem_of_mem_tail hentry)
  cons htrail hfind :=
    htrail.cons ((htrail.node hroot).of_mem (Entries.mem_of_find? hfind))

/-- Nor does walking down by names, where a name that leads nowhere leads to
an empty directory. -/
theorem trailFrom_distinct (hroot : root.Distinct) :
    ∀ {names : List Bytes} {trail : Trail}, OnDistinct trail →
      OnDistinct (trailFrom root trail names)
  | [], _, htrail => htrail
  | name :: rest, trail, htrail => by
    rw [trailFrom]
    refine trailFrom_distinct hroot (htrail.cons ?_)
    cases hfind : Entries.find? name (trail.node root).entries with
    | none => exact Node.distinct_empty
    | some n => exact (htrail.node hroot).of_mem (Entries.mem_of_find? hfind)

-- ================================================================= places

variable {t : Trail}

/-- What stands on a trail is what the tree has there, if anything. -/
def Stands (root : Node) : Trail → Prop
  | [] => True
  | (name, n) :: t =>
    Stands root t ∧
      n = (Entries.find? name (Trail.node root t).entries).getD .empty

/-- What stands on a trail stands on what is left of it. -/
theorem Stands.tail (h : Stands root t) : Stands root t.tail := by
  cases t with
  | nil => exact h
  | cons => exact h.1

/-- A step to an entry that is there stays in the tree. -/
theorem Stands.cons (h : Stands root t) {name : Bytes} {n : Node}
    (hfind : Entries.find? name (t.node root).entries = some n) :
    Stands root ((name, n) :: t) :=
  ⟨h, by rw [hfind]; rfl⟩

/-- The node at which a trail has arrived is what its names lead to. -/
theorem Stands.node (h : Stands root t) :
    t.node root = (Node.at? t.names root).getD .empty := by
  induction t with
  | nil => rfl
  | cons entry above ih =>
      obtain ⟨name, n⟩ := entry
      obtain ⟨ht, hn⟩ := h
      rw [Trail.names_cons, Node.at?_concat]
      rw [ih ht] at hn
      cases hat : Node.at? (Trail.names above) root with
      | none => rw [hat] at hn; exact hn
      | some m => rw [hat] at hn; exact hn

/-- What is looked up is at its place. -/
theorem Stands.at? (h : Stands root t) {name : Bytes} {n : Node}
    (hfind : Entries.find? name (t.node root).entries = some n) :
    Node.at? (t.names ++ [name]) root = some n := by
  rw [h.node] at hfind
  rw [Node.at?_concat]
  cases hat : Node.at? t.names root with
  | none => rw [hat] at hfind; cases hfind
  | some m => rw [hat] at hfind; exact hfind

/-- Walking down by names stays in the tree, and its trail has these names.
-/
theorem trailFrom_stands (h : Stands root t) (names : List Bytes) :
    Stands root (trailFrom root t names) ∧
    (trailFrom root t names).names = t.names ++ names := by
  induction names generalizing t with
  | nil => exact ⟨h, (List.append_nil _).symm⟩
  | cons name names ih =>
      rw [trailFrom]
      obtain ⟨hstands, hnames⟩ :=
        ih (t :=
          (name, (Entries.find? name (t.node root).entries).getD .empty) :: t)
        ⟨h, rfl⟩
      rw [Trail.names_cons, List.append_assoc] at hnames
      exact ⟨hstands, hnames⟩

/-- No step leaves the tree. -/
theorem kept_stands (root : Node) : Kept root (Stands root) where
  nil := trivial
  tail h := h.tail
  cons h hfind := h.cons hfind

-- ================================================================= paths

/-- Whatever a path resolves to, all directories on the way keep names
apart. -/
theorem resolve_distinct {files : Files} (hroot : files.root.Distinct)
    {followLast : Bool} {path : Path} {trail : Trail}
    (h : files.resolve followLast path = .ok trail) :
    OnDistinct trail := by
  rw [resolve] at h
  split at h
  · cases h
  split at h
  · cases h
  split at h
  · cases h
  refine (kept_onDistinct hroot).walk ?_ h
  split
  · exact onDistinct_nil
  · exact trailFrom_distinct hroot onDistinct_nil

/-- What is found by a path stands at the end of a walk. -/
theorem look_eq_ok {files : Files} {path : Path} {n : Node}
    (h : files.look path = .ok n) :
    ∃ trail, files.resolve true path = .ok trail ∧
      trail.node files.root = n := by
  rw [look] at h
  cases hresolve : files.resolve true path with
  | error e => rw [hresolve] at h; cases h
  | ok trail => rw [hresolve] at h; cases h; exact ⟨trail, rfl, rfl⟩

/-- And what stands at the end of a walk is found. -/
theorem look_of_resolve {files : Files} {path : Path} {trail : Trail}
    (h : files.resolve true path = .ok trail) :
    files.look path = .ok (trail.node files.root) := by
  rw [look, h]
  rfl

/-- What a path leads to in a tree of distinct names is such a tree. -/
theorem look_distinct {files : Files} (hroot : files.root.Distinct)
    {path : Path} {n : Node} (h : files.look path = .ok n) : n.Distinct := by
  obtain ⟨trail, hresolve, rfl⟩ := look_eq_ok h
  exact (resolve_distinct hroot hresolve).node hroot

end Files

end Restoration
