/-
What a removal leaves alone.

In a tree without links a path without `..` names one place, whatever else
is in the tree (`place`), and walking it is looking up the names of that
place one by one (`walkWith_linkFree`). An edit of the tree shows only at
the place of the entry that it changes, below it and above it
(`at?_edit_of_apart`). A removal edits at the place of the removed path and
nowhere else, so what lies apart from that place is looked up as before
(`look_removeAll_iff`).

That a tree has no links, or distinct names, is seen entry by entry, so
edits and removals keep both for one reason (`Node.Hereditary`).
-/
import Mathlib.Data.List.Infix
import Restoration.Files.Removal
import Restoration.Proofs.Files

namespace Restoration

-- =============================================================== entries

namespace Entries

variable {name other : Bytes} {n : Node}

/-- What was put under a name is found under it. -/
theorem find?_put_self : ∀ entries :
    Entries, find? name (put name n entries) = some n
  | [] => by rw [put, find?, if_pos rfl]
  | (k, m) :: rest => by
    rw [put]
    split
    case isTrue h => rw [find?, if_pos h]
    case isFalse h => rw [find?, if_neg h, find?_put_self rest]

/-- Putting something under one name changes nothing under another. -/
theorem find?_put_of_ne (h : other ≠ name) :
    ∀ entries : Entries, find? other (put name n entries) = find? other entries
  | [] => if_neg (Ne.symm h)
  | (k, m) :: rest => by
    rw [put]
    split
    case isTrue hk =>
      have hne : k ≠ other := fun heq => h (heq.symm.trans hk)
      rw [find?, if_neg hne, find?, if_neg hne]
    case isFalse => rw [find?, find?, find?_put_of_ne h rest]

/-- Nor does dropping a name. -/
theorem find?_drop_of_ne (h : other ≠ name) :
    ∀ entries : Entries, find? other (drop name entries) = find? other entries
  | [] => rfl
  | (k, m) :: rest => by
    have ih := find?_drop_of_ne h rest
    unfold drop at ih ⊢
    rw [List.filter_cons]
    split
    case isTrue => rw [find?, find?, ih]
    case isFalse hk =>
      have hkname : k = name := by simpa using hk
      rw [ih, find?, if_neg (fun heq => h (heq.symm.trans hkname))]

/-- After putting, an entry is one of the old ones or the one that was put.
-/
theorem mem_put {entry : Bytes × Node} :
    ∀ {entries : Entries}, entry ∈ put name n entries →
      entry ∈ entries ∨ entry.2 = n
  | [], h => .inr (List.mem_singleton.mp h ▸ rfl)
  | (k, m) :: rest, h => by
    rw [put] at h
    split at h
    · rcases List.mem_cons.mp h with rfl | h
      · exact .inr rfl
      · exact .inl (List.mem_cons_of_mem _ h)
    · rcases List.mem_cons.mp h with rfl | h
      · exact .inl List.mem_cons_self
      · exact (mem_put h).imp (List.mem_cons_of_mem _) id

/-- The names stay, and a new one comes last. -/
theorem names_put : ∀ entries : Entries,
    (put name n entries).map Prod.fst = entries.map Prod.fst ∨
      name ∉ entries.map Prod.fst ∧
        (put name n entries).map Prod.fst = entries.map Prod.fst ++ [name]
  | [] => .inr ⟨List.not_mem_nil, rfl⟩
  | (k, m) :: rest => by
    rw [put]
    split
    case isTrue hk => exact .inl (by rw [List.map_cons, List.map_cons, hk])
    case isFalse hk =>
      rw [List.map_cons, List.map_cons]
      rcases names_put rest with h | ⟨hnot, h⟩
      · exact .inl (by rw [h])
      · refine .inr ⟨fun hmem => ?_, by rw [h, List.cons_append]⟩
        rcases List.mem_cons.mp hmem with heq | hmem
        · exact hk heq.symm
        · exact hnot hmem

end Entries

-- ================================================================= edits

namespace Node

/-- A change of entries at a name leaves all other names alone. -/
def OnlyAt (name : Bytes) (change : Entries → Entries) : Prop :=
  ∀ entries other, other ≠ name →
    Entries.find? other (change entries) = Entries.find? other entries

/-- Putting edits at the one name. -/
theorem onlyAt_put (name : Bytes) (n : Node) :
    OnlyAt name (Entries.put name n) :=
  fun entries _ h => Entries.find?_put_of_ne h entries

/-- So does dropping. -/
theorem onlyAt_drop (name : Bytes) : OnlyAt name (Entries.drop name) :=
  fun entries _ h => Entries.find?_drop_of_ne h entries

/-- What lies apart from the entry that is changed is as before. -/
theorem at?_edit_of_apart {name : Bytes} {change : Entries → Entries}
    (h : OnlyAt name change) :
    ∀ {above names : List Bytes} {n : Node}, ¬ above ++ [name] <+: names →
      ¬ names <+: above ++ [name] →
      at? names (edit change above n) = at? names n
  | _, [], _, _, hnot => absurd List.nil_prefix hnot
  | [], other :: names, n, hnot, _ => by
    have hne : other ≠ name := by
      rintro rfl
      exact hnot (List.prefix_append [other] names)
    cases n with
    | directory readable es =>
      rw [edit, at?, at?, entries, entries, h es other hne]
    | file => rfl
    | link => rfl
  | a :: above, other :: names, n, hnot, hnot' => by
    cases n with
    | file => rfl
    | link => rfl
    | directory readable es =>
      rw [edit]
      cases hfind : Entries.find? a es with
      | none => rfl
      | some m =>
        dsimp only
        rw [at?, at?, entries, entries]
        -- the two ways go on together, or part at this directory
        by_cases heq : other = a
        · subst heq
          rw [Entries.find?_put_self, hfind, Option.bind_some, Option.bind_some]
          refine at?_edit_of_apart h (fun hp => hnot ?_) (fun hp => hnot' ?_)
          · exact List.cons_prefix_cons.mpr ⟨rfl, hp⟩
          · exact List.cons_prefix_cons.mpr ⟨rfl, hp⟩
        · rw [Entries.find?_put_of_ne heq]

/-- Only a directory leads on to one. -/
theorem isDirectory_of_at? {names : List Bytes} {n m : Node}
    (h : at? names n = some m) (hm : m.isDirectory = true) :
    n.isDirectory = true := by
  cases n with
  | directory => rfl
  | _ =>
    cases names with
    | nil =>
      cases h
      cases hm
    | cons => cases h

/-- Above that entry, the edit is one of what is below. -/
theorem at?_edit_append (change : Entries → Entries) :
    ∀ (names below : List Bytes) (n : Node),
      at? names (edit change (names ++ below) n)
        = (at? names n).map (edit change below)
  | [], _, _ => rfl
  | name :: names, below, n => by
    cases n with
    | file => rfl
    | link => rfl
    | directory readable es =>
      rw [List.cons_append, edit]
      cases hfind : Entries.find? name es with
      | none => simp [at?, entries, hfind]
      | some m =>
        dsimp only
        rw [at?, at?, entries, entries, Entries.find?_put_self, hfind,
          Option.bind_some, Option.bind_some]
        exact at?_edit_append change names below m

end Node

-- ============================================================ hereditary

namespace Node

/-- A property that whatever lies below has too, and that is kept where an
entry with it is put in and where entries are taken out. -/
structure Hereditary (P : Node → Prop) : Prop where
  below : ∀ {n : Node}, P n → ∀ entry ∈ n.entries, P entry.2
  put : ∀ {readable entries name m}, P (.directory readable entries) → P m →
    P (.directory readable (Entries.put name m entries))
  taken : ∀ {readable entries rest}, P (.directory readable entries) →
    rest.Sublist entries → P (.directory readable rest)

namespace Hereditary

variable {P : Node → Prop}

/-- A directory that has lost an entry still has a hereditary property. -/
theorem drop (h : Hereditary P) {readable : Bool} {entries : Entries}
    {name : Bytes} (hn : P (.directory readable entries)) :
    P (.directory readable (Entries.drop name entries)) :=
  h.taken hn List.filter_sublist

/-- An edit keeps what the change of its directory keeps. -/
theorem edit (h : Hereditary P) {change : Entries → Entries}
    (hchange : ∀ {readable entries}, P (.directory readable entries) →
      P (.directory readable (change entries))) :
    ∀ {names : List Bytes} {n : Node}, P n → P (Node.edit change names n)
  | names, .file .., hn => by cases names <;> exact hn
  | names, .link _, hn => by cases names <;> exact hn
  | [], .directory .., hn => hchange hn
  | name :: names, .directory readable es, hn => by
    rw [Node.edit]
    cases hfind : Entries.find? name es with
    | none => exact hn
    | some m =>
        exact h.put hn
          (edit h hchange (h.below hn _ (Entries.mem_of_find? hfind)))

mutual

/-- What a removal that failed has left behind still has a hereditary
property, by induction on the tree. -/
theorem remains (h : Hereditary P) :
    ∀ {n m : Node} {reason : SystemError}, P n →
    n.remains = some (m, reason) → P m
  | .file .., _, _, _, hm => nomatch hm
  | .link _, _, _, _, hm => nomatch hm
  | .directory false es, m, reason, hn, hm => by
    rw [Node.remains] at hm
    cases hm
    exact hn
  | .directory true es, m, reason, hn, hm => by
    rw [Node.remains] at hm
    split at hm
    · rename_i rest reason hrest
      cases hm
      exact remaining h hn hrest
    · cases hm

/-- The same for a removal that got through some of the entries. -/
theorem remaining (h : Hereditary P) :
    ∀ {es rest : List (Bytes × Node)} {reason : SystemError},
    P (.directory true es) → Node.remaining es = some (rest, reason) →
    P (.directory true rest)
  | [], _, _, _, hrest => nomatch hrest
  | (name, n) :: es, rest, reason, hes, hrest => by
    rw [Node.remaining] at hrest
    split at hrest
    · rename_i m reason hm
      cases hrest
      have hput : P (.directory true (Entries.put name m ((name, n) :: es))) :=
        h.put hes (remains h (h.below hes _ List.mem_cons_self) hm)
      rwa [Entries.put, if_pos rfl] at hput
    · exact remaining h (h.taken hes (List.sublist_cons_self _ _)) hrest

end

end Hereditary

/-- That no two entries share a name is hereditary. -/
theorem hereditary_distinct : Hereditary Distinct where
  below hn entry hmem := hn.of_mem hmem
  put {readable entries name m} hn hm := by
    obtain ⟨hnames, hbelow⟩ := distinct_directory.mp hn
    refine distinct_directory.mpr ⟨?_, fun entry hmem => ?_⟩
    · rcases Entries.names_put (n := m) entries with h | ⟨hnot, h⟩
      · rwa [h]
      · rw [h]
        exact (List.perm_append_singleton name _).symm.nodup
          (List.nodup_cons.mpr ⟨hnot, hnames⟩)
    · rcases Entries.mem_put hmem with hold | hnew
      · exact hbelow entry hold
      · exact hnew ▸ hm
  taken hn hrest := by
    obtain ⟨hnames, hbelow⟩ := distinct_directory.mp hn
    exact distinct_directory.mpr
      ⟨hnames.sublist (hrest.map Prod.fst),
        fun entry hmem => hbelow entry (hrest.subset hmem)⟩

-- ============================================================== no links

/-- There is no link, here and below. -/
inductive LinkFree : Node → Prop
  | file (contents : Bytes) (executable : Bool) :
      LinkFree (.file contents executable)
  | directory {readable : Bool} {entries : Entries}
      (inside : ∀ entry ∈ entries, entry.2.LinkFree) :
      LinkFree (.directory readable entries)

@[simp] theorem linkFree_file {contents : Bytes} {executable : Bool} :
    (Node.file contents executable).LinkFree :=
  .file contents executable

@[simp] theorem linkFree_directory {readable : Bool} {entries : Entries} :
    (Node.directory readable entries).LinkFree ↔
      ∀ entry ∈ entries, entry.2.LinkFree := by
  constructor
  · rintro (_ | inside)
    exact inside
  · exact .directory

/-- Where there is nothing there is no link. -/
theorem linkFree_empty : Node.empty.LinkFree := by simp [Node.empty]

/-- What is in a directory without links has none either. -/
theorem LinkFree.of_mem {n : Node} (h : n.LinkFree) :
    ∀ entry ∈ n.entries, entry.2.LinkFree := by
  cases h with
  | file => exact fun _ h => absurd h List.not_mem_nil
  | directory inside => exact inside

/-- Nor has what is found in it under a name. -/
theorem LinkFree.of_find? {name : Bytes} {n m : Node} (h : n.LinkFree)
    (hfind : Entries.find? name n.entries = some m) : m.LinkFree :=
  h.of_mem _ (Entries.mem_of_find? hfind)

/-- Nor has whatever names lead to below it. -/
theorem LinkFree.of_at? : ∀ {names : List Bytes} {n m : Node}, n.LinkFree →
    at? names n = some m → m.LinkFree
  | [], _, _, h, hat => Option.some.inj hat ▸ h
  | name :: names, _, _, h, hat => by
    obtain ⟨k, hfind, hk⟩ := Option.bind_eq_some_iff.mp hat
    exact LinkFree.of_at? (h.of_find? hfind) hk

theorem LinkFree.not_link {target : Path}
    (h : (Node.link target).LinkFree) : False := nomatch h

/-- To be free of links is hereditary. -/
theorem hereditary_linkFree : Hereditary LinkFree where
  below hn := hn.of_mem
  put hn hm := .directory fun entry hmem =>
    (Entries.mem_put hmem).elim (linkFree_directory.mp hn entry)
      fun heq => heq ▸ hm
  taken hn hrest := .directory fun entry hmem =>
    linkFree_directory.mp hn entry (hrest.subset hmem)

end Node

-- ================================================================= walks

namespace Files

variable {root : Node}

/-- What stands on a trail has no links. -/
def OnLinkFree (t : Trail) : Prop := ∀ entry ∈ t, entry.2.LinkFree

theorem onLinkFree_nil : OnLinkFree [] := fun _ h => absurd h List.not_mem_nil

/-- A trail through nodes without links ends at one. -/
theorem OnLinkFree.node {t : Trail} (hroot : root.LinkFree) (h : OnLinkFree t) :
    (t.node root).LinkFree := by
  cases t with
  | nil => exact hroot
  | cons entry rest => exact h entry List.mem_cons_self

/-- The names that a walk goes down to. -/
def downward (names : List Bytes) : List Bytes := names.filter (· ≠ Path.dot)

/-- Stepping to `.` is no step down. -/
theorem downward_dot (names : List Bytes) :
    downward (Path.dot :: names) = downward names :=
  List.filter_cons_of_neg (by simp)

/-- Every other name is a step down. -/
theorem downward_cons {name : Bytes} (h : name ≠ Path.dot)
    (names : List Bytes) :
    downward (name :: names) = name :: downward names :=
  List.filter_cons_of_pos (by simpa using h)

/-- Without links and `..` a walk goes down name by name. -/
theorem walkWith_linkFree (hroot : root.LinkFree) {followLast : Bool}
    {follow : Trail → List Bytes → Except SystemError Trail} :
    ∀ {names : List Bytes} {t t' : Trail}, OnLinkFree t → Path.dots ∉ names →
      walkWith root followLast follow t names = .ok t' →
      OnLinkFree t' ∧ t'.names = t.names ++ downward names ∧
        Node.at? (downward names) (t.node root) = some (t'.node root) ∧
        ∀ name ∈ names, name.length ≤ longestName
  | [], t, t', ht, _, h => by
    cases h
    exact ⟨ht, (List.append_nil _).symm, rfl,
      fun _ h => absurd h List.not_mem_nil⟩
  | name :: names, t, t', ht, hdots, h => by
    obtain ⟨hne, hrest⟩ := not_or.mp (fun h => hdots (List.mem_cons.mpr h))
    have hnode := ht.node hroot
    cases walkWith_cons_iff.mp h with
    | here _ hwalk =>
      obtain ⟨hfree, hnames, hat, hlengths⟩ :=
        walkWith_linkFree hroot ht hrest hwalk
      rw [downward_dot]
      exact ⟨hfree, hnames, hat, List.forall_mem_cons.mpr ⟨by decide, hlengths⟩⟩
    | back => exact absurd rfl hne
    | link _ _ _ hfind => exact (hnode.of_find? hfind).not_link.elim
    | follow _ _ _ hfind => exact (hnode.of_find? hfind).not_link.elim
    | @entry _ n hdot _ hlength hfind _ hwalk =>
      have hcons : OnLinkFree ((name, n) :: t) :=
        List.forall_mem_cons.mpr ⟨hnode.of_find? hfind, ht⟩
      obtain ⟨hfree, hnames, hat, hlengths⟩ :=
        walkWith_linkFree hroot hcons hrest hwalk
      rw [downward_cons hdot]
      refine ⟨hfree, ?_, ?_, List.forall_mem_cons.mpr ⟨hlength, hlengths⟩⟩
      · rw [hnames, Trail.names_cons, List.append_assoc]
        rfl
      · rw [Node.at?, hfind, Option.bind_some]
        exact hat

/-- And it gets wherever there is a directory. -/
theorem walkWith_of_at? (hroot : root.LinkFree) {followLast : Bool}
    {follow : Trail → List Bytes → Except SystemError Trail} {n : Node}
    (hn : n.isDirectory = true) :
    ∀ {names : List Bytes} {t : Trail}, OnLinkFree t → Path.dots ∉ names →
      (∀ name ∈ names, name.length ≤ longestName) →
      Node.at? (downward names) (t.node root) = some n →
      ∃ t', walkWith root followLast follow t names = .ok t' ∧ t'.node root = n
  | [], t, _, _, _, h => ⟨t, rfl, Option.some.inj h⟩
  | name :: names, t, ht, hdots, hlengths, h => by
    obtain ⟨hne, hrest⟩ := not_or.mp (fun h => hdots (List.mem_cons.mpr h))
    obtain ⟨hlength, hothers⟩ := List.forall_mem_cons.mp hlengths
    have hnode := ht.node hroot
    by_cases hdot : name = Path.dot
    · subst hdot
      have hdirectory := Node.isDirectory_of_at? h hn
      rw [downward_dot] at h
      obtain ⟨t', hwalk, ht'⟩ := walkWith_of_at? hroot hn ht hrest hothers h
      exact ⟨t', walkWith_cons_iff.mpr (.here hdirectory hwalk), ht'⟩
    · rw [downward_cons hdot, Node.at?] at h
      obtain ⟨m, hfind, hm⟩ := Option.bind_eq_some_iff.mp h
      have hfree : m.LinkFree := hnode.of_find? hfind
      have hcons : OnLinkFree ((name, m) :: t) :=
        List.forall_mem_cons.mpr ⟨hfree, ht⟩
      obtain ⟨t', hwalk, ht'⟩ := walkWith_of_at? hroot hn hcons hrest hothers hm
      refine ⟨t', walkWith_cons_iff.mpr
        (.entry hdot (Ne.symm hne) hlength hfind ?_ hwalk), ht'⟩
      rintro target rfl
      exact hfree.not_link

-- ================================================================ places

/-- The directory where the walk of a path starts. -/
def base (f : Files) (p : Path) : List Bytes :=
  if p.isAbsolute then [] else f.workingDirectory

/-- The place that a path names where there are no links and no `..`. -/
def place (f : Files) (p : Path) : List Bytes := f.base p ++ downward p.names

/-- The trail from which the walk of a path starts. -/
def start (f : Files) (p : Path) : Trail := if p.isAbsolute then [] else f.here

/-- Resolving a path is a walk along its steps, after three checks of the
text of the path. -/
theorem resolve_eq (f : Files) (followLast : Bool) (p : Path) :
    f.resolve followLast p =
      if p.bytes.contains 0 then .error .zeroByte
      else if p.bytes = [] then .error .noEntry
      else if longestPath < p.bytes.length then .error .nameTooLong
      else walk f.root followLast linkLimit (f.start p) p.steps := rfl

/-- A path leads somewhere if it can be walked at all and the walk gets to
its end. -/
theorem resolve_eq_ok {f : Files} {followLast : Bool} {p : Path} {t : Trail} :
    f.resolve followLast p = .ok t ↔
      p.bytes.contains 0 = false ∧ p.bytes ≠ [] ∧ p.bytes.length ≤ longestPath ∧
        walk f.root followLast linkLimit (f.start p) p.steps = .ok t := by
  rw [resolve_eq]
  constructor
  · intro h
    split at h
    case isTrue => cases h
    case isFalse hzero =>
    split at h
    case isTrue => cases h
    case isFalse hempty =>
    split at h
    case isTrue => cases h
    case isFalse hlong =>
      exact ⟨Bool.not_eq_true _ ▸ hzero, hempty, Nat.not_lt.mp hlong, h⟩
  · rintro ⟨hzero, hempty, hlong, hwalk⟩
    rw [hzero, if_neg Bool.false_ne_true, if_neg hempty,
      if_neg (Nat.not_lt.mpr hlong), hwalk]

/-- In a tree without links, going down never meets one. -/
theorem trailFrom_linkFree (hroot : root.LinkFree) :
    ∀ {names : List Bytes} {t : Trail}, OnLinkFree t →
      OnLinkFree (trailFrom root t names)
  | [], _, ht => ht
  | name :: names, t, ht => by
    rw [trailFrom]
    refine trailFrom_linkFree hroot (List.forall_mem_cons.mpr ⟨?_, ht⟩)
    cases hfind : Entries.find? name (t.node root).entries with
    | none => exact Node.linkFree_empty
    | some n => exact (ht.node hroot).of_find? hfind

/-- A path starts at the root or at the working directory, and that is a
place of the tree. -/
theorem start_stands (f : Files) (p : Path) :
    Stands f.root (f.start p) ∧ (f.start p).names = f.base p := by
  unfold start base
  split
  · exact ⟨trivial, rfl⟩
  · exact trailFrom_stands (t := []) trivial f.workingDirectory

variable {f : Files} {p : Path}

/-- In a tree without links it starts on a trail without links. -/
theorem start_linkFree (hroot : f.root.LinkFree) (p : Path) :
    OnLinkFree (f.start p) ∧ (f.start p).names = f.base p ∧
      (f.start p).node f.root = (Node.at? (f.base p) f.root).getD .empty := by
  obtain ⟨hstands, hnames⟩ := start_stands f p
  refine ⟨?_, hnames, by rw [hstands.node, hnames]⟩
  unfold start
  split
  · exact onLinkFree_nil
  · exact trailFrom_linkFree hroot onLinkFree_nil

/-- The steps of a path are its names, and a last `.` if the path ends with
a slash. -/
theorem steps_cases (p : Path) :
    p.steps = p.names ∨ p.steps = p.names ++ [Path.dot] := by
  unfold Path.steps
  split
  · exact .inr rfl
  · exact .inl rfl

/-- A slash at the end of a path leads no further down. -/
theorem downward_steps (p : Path) : downward p.steps = downward p.names := by
  rcases steps_cases p with h | h
  · rw [h]
  · rw [h]
    simp [downward]

/-- A step is a name of the path or that last `.`. -/
theorem mem_steps {name : Bytes} (h : name ∈ p.steps) :
    name ∈ p.names ∨ name = Path.dot := by
  rcases steps_cases p with hsteps | hsteps
  · exact .inl (hsteps ▸ h)
  · rw [hsteps] at h
    exact (List.mem_append.mp h).imp id List.mem_singleton.mp

/-- A path whose names go never up has no step that does. -/
theorem dots_not_mem_steps (h : Path.dots ∉ p.names) : Path.dots ∉ p.steps :=
  fun hmem =>
  (mem_steps hmem).elim h (by decide)

/-- A path that can be walked, as far as that can be seen from it alone. -/
structure Walkable (p : Path) : Prop where
  noZero : p.bytes.contains 0 = false
  nonempty : p.bytes ≠ []
  short : p.bytes.length ≤ longestPath
  names : ∀ name ∈ p.steps, name.length ≤ longestName

/-- What is found is what is at the place. -/
theorem resolve_linkFree (hroot : f.root.LinkFree) (hdots : Path.dots ∉ p.names)
    {followLast : Bool} {t : Trail} (h : f.resolve followLast p = .ok t) :
    Walkable p ∧ OnLinkFree t ∧ t.names = f.place p ∧
      Node.at? (downward p.names) ((f.start p).node f.root)
        = some (t.node f.root) := by
  obtain ⟨hzero, hempty, hlong, hwalk⟩ := resolve_eq_ok.mp h
  obtain ⟨hon, hnames, -⟩ := start_linkFree hroot p
  obtain ⟨hfree, htrail, hat, hlengths⟩ :=
    walkWith_linkFree hroot hon (dots_not_mem_steps hdots) hwalk
  rw [downward_steps] at htrail hat
  exact ⟨⟨hzero, hempty, hlong, hlengths⟩,
    hfree, by rw [htrail, hnames]; rfl, hat⟩

/-- In a tree without links, looking along a path that never goes up finds
no link. -/
theorem look_linkFree (hroot : f.root.LinkFree)
    (hdots : Path.dots ∉ p.names) {n : Node}
    (h : f.look p = .ok n) : n.LinkFree := by
  obtain ⟨t, hresolve, rfl⟩ := look_eq_ok h
  exact (resolve_linkFree hroot hdots hresolve).2.1.node hroot

/-- A directory is found exactly if it is there. -/
theorem look_linkFree_iff (hroot : f.root.LinkFree)
    (hdots : Path.dots ∉ p.names) {n : Node} (hn : n.isDirectory = true) :
    f.look p = .ok n ↔ Walkable p ∧
      Node.at? (downward p.names) ((f.start p).node f.root) = some n := by
  constructor
  · intro h
    obtain ⟨t, hresolve, rfl⟩ := look_eq_ok h
    obtain ⟨hwalkable, -, -, hat⟩ := resolve_linkFree hroot hdots hresolve
    exact ⟨hwalkable, hat⟩
  · rintro ⟨hwalkable, hat⟩
    rw [← downward_steps] at hat
    obtain ⟨t, hwalk, rfl⟩ :
        ∃ t, walk f.root true linkLimit (f.start p) p.steps = .ok t ∧
          t.node f.root = n :=
      walkWith_of_at? hroot hn (start_linkFree hroot p).1
        (dots_not_mem_steps hdots) hwalkable.names hat
    have hresolve : f.resolve true p = .ok t :=
      resolve_eq_ok.mpr
        ⟨hwalkable.noZero, hwalkable.nonempty, hwalkable.short, hwalk⟩
    rw [look, hresolve]
    rfl

-- =============================================================== removal

/-- Files that come from others by edits at one place, which bring no links. -/
inductive EditedAt (place : List Bytes) (f : Files) : Files → Prop
  | refl : EditedAt place f f
  | edit {f' : Files} (h : EditedAt place f f') {t : Trail} {name : Bytes}
      {change : Entries → Entries} (hplace : t.names ++ [name] = place)
      (honly : Node.OnlyAt name change)
      (hfree : ∀ {readable entries},
        (Node.directory readable entries).LinkFree →
        (Node.directory readable (change entries)).LinkFree) :
      EditedAt place f (f'.edit t change)

variable {f' : Files}

/-- An edit at one place puts no link into a tree without links. -/
theorem EditedAt.linkFree {place : List Bytes} (h : EditedAt place f f')
    (hroot : f.root.LinkFree) :
    f'.root.LinkFree := by
  induction h with
  | refl => exact hroot
  | edit _ _ _ hfree ih => exact Node.hereditary_linkFree.edit hfree ih

/-- Such an edit leaves the working directory where it is. -/
theorem EditedAt.base {place : List Bytes} (h : EditedAt place f f')
    (p : Path) :
    f'.base p = f.base p := by
  have hdirectory : f'.workingDirectory = f.workingDirectory := by
    induction h with
    | refl => rfl
    | edit _ _ _ _ ih => exact ih
  rw [Files.base, Files.base, hdirectory]

/-- So a path stands for the same place after the edit. -/
theorem EditedAt.place {place : List Bytes} (h : EditedAt place f f')
    (p : Path) :
    f'.place p = f.place p := by
  rw [Files.place, Files.place, h.base]

/-- Two edits at the same place are an edit at that place. -/
theorem EditedAt.trans {place : List Bytes} {f'' : Files}
    (h : EditedAt place f f') (h' : EditedAt place f' f'') :
    EditedAt place f f'' := by
  induction h' with
  | refl => exact h
  | edit _ hplace honly hfree ih => exact ih.edit hplace honly hfree

end Files

namespace Node

/-- The same, seen from a directory on the way, or from an empty one behind
a directory that is gone. -/
theorem at?_getD_edit {name : Bytes} {change : Entries → Entries}
    (h : OnlyAt name change) {above base names : List Bytes}
    (hnot : ¬ above ++ [name] <+: base ++ names)
    (hnot' : ¬ base ++ names <+: above ++ [name]) (root : Node) :
    at? names ((at? base (edit change above root)).getD .empty) =
      at? names ((at? base root).getD .empty) := by
  by_cases hbase : base <+: above
  · obtain ⟨rest, rfl⟩ := hbase
    rw [at?_edit_append]
    rw [List.append_assoc, List.prefix_append_right_inj] at hnot hnot'
    cases at? base root with
    | none => rfl
    | some m => exact at?_edit_of_apart h hnot hnot'
  · rw [at?_edit_of_apart h]
    · exact fun hp => hnot (hp.trans (List.prefix_append _ _))
    · intro hp
      rcases List.prefix_concat_iff.mp hp with rfl | hp
      · exact hnot (List.prefix_append _ _)
      · exact hbase hp

end Node

namespace Files

variable {f f' : Files} {p : Path} {place : List Bytes}

/-- What lies apart from that place is as before. -/
theorem EditedAt.at?_start (h : EditedAt place f f') (hroot : f.root.LinkFree)
    {names : List Bytes} (hnot : ¬ place <+: f.base p ++ names)
    (hnot' : ¬ f.base p ++ names <+: place) :
    Node.at? names ((f'.start p).node f'.root)
      = Node.at? names ((f.start p).node f.root) := by
  induction h with
  | refl => rfl
  | @edit f' h t name change hplace honly hfree ih =>
    -- where the walk starts there may be an edited directory by now, or none
    rw [← ih, (start_linkFree (h.linkFree hroot) p).2.2,
      (start_linkFree (Node.hereditary_linkFree.edit hfree (h.linkFree hroot))
        p).2.2,
      (EditedAt.edit h hplace honly hfree).base, h.base]
    subst hplace
    exact Node.at?_getD_edit honly hnot hnot' f'.root

/-- The last name of a path and what stands before it make up its names. -/
theorem lastName_eq_some {before : List Bytes} {name : Bytes}
    (h : lastName p = some (before, name)) : p.names = before ++ [name] := by
  unfold lastName at h
  split at h
  · cases h
  · rename_i last rest hreverse
    cases h
    rw [← List.reverse_reverse p.names, hreverse, List.reverse_cons]

/-- An empty directory is taken out by an edit. -/
theorem removeEmpty_cases (h : f.removeEmpty p = .ok f') :
    ∃ before name t, lastName p = some (before, name) ∧ name ≠ Path.dot ∧
      name ≠ Path.dots ∧ walk f.root true linkLimit (f.start p) before = .ok t ∧
      (∃ readable, Entries.find? name (t.node f.root).entries
        = some (.directory readable [])) ∧
      f' = f.edit t (Entries.drop name) := by
  unfold removeEmpty at h
  split at h
  case h_1 => cases h
  case h_2 before name hlast =>
    split at h
    case isTrue => cases h
    case isFalse hdot =>
      split at h
      case isTrue => cases h
      case isFalse hdots =>
        change Except.bind (walk f.root true linkLimit (f.start p) before) _ = _
          at h
        cases hwalk : walk f.root true linkLimit (f.start p) before with
        | error reason =>
          rw [hwalk] at h
          cases h
        | ok t =>
          rw [hwalk] at h
          dsimp only [Except.bind] at h
          split at h
          case h_2 readable hfind =>
            cases h
            exact ⟨before, name, t, hlast, hdot, hdots, hwalk,
              ⟨readable, hfind⟩, rfl⟩
          all_goals cases h

/-- Removing an empty directory leaves no two equal names if there were
none. -/
theorem removeEmpty_distinct (hroot : f.root.Distinct)
    (h : f.removeEmpty p = .ok f') :
    f'.root.Distinct := by
  obtain ⟨before, name, t, -, -, -, -, -, rfl⟩ := removeEmpty_cases h
  exact Node.hereditary_distinct.edit Node.hereditary_distinct.drop hroot

/-- An empty directory is taken out at the place of the path. -/
theorem removeEmpty_editedAt (hroot : f.root.LinkFree)
    (hdots : Path.dots ∉ p.names) (h : f.removeEmpty p = .ok f') :
    EditedAt (f.place p) f f' := by
  obtain ⟨before, name, t, hlast, hdot, -, hwalk, -, rfl⟩ := removeEmpty_cases h
  have hnames := lastName_eq_some hlast
  have hbefore : Path.dots ∉ before :=
    fun hmem => hdots (hnames ▸ List.mem_append_left _ hmem)
  obtain ⟨-, htrail, -, -⟩ :=
    walkWith_linkFree hroot (start_linkFree hroot p).1 hbefore hwalk
  have hplace : t.names ++ [name] = f.place p := by
    rw [htrail, (start_linkFree hroot p).2.1, Files.place, hnames]
    simp [downward, hdot]
  exact EditedAt.refl.edit hplace (Node.onlyAt_drop name)
    Node.hereditary_linkFree.drop

/-- What a removal leaves of a tree of distinct names is such a tree. -/
theorem removeAll_distinct (hroot : f.root.Distinct) (p : Path) :
    (f.removeAll p).files.root.Distinct := by
  have edited {t : Trail} {change : Entries → Entries}
      (hchange : ∀ {readable entries},
        (Node.directory readable entries).Distinct →
        (Node.directory readable (change entries)).Distinct) :
      (f.edit t change).root.Distinct :=
    Node.hereditary_distinct.edit hchange hroot
  unfold removeAll
  split
  case h_1 => exact hroot
  case h_2 =>
    cases hremains : f.root.remains with
    | none => exact Node.distinct_empty
    | some left => exact Node.hereditary_distinct.remains hroot hremains
  case h_3 name n above hresolve =>
    have hn : n.Distinct :=
      resolve_distinct hroot hresolve (name, n) List.mem_cons_self
    split
    case h_1 => exact edited Node.hereditary_distinct.drop
    case h_2 => exact hroot
    case h_3 =>
      split
      case h_1 m reason hremains =>
        exact edited
          (Node.hereditary_distinct.put
            · (Node.hereditary_distinct.remains hn hremains))
      case h_2 =>
        have hemptied :
            (f.edit above (Entries.put name .empty)).root.Distinct :=
          edited (Node.hereditary_distinct.put · Node.distinct_empty)
        dsimp only
        split
        case h_1 f' hempty => exact removeEmpty_distinct hemptied hempty
        case h_2 => exact hemptied
        case h_3 => exact hemptied

/-- A removal edits at the place of the path and nowhere else. -/
theorem removeAll_editedAt (hroot : f.root.LinkFree)
    (hdots : Path.dots ∉ p.names) (hne : f.place p ≠ []) :
    EditedAt (f.place p) f (f.removeAll p).files := by
  unfold removeAll
  split
  case h_1 => exact .refl
  case h_2 hresolve =>
    obtain ⟨-, -, hnames, -⟩ := resolve_linkFree hroot hdots hresolve
    exact absurd hnames.symm hne
  case h_3 name n above hresolve =>
    obtain ⟨-, hfree, hnames, -⟩ := resolve_linkFree hroot hdots hresolve
    have hplace : Trail.names above ++ [name] = f.place p := by
      rw [← hnames, Trail.names_cons]
    have hn : n.LinkFree := hfree (name, n) List.mem_cons_self
    split
    case h_1 => exact hn.not_link.elim
    case h_2 => exact .refl
    case h_3 readable entries =>
      split
      case h_1 m reason hremains =>
        exact EditedAt.refl.edit hplace (Node.onlyAt_put name m)
          (Node.hereditary_linkFree.put
            · (Node.hereditary_linkFree.remains hn hremains))
      case h_2 =>
        have hemptied :
            EditedAt (f.place p) f (f.edit above (Entries.put name .empty)) :=
          EditedAt.refl.edit hplace (Node.onlyAt_put name .empty)
            (Node.hereditary_linkFree.put · Node.linkFree_empty)
        dsimp only
        split
        case h_1 f' hempty =>
          have hagain :=
            removeEmpty_editedAt (hemptied.linkFree hroot) hdots hempty
          rw [hemptied.place] at hagain
          exact hemptied.trans hagain
        case h_2 => exact hemptied
        case h_3 => exact hemptied

/-- Two paths without `..` name places of which neither is below the other. -/
structure Apart (f : Files) (p q : Path) : Prop where
  plain : Path.dots ∉ p.names
  plain' : Path.dots ∉ q.names
  notAbove : ¬ f.place p <+: f.place q
  notBelow : ¬ f.place q <+: f.place p

/-- A removal leaves every directory alone that lies apart. -/
theorem look_removeAll_iff {q : Path} (hroot : f.root.LinkFree)
    (apart : f.Apart p q) {n : Node} (hn : n.isDirectory = true) :
    (f.removeAll p).files.look q = .ok n ↔ f.look q = .ok n := by
  have hne : f.place p ≠ [] :=
    fun hnil => apart.notAbove (hnil ▸ List.nil_prefix)
  have hedited := removeAll_editedAt hroot apart.plain hne
  rw [look_linkFree_iff (hedited.linkFree hroot) apart.plain' hn,
    look_linkFree_iff hroot apart.plain' hn,
    hedited.at?_start hroot apart.notAbove apart.notBelow]

end Files

end Restoration
