/-
A removal in two trees.

A removal walks its path and takes out what is there, and of a directory it
walks the path once more, when the directory has been emptied. If what the
path meets is the same in two trees (`Untouched`), the first walks come out the
same, and so do the second ones: an emptied tree has nothing that the tree did
not have (`Part`), so the second walk looks nowhere where the first did not
(`looks_part`). Hence the removals come to the same end and take out the same
(`removeAll_untouched`), and if they succeed, what the path meets afterwards is
again the same in the two trees (`Untouched.removeAll`).
-/
import Restoration.Proofs.Files.Course
import Restoration.Proofs.Files.Presence

namespace Restoration.Files

variable {root root' : Node} {t t' r : Trail} {f f' : Files} {p : Path}
  {name : Bytes} {n : Node}

-- ================================================================= parts

/-- All that is in the second tree is in the first as well. -/
def Part (root root' : Node) : Prop :=
  ∀ q n', Node.at? q root' = some n' → ∃ n, Node.at? q root = some n ∧
    n'.bare = n.bare

/-- A part of a part is a part. -/
theorem Part.trans {root'' : Node} (h : Part root root')
    (h' : Part root' root'') :
    Part root root'' := by
  intro q n'' hq
  obtain ⟨n', hn', hbare'⟩ := h' q n'' hq
  obtain ⟨n, hn, hbare⟩ := h q n' hn'
  exact ⟨n, hn, hbare'.trans hbare⟩

/-- What is not in a tree is not in a part of it. -/
theorem Part.at?_eq_none (h : Part root root') {q : List Bytes}
    (hq : Node.at? q root = none) :
    Node.at? q root' = none := by
  rw [Option.eq_none_iff_forall_ne_some]
  intro n' hn'
  obtain ⟨n, hn, -⟩ := h q n' hn'
  rw [hq] at hn
  cases hn

/-- What is looked up in a part of a tree is looked up in the tree. -/
theorem Part.find? (h : Part root root') (ht : Stands root t)
    (ht' : Stands root' t') (hnames : t'.names = t.names) {n' : Node}
    (hfind : Entries.find? name (t'.node root').entries = some n') :
    ∃ n, Entries.find? name (t.node root).entries = some n ∧
      n'.bare = n.bare := by
  rw [ht.find?_eq, ← hnames]
  exact h _ _ (ht'.at? hfind)

/-- A walk in a part of a tree looks where a walk in the tree does that goes
on. -/
theorem looksWith_part (h : Part root root')
    (look look' : Trail → List Bytes → List (List Bytes)) {more : List Bytes}
    (hlook : ∀ {t t' names}, Stands root t → Stands root' t' →
      t'.names = t.names → look' t' names ⊆ look t (names ++ more)) :
    ∀ {names : List Bytes} {t t' : Trail}, Stands root t → Stands root' t' →
      t'.names = t.names →
      looksWith root' look' t' names ⊆ looksWith root look t (names ++ more)
  | [], _, _, _, _, _ => List.nil_subset _
  | name :: names, t, t', ht, ht', hnames => by
    rw [List.cons_append, looksWith, looksWith, hnames]
    refine List.cons_subset_cons _ ?_
    split
    case isTrue => exact looksWith_part h look look' hlook ht ht' hnames
    case isFalse =>
    split
    case isTrue =>
      refine looksWith_part h look look' hlook ht.tail ht'.tail ?_
      rw [Trail.names_tail, Trail.names_tail, hnames]
    case isFalse =>
    refine List.cons_subset_cons _ ?_
    cases hfind' : Entries.find? name (t'.node root').entries with
    | none => exact List.nil_subset _
    | some n' =>
      obtain ⟨n, hfind, hbare⟩ := h.find? ht ht' hnames hfind'
      rw [hfind]
      have hentry : looksWith root' look' ((name, n') :: t') names
          ⊆ looksWith root look ((name, n) :: t) (names ++ more) := by
        refine looksWith_part h look look' hlook (ht.cons hfind)
          (ht'.cons hfind') ?_
        rw [Trail.names_cons, Trail.names_cons, hnames]
      cases n' with
      | link target =>
        cases Node.bare_eq_link hbare.symm
        dsimp only
        rw [← List.append_assoc]
        cases target.isAbsolute with
        | true => exact hlook trivial trivial rfl
        | false => exact hlook ht ht' hnames
      | file => cases n <;> first | exact hentry | cases hbare
      | directory => cases n <;> first | exact hentry | cases hbare

/-- In a part of the tree a walk looks at no more places, for it can only
end earlier. -/
theorem looks_part (h : Part root root') {more : List Bytes} :
    ∀ (links : Nat) {names : List Bytes} {t t' : Trail}, Stands root t →
      Stands root' t' → t'.names = t.names →
      looks root' links t' names ⊆ looks root links t (names ++ more)
  | 0, _, _, _, ht, ht', hnames =>
    looksWith_part h _ _ (fun _ _ _ => List.nil_subset _) ht ht' hnames
  | links + 1, _, _, _, ht, ht', hnames =>
    looksWith_part h (looks root links) (looks root' links) (looks_part h links)
      ht ht' hnames

-- =============================================================== entries

section

variable {above : List Bytes}

/-- Something else in the place of an entry. -/
theorem at?_edit_put (hat : Node.at? (above ++ [name]) root = some n) (m : Node)
    (below : List Bytes) :
    Node.at? (above ++ [name] ++ below)
        (Node.edit (Entries.put name m) above root)
      = Node.at? below m := by
  rw [Node.at?_concat, Option.bind_eq_some_iff] at hat
  obtain ⟨d, hd, hfind⟩ := hat
  obtain ⟨readable, hdirectory⟩ := Node.directory_of_find? hfind
  rw [List.append_assoc, List.singleton_append, Node.at?_edit_entry, hd,
    Option.bind_some, hdirectory]
  dsimp only
  rw [Entries.find?_put_self, Option.bind_some]

/-- A link is known by itself. -/
theorem eq_link_of_bare {m : Option Node} {target : Path}
    (h : m.map Node.bare = some (.link target)) : m = some (.link target) := by
  obtain ⟨n, rfl, hn⟩ := Option.map_eq_some_iff.mp h
  rw [Node.bare_eq_link hn]

/-- A link elsewhere. -/
theorem at?_edit_link {q : List Bytes} {target : Path} {m : Node}
    (hat : Node.at? q root = some (.link target))
    (hnot : ¬ above ++ [name] <+: q) :
    Node.at? q (Node.edit (Entries.put name m) above root)
      = some (.link target) := by
  refine eq_link_of_bare ?_
  rw [Node.bare_at?_edit (Node.onlyAt_put name m) root hnot, hat]
  rfl

/-- A changed entry leaves a part of the tree if it is itself a part. -/
theorem part_edit {change : Entries → Entries} (honly : Node.OnlyAt name change)
    (hentry : ∀ below n',
      Node.at? (above ++ [name] ++ below)
        (Node.edit change above root) = some n' →
      ∃ n, Node.at? (above ++ [name] ++ below) root = some n ∧
        n'.bare = n.bare) :
    Part root (Node.edit change above root) := by
  intro q n' hq
  by_cases hin : above ++ [name] <+: q
  · obtain ⟨below, rfl⟩ := hin
    exact hentry below n' hq
  · have hbare := Node.bare_at?_edit honly root hin
    rw [hq, Option.map_some, eq_comm, Option.map_eq_some_iff] at hbare
    obtain ⟨n, hn, hbare⟩ := hbare
    exact ⟨n, hn, hbare.symm⟩

/-- Dropping an entry leaves a part of the tree. -/
theorem part_edit_drop (root : Node) (above : List Bytes) (name : Bytes) :
    Part root (Node.edit (Entries.drop name) above root) := by
  refine part_edit (Node.onlyAt_drop name) fun below n' hat => ?_
  rw [List.append_assoc, List.singleton_append, Node.at?_edit_drop] at hat
  cases hat

/-- An emptied directory leaves a part of the tree. -/
theorem part_edit_empty (hat : Node.at? (above ++ [name]) root = some n)
    (hempty : n.bare = Node.empty) :
    Part root (Node.edit (Entries.put name .empty) above root) := by
  refine part_edit (Node.onlyAt_put name .empty) fun below n' hat' => ?_
  rw [at?_edit_put hat] at hat'
  cases below with
  | nil =>
    cases hat'
    rw [List.append_nil]
    exact ⟨n, hat, hempty.symm⟩
  | cons => cases hat'

/-- The same in the place of an entry of either tree. -/
theorem alikeAt_edit_put {places : List Bytes → Prop}
    (h : AlikeAt places root root')
    (hat : Node.at? (above ++ [name]) root = some n)
    (hat' : Node.at? (above ++ [name]) root' = some n) (m : Node) :
    AlikeAt places (Node.edit (Entries.put name m) above root)
      (Node.edit (Entries.put name m) above root') := by
  intro q hq
  by_cases hin : above ++ [name] <+: q
  · obtain ⟨below, rfl⟩ := hin
    rw [at?_edit_put hat, at?_edit_put hat']
  · rw [Node.bare_at?_edit (Node.onlyAt_put name m) root hin,
      Node.bare_at?_edit (Node.onlyAt_put name m) root' hin]
    exact h q hq

end

-- ============================================================= untouched

/-- What a path meets is the same before a change and after it. -/
structure Untouched (f f' : Files) (p : Path) : Prop where
  workingDirectory : f'.workingDirectory = f.workingDirectory
  /-- Wherever a walk of the path looks. -/
  way : AlikeAt (· ∈ looks f.root linkLimit (f.start p) p.steps) f.root f'.root
  /-- The entry that the path names, where it leads, and what is below. -/
  whole : ∀ q, f.Inside p q ∨ f.Reaches p q →
    Node.at? q f'.root = Node.at? q f.root

/-- A change of nothing touches no path. -/
theorem Untouched.refl (f : Files) (p : Path) : Untouched f f p :=
  ⟨rfl, fun _ _ => rfl, fun _ _ => rfl⟩

/-- An untouched path resolves to the same place, or fails for the same
reason. -/
theorem resolve_untouched (h : Untouched f f' p) (followLast : Bool) :
    (f'.resolve followLast p).map Trail.names
      = (f.resolve followLast p).map Trail.names := by
  rw [resolve_eq, resolve_eq]
  split
  · rfl
  split
  · rfl
  split
  · rfl
  · exact walk_alike_eq h.way linkLimit (start_stands f p).1
      (start_stands f' p).1 (start_names h.workingDirectory p) fun _ hq => hq

/-- So it leads somewhere if and only if it did. -/
theorem leadsSomewhere_untouched (h : Untouched f f' p) :
    f'.leadsSomewhere p = f.leadsSomewhere p := by
  unfold leadsSomewhere look
  rcases alike_cases (resolve_untouched h true) with
    ⟨reason, hfails, hfails'⟩ | ⟨r, r', hreaches, hreaches', -⟩
  · rw [hfails, hfails']
    rfl
  · rw [hreaches, hreaches']
    rfl

/-- Where a path leads that ends in a name, something is. -/
theorem isSome_of_resolve {followLast : Bool} {before : List Bytes}
    (hlast : lastName p = some (before, name)) (hdot : name ≠ Path.dot)
    (hdots : name ≠ Path.dots) (h : f.resolve followLast p = .ok r) :
    (Node.at? r.names f.root).isSome = true := by
  obtain ⟨t, left, rest, hbefore, hname⟩ := resolve_split hlast h
  have kept : Kept f.root fun t => Stands f.root t ∧
      (Node.at? t.names f.root).isSome = true := by
    refine ⟨⟨trivial, rfl⟩, fun {t} ht => ⟨ht.1.tail, ?_⟩,
      fun {t name n} ht hfind =>
      ⟨ht.1.cons hfind, ?_⟩⟩
    · rw [Trail.names_tail]
      exact isSome_of_dropLast ht.2
    · rw [Trail.names_cons, ht.1.at? hfind]
      rfl
  have ht : Stands f.root t :=
    (kept_stands f.root).walk (start_stands f p).1 hbefore
  obtain ⟨t', hbefore', n, hfind⟩ := find?_of_resolve hlast hdot hdots h
  rw [hbefore] at hbefore'
  cases hbefore'
  have hat : (Node.at? (t.names ++ [name]).dropLast f.root).isSome = true :=
    isSome_of_dropLast (Option.isSome_of_eq_some (ht.at? hfind))
  rw [List.dropLast_concat] at hat
  exact (kept.walk ⟨ht, hat⟩ hname).2

/-- What stands at the end of a trail is there, if anything is there or
below. -/
theorem Stands.at?_of_isSome (ht : Stands root t) {below : List Bytes}
    (h : (Node.at? (t.names ++ below) root).isSome = true) :
    Node.at? t.names root = some (t.node root) := by
  rw [Node.at?_append] at h
  obtain ⟨n, hn⟩ := Option.isSome_iff_exists.mp (Option.isSome_of_isSome_bind h)
  rw [ht.node, hn]
  rfl

/-- An entry is there if the path that leads to it ends in a name. -/
theorem at?_of_resolve {above : Trail} {before : List Bytes} {last : Bytes}
    (hlast : lastName p = some (before, last)) (hdot : last ≠ Path.dot)
    (hdots : last ≠ Path.dots)
    (hresolve : f.resolve false p = .ok ((name, n) :: above)) :
    Node.at? (above.names ++ [name]) f.root = some n := by
  have hsome := isSome_of_resolve hlast hdot hdots hresolve
  rw [← List.append_nil (Trail.names _)] at hsome
  rw [← Trail.names_cons name n]
  exact (resolve_stands hresolve).at?_of_isSome hsome

/-- A path reaches what is at or below the place it resolves to. -/
theorem reaches_iff (hresolve : f.resolve false p = .ok r) {q : List Bytes} :
    f.Reaches p q ↔ r.names <+: q := by
  simp [Reaches, hresolve]

/-- What a path names but does not lead to is a link. -/
theorem link_of_inside (hresolve : f.resolve false p = .ok r) {q : List Bytes}
    (hin : f.Inside p q) (hnot : ¬ f.Reaches p q)
    (hat : Node.at? q f.root = some n) :
    ∃ target, n = .link target := by
  obtain ⟨place, hplace, below, rfl⟩ := hin
  by_cases hlink : f.LinkBehindSlash p
  · obtain ⟨-, place', target, hplace', htarget⟩ := hlink
    rw [hplace] at hplace'
    cases hplace'
    rw [Node.at?_append, htarget] at hat
    cases below with
    | nil => exact ⟨target, (Option.some.inj hat).symm⟩
    | cons => cases hat
  · rw [named?_of_resolve hresolve hlink] at hplace
    cases hplace
    exact absurd ((reaches_iff hresolve).mpr (List.prefix_append _ _)) hnot

/-- A path that does not lead to its last name names a link there. -/
theorem link_of_named {before : List Bytes} {last : Bytes}
    (hlast : lastName p = some (before, last)) (hdot : last ≠ Path.dot)
    (hdots : last ≠ Path.dots) (hresolve : f.resolve false p = .ok r)
    (ht : walk f.root true linkLimit (f.start p) before = .ok t)
    (hnot : ¬ f.Reaches p (t.names ++ [last])) :
    f.Inside p (t.names ++ [last]) ∧
      ∃ target, Node.at? (t.names ++ [last]) f.root = some (.link target) := by
  have hnamed : f.named? p = some (t.names ++ [last]) := by
    rw [← child_of_ne hdot hdots]
    exact named?_eq_some.mpr
      ⟨(resolve_eq_ok.mp hresolve).2.1, .inr ⟨before, last, t, hlast, ht, rfl⟩⟩
  have hinside : f.Inside p (t.names ++ [last]) :=
    ⟨_, hnamed, List.prefix_refl _⟩
  obtain ⟨t', ht', n, hfind⟩ := find?_of_resolve hlast hdot hdots hresolve
  rw [ht] at ht'
  cases ht'
  have hat := ((kept_stands f.root).walk (start_stands f p).1 ht).at? hfind
  obtain ⟨target, rfl⟩ := link_of_inside hresolve hinside hnot hat
  exact ⟨hinside, target, hat⟩

-- =============================================================== removal

/-- An empty directory is taken out of either tree, or of neither for the
same reason. -/
theorem removeEmpty_alike
    (hdirectory : f'.workingDirectory = f.workingDirectory)
    (h : ∀ before name, lastName p = some (before, name) → name ≠ Path.dot →
      name ≠ Path.dots →
      AlikeAt (· ∈ looks f.root linkLimit (f.start p) before) f.root f'.root ∧
        ∀ t, walk f.root true linkLimit (f.start p) before = .ok t →
          Node.at? (t.names ++ [name]) f'.root
            = Node.at? (t.names ++ [name]) f.root) :
    (f'.removeEmpty p).map (fun _ => ()) = (f.removeEmpty p).map
      fun _ => () := by
  unfold removeEmpty
  cases hlast : lastName p with
  | none => rfl
  | some entry =>
    obtain ⟨before, name⟩ := entry
    dsimp only
    split
    case isTrue => rfl
    case isFalse hdot =>
    split
    case isTrue => rfl
    case isFalse hdots =>
    obtain ⟨hway, hentry⟩ := h before name hlast hdot hdots
    have hstart := start_stands f p
    have hstart' := start_stands f' p
    have hwalks :
        (walk f'.root true linkLimit (f'.start p) before).map Trail.names
        = (walk f.root true linkLimit (f.start p) before).map Trail.names :=
      walk_alike_eq hway linkLimit hstart.1 hstart'.1 (start_names hdirectory p)
        fun _ hq => hq
    change Except.map _
        (Except.bind (walk f'.root true linkLimit (f'.start p) before) _)
      = Except.map _
        (Except.bind (walk f.root true linkLimit (f.start p) before) _)
    rcases alike_cases hwalks with ⟨reason, hwalk, hwalk'⟩ |
      ⟨t, t', hwalk, hwalk', hnames⟩
    · rw [hwalk, hwalk']
      rfl
    · have hfind : Entries.find? name (t'.node f'.root).entries
          = Entries.find? name (t.node f.root).entries := by
        rw [((kept_stands f'.root).walk hstart'.1 hwalk').find?_eq, hnames,
          hentry t hwalk, ((kept_stands f.root).walk hstart.1 hwalk).find?_eq]
      rw [hwalk, hwalk']
      dsimp only [Except.bind]
      rw [hfind]
      split <;> rfl

/-- What is where a path leads, if anything, is there in either tree. -/
theorem at?_untouched (h : Untouched f f' p)
    (hresolve : f.resolve false p = .ok r) (below : List Bytes) :
    Node.at? (r.names ++ below) f'.root = Node.at? (r.names ++ below) f.root :=
  h.whole _ (.inr ⟨r, hresolve, List.prefix_append _ _⟩)

variable {above above' : Trail}

/-- An entry that a path leads to is there in the other tree as well. -/
theorem at?_entry_untouched (h : Untouched f f' p)
    (hresolve : f.resolve false p = .ok ((name, n) :: above))
    (hat : Node.at? (above.names ++ [name]) f.root = some n) :
    Node.at? (above.names ++ [name]) f'.root = some n := by
  have hsame := at?_untouched h hresolve []
  rwa [List.append_nil, Trail.names_cons, hat] at hsame

/-- What is put in the place of the entry that a path leads to. -/
theorem at?_put_untouched (h : Untouched f f' p)
    (hresolve : f.resolve false p = .ok ((name, n) :: above))
    (habove : above'.names = above.names) (m : Node) {below : List Bytes}
    (hsome : (Node.at? (above.names ++ [name] ++ below) f.root).isSome = true) :
    Node.at? (above.names ++ [name] ++ below)
        (f'.edit above' (Entries.put name m)).root
      = Node.at? (above.names ++ [name] ++ below)
        (f.edit above (Entries.put name m)).root := by
  have hat : Node.at? (above.names ++ [name]) f.root = some n := by
    rw [← Trail.names_cons name n] at hsome ⊢
    exact (resolve_stands hresolve).at?_of_isSome hsome
  have hat' := at?_entry_untouched h hresolve hat
  have hput : Node.at? (above.names ++ [name] ++ below)
        (f'.edit above' (Entries.put name m)).root
      = Node.at? below m := by
    rw [← habove] at hat' ⊢
    exact at?_edit_put hat' m below
  rw [hput]
  exact (at?_edit_put hat m below).symm

/-- Where an entry is taken out, nothing is left. -/
theorem at?_drop (g : Files) (ht : t.names = above.names) (below : List Bytes) :
    Node.at? (above.names ++ [name] ++ below)
      (g.edit t (Entries.drop name)).root = none := by
  rw [List.append_assoc, List.singleton_append, ← ht]
  exact Node.at?_edit_drop g.root

/-- A directory that was emptied in both trees is taken out of both, or of
neither. -/
theorem removeEmpty_untouched (h : Untouched f f' p)
    (hresolve : f.resolve false p = .ok ((name, n) :: above))
    (habove : above'.names = above.names) (hempty : n.bare = Node.empty) :
    ((f'.edit above' (Entries.put name .empty)).removeEmpty p).map (fun _ => ())
      = ((f.edit above (Entries.put name .empty)).removeEmpty p).map
        fun _ => () := by
  refine removeEmpty_alike h.workingDirectory
    fun before last hlast hdot hdots => ?_
  have hat := at?_of_resolve hlast hdot hdots hresolve
  have hat' := at?_entry_untouched h hresolve hat
  have hroot' : (f'.edit above' (Entries.put name .empty)).root
      = Node.edit (Entries.put name .empty) above.names f'.root := by
    rw [← habove]; rfl
  have hroot : (f.edit above (Entries.put name .empty)).root
      = Node.edit (Entries.put name .empty) above.names f.root := rfl
  have hstart := start_stands f p
  have hemptied := start_stands (f.edit above (Entries.put name .empty)) p
  have hdirectory : (f.edit above (Entries.put name .empty)).workingDirectory
      = f.workingDirectory := rfl
  have hnames := start_names hdirectory p
  rw [hroot']
  refine ⟨fun q hq => ?_, fun t hwalk => ?_⟩
  · refine alikeAt_edit_put h.way hat hat' .empty q ?_
    obtain ⟨more, hmore⟩ : ∃ more, p.steps = before ++ more := by
      rcases steps_cases p with hsteps | hsteps <;>
        rw [hsteps, lastName_eq_some hlast]
      · exact ⟨[last], rfl⟩
      · exact ⟨[last, Path.dot], by rw [List.append_assoc]; rfl⟩
    rw [hmore]
    exact looks_part (part_edit_empty hat hempty) linkLimit hstart.1
      hemptied.1 hnames hq
  · obtain ⟨way, hway⟩ := walk_of_resolve hlast hresolve
    have hplace : t.names = way.names :=
      walk_agree (agree_edit_empty (resolve_stands hresolve) hempty) linkLimit
        hstart.1 hemptied.1 hnames hway hwalk
    rw [hplace, hroot]
    by_cases hin : above.names ++ [name] <+: way.names ++ [last]
    · obtain ⟨below, hbelow⟩ := hin
      rw [← hbelow, at?_edit_put hat, at?_edit_put hat']
    · -- the path names a link, with a slash behind it, and neither tree loses
      -- that
      have hnot : ¬ f.Reaches p (way.names ++ [last]) := by
        rwa [reaches_iff hresolve, Trail.names_cons]
      obtain ⟨hinside, target, hlink⟩ :=
        link_of_named hlast hdot hdots hresolve hway hnot
      have hlink' : Node.at? (way.names ++ [last]) f'.root
          = some (.link target) := by
        rw [h.whole _ (.inl hinside), hlink]
      rw [at?_edit_link hlink hin, at?_edit_link hlink' hin]

/-- Where an emptied directory is taken out, nothing is left. -/
theorem at?_emptied (hresolve : f.resolve false p = .ok ((name, n) :: above))
    (hempty : n.bare = Node.empty) {g : Files}
    (h : (f.edit above (Entries.put name .empty)).removeEmpty p = .ok g)
    (below : List Bytes) :
    Node.at? (above.names ++ [name] ++ below) g.root = none := by
  have hdirectory : (f.edit above (Entries.put name .empty)).workingDirectory
      = f.workingDirectory := rfl
  have hagree := agree_edit_empty (resolve_stands hresolve) hempty
  obtain ⟨place, last, hnames, rfl⟩ :=
    removeEmpty_place hdirectory hagree hresolve h
  rw [← Trail.names_cons name n, hnames, List.append_assoc,
    List.singleton_append]
  exact Node.at?_edit_drop _

/-- What a removal comes to, and what it leaves where its path leads. -/
structure EndsAlike (f : Files) (p : Path)
    (removal removal' : Removal) : Prop where
  result : removal'.result = removal.result
  left : ∀ q, f.Reaches p q → (Node.at? q f.root).isSome = true →
    Node.at? q removal'.files.root = Node.at? q removal.files.root

/-- An entry is removed from either tree. -/
theorem removeAll_entry_untouched (h : Untouched f f' p)
    (hresolve : f.resolve false p = .ok ((name, n) :: above))
    (hresolve' : f'.resolve false p = .ok ((name, n) :: above'))
    (habove : above'.names = above.names) :
    EndsAlike f p (f.removeAll p) (f'.removeAll p) := by
  have hbelow {q : List Bytes} (hq : f.Reaches p q) :
      above.names ++ [name] <+: q :=
    Trail.names_cons name n above ▸ (reaches_iff hresolve).mp hq
  unfold removeAll
  rw [hresolve, hresolve']
  cases n with
  | link target =>
    refine ⟨rfl, fun q hq _ => ?_⟩
    obtain ⟨below, rfl⟩ := hbelow hq
    exact (at?_drop f' habove below).trans (at?_drop f rfl below).symm
  | file contents executable =>
    exact ⟨rfl, fun q hq _ => h.whole q (.inr hq)⟩
  | directory readable es =>
    have hemptied (m : Node) (q : List Bytes) (hq : f.Reaches p q)
        (hsome : (Node.at? q f.root).isSome = true) :
        Node.at? q (f'.edit above' (Entries.put name m)).root
          = Node.at? q (f.edit above (Entries.put name m)).root := by
      obtain ⟨below, rfl⟩ := hbelow hq
      exact at?_put_untouched h hresolve habove m hsome
    dsimp only
    cases hremains : (Node.directory readable es).remains with
    | some left => exact ⟨rfl, hemptied left.1⟩
    | none =>
      have hempty := Node.bare_of_remains hremains
      have hends := removeEmpty_untouched h hresolve habove hempty
      dsimp only
      rcases alike_cases hends with ⟨reason, hfails, hfails'⟩ |
        ⟨g, g', hremove, hremove', -⟩
      · rw [hfails, hfails']
        cases reason <;> exact ⟨rfl, hemptied .empty⟩
      · rw [hremove, hremove']
        refine ⟨rfl, fun q hq _ => ?_⟩
        have hgone := at?_emptied hresolve hempty hremove
        have hgone' := at?_emptied hresolve' hempty hremove'
        obtain ⟨below, rfl⟩ := hbelow hq
        rw [habove] at hgone'
        exact (hgone' below).trans (hgone below).symm

/-- A removal comes to the same end in either tree, and leaves the same. -/
theorem removeAll_untouched (h : Untouched f f' p) :
    EndsAlike f p (f.removeAll p) (f'.removeAll p) := by
  rcases alike_cases (resolve_untouched h false) with
    ⟨reason, hfails, hfails'⟩ | ⟨r, r', hresolve, hresolve', hnames⟩
  · unfold removeAll
    rw [hfails, hfails']
    refine ⟨rfl, ?_⟩
    rintro q ⟨t, ht, -⟩
    rw [hfails] at ht
    cases ht
  have hsame := at?_untouched h hresolve []
  rw [List.append_nil] at hsame
  have hnode : r'.node f'.root = r.node f.root := by
    rw [(resolve_stands hresolve').node, (resolve_stands hresolve).node,
      hnames, hsame]
  cases r with
  | nil =>
    cases r' with
    | cons => simp [Trail.names] at hnames
    | nil =>
      have hroot : f'.root = f.root := hnode
      unfold removeAll
      rw [hresolve, hresolve', hroot]
      exact ⟨rfl, fun _ _ _ => rfl⟩
  | cons entry above =>
    cases r' with
    | nil => simp [Trail.names] at hnames
    | cons entry' above' =>
      obtain ⟨name, n⟩ := entry
      obtain ⟨name', n'⟩ := entry'
      obtain rfl : n' = n := hnode
      rw [Trail.names_cons, Trail.names_cons] at hnames
      obtain ⟨habove, hname⟩ := List.append_inj' hnames rfl
      cases hname
      exact removeAll_entry_untouched h hresolve hresolve' habove

-- ================================================================= after

/-- What was removed could be resolved. -/
theorem exists_resolve_of_removeAll (h : (f.removeAll p).result = .ok ()) :
    ∃ r, f.resolve false p = .ok r := by
  cases hresolve : f.resolve false p with
  | ok r => exact ⟨r, rfl⟩
  | error reason =>
    unfold removeAll at h
    rw [hresolve] at h
    cases h

/-- What is missing when it is to be taken out has a name of its own. -/
theorem lastName_of_removeEmpty (h : f.removeEmpty p = .error .noEntry) :
    ∃ before name, lastName p = some (before, name) ∧ name ≠ Path.dot ∧
      name ≠ Path.dots := by
  unfold removeEmpty at h
  split at h
  case h_1 => cases h
  case h_2 before name hlast =>
    split at h
    case isTrue => cases h
    case isFalse hdot =>
    split at h
    case isTrue => cases h
    case isFalse hdots => exact ⟨before, name, hlast, hdot, hdots⟩

/-- A removal that succeeds leaves a part of the tree. -/
theorem removeAll_part (h : (f.removeAll p).result = .ok ()) :
    Part f.root (f.removeAll p).files.root := by
  revert h
  unfold removeAll
  split
  case h_1 => exact fun h => by cases h
  case h_2 => exact fun h => by cases h
  case h_3 name n above hresolve =>
    split
    case h_1 => exact fun _ => part_edit_drop f.root (Trail.names above) name
    case h_2 => exact fun h => by cases h
    case h_3 readable es =>
      split
      case h_1 => exact fun h => by cases h
      case h_2 hremains =>
        have hemptied {before : List Bytes} {last : Bytes}
            (hlast : lastName p = some (before, last)) (hdot : last ≠ Path.dot)
            (hdots : last ≠ Path.dots) :
            Part f.root (f.edit above (Entries.put name .empty)).root :=
          part_edit_empty (at?_of_resolve hlast hdot hdots hresolve)
            (Node.bare_of_remains hremains)
        dsimp only
        split
        case h_1 g hempty =>
          obtain ⟨before, last, t, hlast, hdot, hdots, -, -, rfl⟩ :=
            removeEmpty_cases hempty
          exact fun _ =>
            (hemptied hlast hdot hdots).trans (part_edit_drop _ t.names last)
        case h_2 hempty =>
          obtain ⟨before, last, hlast, hdot, hdots⟩ :=
            lastName_of_removeEmpty hempty
          exact fun _ => hemptied hlast hdot hdots
        case h_3 => exact fun h => by cases h

/-- An untouched path reaches the same places. -/
theorem reaches_untouched (h : Untouched f f' p) (q : List Bytes) :
    f'.Reaches p q ↔ f.Reaches p q := by
  unfold Reaches
  rcases alike_cases (resolve_untouched h false) with
    ⟨reason, hfails, hfails'⟩ | ⟨r, r', hresolve, hresolve', hnames⟩
  · rw [hfails, hfails']
  · rw [hresolve, hresolve']
    simp [hnames]

/-- In a tree that agrees with one where it leads somewhere, a path leads to
the same place. -/
theorem reaches_of_agree (hdirectory : f'.workingDirectory = f.workingDirectory)
    (hagree : Agree f.root f'.root) (hresolve : f.resolve false p = .ok r)
    {q : List Bytes} (hq : f'.Reaches p q) : f.Reaches p q := by
  obtain ⟨t, ht, hbelow⟩ := hq
  obtain ⟨-, -, -, hwalk⟩ := resolve_eq_ok.mp hresolve
  obtain ⟨-, -, -, hwalk'⟩ := resolve_eq_ok.mp ht
  have hnames :=
    walk_agree hagree linkLimit (start_stands f p).1 (start_stands f' p).1
    (start_names hdirectory p) hwalk hwalk'
  exact ⟨r, hresolve, hnames ▸ hbelow⟩

/-- After a removal that succeeds, what the path meets is still the same in
both trees. -/
theorem Untouched.removeAll (h : Untouched f f' p)
    (hremoved : (f.removeAll p).result = .ok ()) :
    Untouched (f.removeAll p).files (f'.removeAll p).files p := by
  have hends := removeAll_untouched h
  have hremoved' : (f'.removeAll p).result = .ok () :=
    hends.result.trans hremoved
  have houtside := removeAll_sameOutside f p
  have houtside' := removeAll_sameOutside f' p
  obtain ⟨r, hresolve⟩ := exists_resolve_of_removeAll hremoved
  have hreached {q : List Bytes} (hq : f.Reaches p q) :
      Node.at? q (f'.removeAll p).files.root
        = Node.at? q (f.removeAll p).files.root := by
    cases hat : Node.at? q f.root with
    | some n => exact hends.left q hq (Option.isSome_of_eq_some hat)
    | none =>
      have hat' : Node.at? q f'.root = none := (h.whole q (.inr hq)).trans hat
      rw [(removeAll_part hremoved).at?_eq_none hat,
        (removeAll_part hremoved').at?_eq_none hat']
  have hbare {q : List Bytes} (hq : ¬ f.Reaches p q) :
      (Node.at? q (f.removeAll p).files.root).map Node.bare
        = (Node.at? q f.root).map Node.bare ∧
      (Node.at? q (f'.removeAll p).files.root).map Node.bare
        = (Node.at? q f'.root).map Node.bare :=
    ⟨houtside.alike q hq, houtside'.alike q (mt (reaches_untouched h q).mp hq)⟩
  refine ⟨?_, fun q hq => ?_, fun q hq => ?_⟩
  · rw [houtside'.workingDirectory, h.workingDirectory,
      houtside.workingDirectory]
  · by_cases hin : f.Reaches p q
    · rw [hreached hin]
    · rw [(hbare hin).1, (hbare hin).2]
      have hlooks : q ∈ looks f.root linkLimit (f.start p) (p.steps ++ []) :=
        looks_part (removeAll_part hremoved) linkLimit (start_stands f p).1
          (start_stands _ p).1 (start_names houtside.workingDirectory p) hq
      rw [List.append_nil] at hlooks
      exact h.way q hlooks
  · have hagree := removeAll_agree hremoved
    have hmet : f.Inside p q ∨ f.Reaches p q := by
      refine hq.imp ?_
        (reaches_of_agree houtside.workingDirectory hagree hresolve)
      rintro ⟨place, hplace, hbelow⟩
      exact ⟨place, named?_of_agree houtside.workingDirectory hagree hresolve
        hplace, hbelow⟩
    by_cases hin : f.Reaches p q
    · exact hreached hin
    have hsame := h.whole q hmet
    obtain ⟨hb, hb'⟩ := hbare hin
    rw [hsame] at hb'
    cases hat : Node.at? q f.root with
    | none =>
      rw [hat, Option.map_none, Option.map_eq_none_iff] at hb hb'
      rw [hb, hb']
    | some n =>
      obtain ⟨target, rfl⟩ :=
        link_of_inside hresolve (hmet.resolve_right hin) hin hat
      rw [hat, Option.map_some] at hb hb'
      rw [eq_link_of_bare hb, eq_link_of_bare hb']

end Restoration.Files
