/-
The course of a walk that gets to its end.

It is told by the places where the walk looks, the number of links that it
follows, and the trail that it gets to (`Course`). A walk gets to its end
exactly if it has a course that follows no more links than it may
(`walk_eq_ok_iff`), and there is one course at most (`Course.unique`). So
how many links are left makes no difference to where a walk looks, and
courses can be joined and cut (`Course.append`, `Course.split`).

All that a course makes of a node is whether it is a directory, a file or a
link with some target (`Node.kind`). So a course of one tree is one of
another, as long as the nodes at its places are of the same kinds in both
(`Course.transfer`).
-/
import Restoration.Proofs.Files.Descent

namespace Restoration

-- ================================================================= kinds

namespace Node

/-- What a walk makes of a node. -/
def kind : Node → Node
  | .file .. => .file [] false
  | .link target => .link target
  | .directory .. => .empty

/-- A link is known by its kind. -/
theorem kind_eq_link {n : Node} {target : Path}
    (h : n.kind = .link target) : n = .link target := by
  cases n with
  | directory => cases h
  | file => cases h
  | link => exact h

/-- So is a directory. -/
theorem isDirectory_of_kind_eq {n m : Node} (h : n.kind = m.kind) :
    n.isDirectory = m.isDirectory := by
  cases n <;> cases m <;> first | rfl | cases h

end Node

namespace Files

variable {root root' : Node} {t r s : Trail} {names rest : List Bytes}
  {name : Bytes} {places : List (List Bytes)} {used links : Nat}

-- =============================================================== courses

/-- A walk takes a name as it is, and finds a node under it. -/
structure Meets (root : Node) (t : Trail) (name : Bytes) (n : Node) : Prop where
  notDot : name ≠ Path.dot
  notDots : name ≠ Path.dots
  short : name.length ≤ longestName
  find : Entries.find? name (t.node root).entries = some n

/-- A name is met only in a directory. -/
theorem Meets.node {n : Node} (h : Meets root t name n) :
    ∃ readable, t.node root = .directory readable (t.node root).entries :=
  Node.directory_of_find? h.find

/-- The same, as the check that a walk makes. -/
theorem Meets.isDirectory {n : Node} (h : Meets root t name n) :
    (t.node root).isDirectory = true := by
  obtain ⟨readable, hnode⟩ := h.node
  rw [hnode]
  rfl

/-- One name leads to one node. -/
theorem Meets.unique {n m : Node} (h : Meets root t name n)
    (h' : Meets root t name m) : n = m :=
  Option.some.inj (h.find.symm.trans h'.find)

/-- The places where a walk looks, the number of links that it follows, at
its end as well, and where it gets. -/
inductive Course (root : Node) :
    Trail → List Bytes → List (List Bytes) → Nat → Trail → Prop
  | done {t : Trail} : Course root t [] [] 0 t
  | here {t r : Trail} {rest : List Bytes} {places : List (List Bytes)}
      {used : Nat}
      (directory : (t.node root).isDirectory = true)
      (h : Course root t rest places used r) :
      Course root t (Path.dot :: rest) (t.names :: places) used r
  | back {t r : Trail} {rest : List Bytes} {places : List (List Bytes)}
      {used : Nat}
      (directory : (t.node root).isDirectory = true)
      (h : Course root t.tail rest places used r) :
      Course root t (Path.dots :: rest) (t.names :: places) used r
  | entry {t r : Trail} {name : Bytes} {n : Node} {rest : List Bytes}
      {places : List (List Bytes)} {used : Nat}
      (meets : Meets root t name n) (noLink : ∀ target, n ≠ .link target)
      (h : Course root ((name, n) :: t) rest places used r) :
      Course root t (name :: rest)
        (t.names :: (t.names ++ [name]) :: places) used r
  | follow {t r : Trail} {name : Bytes} {target : Path} {rest : List Bytes}
      {places : List (List Bytes)} {used : Nat}
      (meets : Meets root t name (.link target))
      (h : Course root (if target.isAbsolute then [] else t)
        (target.steps ++ rest) places used r) :
      Course root t (name :: rest) (t.names :: (t.names ++ [name]) :: places)
        (used + 1) r

/-- A walk and the places it looks at take the same steps, however either
follows links. -/
theorem walk_looks_eq (root : Node) (links : Nat) : ∃ follow look,
    walk root true links = walkWith root true follow ∧
    looks root links = looksWith root look := by
  cases links with
  | zero => exact ⟨_, _, rfl, rfl⟩
  | succ links => exact ⟨_, _, rfl, rfl⟩

/-- A walk that may follow so many links gets to the end of its course,
looking there. -/
theorem Course.walk (h : Course root t names places used r) :
    ∀ {links : Nat}, used ≤ links → walk root true links t names = .ok r ∧
      looks root links t names = places := by
  induction h with
  | done =>
    intro links _
    obtain ⟨follow, look, hwalk, hlooks⟩ := walk_looks_eq root links
    rw [hwalk, hlooks]
    exact ⟨rfl, rfl⟩
  | here directory _ ih =>
    intro links hused
    obtain ⟨follow, look, hwalk, hlooks⟩ := walk_looks_eq root links
    obtain ⟨ihwalk, ihlooks⟩ := ih hused
    rw [hwalk] at ihwalk
    rw [hlooks] at ihlooks
    rw [hwalk, hlooks, looksWith, if_pos rfl, ihlooks]
    exact ⟨walkWith_cons_iff.mpr (.here directory ihwalk), rfl⟩
  | back directory _ ih =>
    intro links hused
    obtain ⟨follow, look, hwalk, hlooks⟩ := walk_looks_eq root links
    obtain ⟨ihwalk, ihlooks⟩ := ih hused
    rw [hwalk] at ihwalk
    rw [hlooks] at ihlooks
    rw [hwalk, hlooks, looksWith, if_neg (by decide), if_pos rfl, ihlooks]
    exact ⟨walkWith_cons_iff.mpr (.back directory ihwalk), rfl⟩
  | @entry t r name n rest places used meets noLink _ ih =>
    intro links hused
    obtain ⟨follow, look, hwalk, hlooks⟩ := walk_looks_eq root links
    obtain ⟨ihwalk, ihlooks⟩ := ih hused
    rw [hwalk] at ihwalk
    rw [hlooks] at ihlooks
    rw [hwalk, hlooks, looksWith, if_neg meets.notDot,
      if_neg meets.notDots, meets.find]
    refine ⟨walkWith_cons_iff.mpr
      (.entry meets.notDot meets.notDots meets.short meets.find noLink ihwalk),
      ?_⟩
    cases n with
    | link target => exact absurd rfl (noLink target)
    | file => exact congrArg (fun others => _ :: _ :: others) ihlooks
    | directory => exact congrArg (fun others => _ :: _ :: others) ihlooks
  | follow meets _ ih =>
    intro links hused
    cases links with
    | zero => cases hused
    | succ links =>
      obtain ⟨ihwalk, ihlooks⟩ := ih (Nat.le_of_succ_le_succ hused)
      refine ⟨walkWith_cons_iff.mpr (.follow meets.notDot meets.notDots
        meets.short meets.find (Bool.and_false _) ihwalk), ?_⟩
      rw [looks, looksWith, if_neg meets.notDot,
        if_neg meets.notDots, meets.find]
      exact congrArg (fun others => _ :: _ :: others) ihlooks

/-- A walk that arrives has a course, if the walks along the links do. Each
link costs one of the allowance. -/
theorem exists_course_with
    {follow : Trail → List Bytes → Except SystemError Trail}
    (hfollow : ∀ {t names}, follow t names = .ok r →
      ∃ places used, Course root t names places used r ∧ used + 1 ≤ links) :
    ∀ {names : List Bytes} {t : Trail},
      walkWith root true follow t names = .ok r →
      ∃ places used, Course root t names places used r ∧ used ≤ links
  | [], t, h => by
    cases h
    exact ⟨_, _, .done, Nat.zero_le links⟩
  | name :: rest, t, h => by
    cases walkWith_cons_iff.mp h with
    | here directory hwalk =>
      obtain ⟨places, used, hcourse, hused⟩ := exists_course_with hfollow hwalk
      exact ⟨_, _, .here directory hcourse, hused⟩
    | back directory hwalk =>
      obtain ⟨places, used, hcourse, hused⟩ := exists_course_with hfollow hwalk
      exact ⟨_, _, .back directory hcourse, hused⟩
    | link _ _ _ _ hlast => simp at hlast
    | follow hdot hdots hlength hfind _ hwalk =>
      obtain ⟨places, used, hcourse, hused⟩ := hfollow hwalk
      exact ⟨_, _, .follow ⟨hdot, hdots, hlength, hfind⟩ hcourse, hused⟩
    | entry hdot hdots hlength hfind hlink hwalk =>
      obtain ⟨places, used, hcourse, hused⟩ := exists_course_with hfollow hwalk
      exact ⟨_, _, .entry ⟨hdot, hdots, hlength, hfind⟩ hlink hcourse, hused⟩

/-- A walk that arrives has a course within its allowance of links, by
induction on the allowance. -/
theorem exists_course : ∀ (links : Nat) {names : List Bytes} {t : Trail},
    walk root true links t names = .ok r →
      ∃ places used, Course root t names places used r ∧ used ≤ links
  | 0, _, _, h => exists_course_with (fun h => by cases h) h
  | links + 1, _, _, h => by
    refine exists_course_with (fun h => ?_) h
    obtain ⟨places, used, hcourse, hused⟩ := exists_course links h
    exact ⟨places, used, hcourse, Nat.succ_le_succ hused⟩

/-- A walk arrives if and only if there is a course within the allowance of
links. -/
theorem walk_eq_ok_iff : walk root true links t names = .ok r ↔
    ∃ places used, Course root t names places used r ∧ used ≤ links :=
  ⟨exists_course links, fun ⟨_, _, hcourse, hused⟩ => (hcourse.walk hused).1⟩

/-- There is one course from a place along given names. -/
theorem Course.unique {places' : List (List Bytes)} {used' : Nat} {r' : Trail}
    (h : Course root t names places used r)
    (h' : Course root t names places' used' r') :
    places' = places ∧ used' = used ∧ r' = r := by
  induction h generalizing places' used' r' with
  | done =>
    cases h'
    exact ⟨rfl, rfl, rfl⟩
  | here directory _ ih =>
    cases h' with
    | here _ h' =>
      obtain ⟨rfl, rfl, rfl⟩ := ih h'
      exact ⟨rfl, rfl, rfl⟩
    | entry meets | follow meets => exact absurd rfl meets.notDot
  | back directory _ ih =>
    cases h' with
    | back _ h' =>
      obtain ⟨rfl, rfl, rfl⟩ := ih h'
      exact ⟨rfl, rfl, rfl⟩
    | entry meets | follow meets => exact absurd rfl meets.notDots
  | entry meets noLink _ ih =>
    cases h' with
    | here => exact absurd rfl meets.notDot
    | back => exact absurd rfl meets.notDots
    | entry meets' _ h' =>
      cases meets.unique meets'
      obtain ⟨rfl, rfl, rfl⟩ := ih h'
      exact ⟨rfl, rfl, rfl⟩
    | follow meets' => exact absurd (meets.unique meets') (noLink _)
  | follow meets _ ih =>
    cases h' with
    | here => exact absurd rfl meets.notDot
    | back => exact absurd rfl meets.notDots
    | entry meets' noLink => exact absurd (meets'.unique meets) (noLink _)
    | follow meets' h' =>
      cases meets.unique meets'
      obtain ⟨rfl, rfl, rfl⟩ := ih h'
      exact ⟨rfl, rfl, rfl⟩

-- ================================================================= parts

/-- Courses can be joined. -/
theorem Course.append {before : List Bytes} {places' : List (List Bytes)}
    {used' : Nat} (h : Course root t before places used s)
    (h' : Course root s rest places' used' r) :
    Course root t (before ++ rest) (places ++ places') (used' + used) r := by
  induction h with
  | done => exact h'
  | here directory _ ih => exact .here directory (ih h')
  | back directory _ ih => exact .back directory (ih h')
  | entry meets noLink _ ih => exact .entry meets noLink (ih h')
  | follow meets _ ih =>
      exact .follow meets (List.append_assoc _ _ rest ▸ ih h')

/-- A course along two lists of names passes a place between them. -/
theorem Course.split (h : Course root t names places used r) :
    ∀ {before rest : List Bytes}, names = before ++ rest →
      ∃ s places₁ used₁ places₂ used₂, Course root t before places₁ used₁ s ∧
        Course root s rest places₂ used₂ r ∧ places = places₁ ++ places₂ ∧
          used = used₂ + used₁ := by
  induction h with
  | done =>
    intro before rest heq
    obtain ⟨rfl, rfl⟩ := List.append_eq_nil_iff.mp heq.symm
    exact ⟨_, _, _, _, _, .done, .done, rfl, rfl⟩
  | here directory h ih =>
    intro before rest heq
    rcases List.cons_eq_append_iff.mp heq with ⟨rfl, rfl⟩ | ⟨before, rfl, rfl⟩
    · exact ⟨_, _, _, _, _, .done, .here directory h, rfl, rfl⟩
    · obtain ⟨s, _, _, _, _, h₁, h₂, rfl, rfl⟩ := ih rfl
      exact ⟨s, _, _, _, _, .here directory h₁, h₂, rfl, rfl⟩
  | back directory h ih =>
    intro before rest heq
    rcases List.cons_eq_append_iff.mp heq with ⟨rfl, rfl⟩ | ⟨before, rfl, rfl⟩
    · exact ⟨_, _, _, _, _, .done, .back directory h, rfl, rfl⟩
    · obtain ⟨s, _, _, _, _, h₁, h₂, rfl, rfl⟩ := ih rfl
      exact ⟨s, _, _, _, _, .back directory h₁, h₂, rfl, rfl⟩
  | entry meets noLink h ih =>
    intro before rest heq
    rcases List.cons_eq_append_iff.mp heq with ⟨rfl, rfl⟩ | ⟨before, rfl, rfl⟩
    · exact ⟨_, _, _, _, _, .done, .entry meets noLink h, rfl, rfl⟩
    · obtain ⟨s, _, _, _, _, h₁, h₂, rfl, rfl⟩ := ih rfl
      exact ⟨s, _, _, _, _, .entry meets noLink h₁, h₂, rfl, rfl⟩
  | follow meets h ih =>
    intro before rest heq
    rcases List.cons_eq_append_iff.mp heq with ⟨rfl, rfl⟩ | ⟨before, rfl, rfl⟩
    · exact ⟨_, _, _, _, _, .done, .follow meets h, rfl, rfl⟩
    · obtain ⟨s, _, _, _, _, h₁, h₂, rfl, rfl⟩ :=
        ih (List.append_assoc _ _ _).symm
      exact ⟨s, _, _, _, _, .follow meets h₁, h₂, rfl, rfl⟩

/-- What is kept on the way is kept by a course. -/
theorem Course.kept {I : Trail → Prop} (hI : Kept root I)
    (h : Course root t names places used r) (ht : I t) : I r :=
  hI.walk ht (h.walk (Nat.le_refl used)).1

/-- Names lead along the entries of the tree to a directory, and links are
not followed. -/
theorem Course.along : ∀ {names : List Bytes} {t : Trail} {n : Node},
    (∀ name ∈ names, IsName name) → Node.at? names (t.node root) = some n →
    n.isDirectory = true → ∃ places r, Course root t names places 0 r ∧
      r.node root = n ∧ r.names = t.names ++ names ∧ ∀ q ∈ places, ∃ above,
        above <+: names ∧ q = t.names ++ above
  | [], t, n, _, hat, _ =>
    ⟨[], t, .done, Option.some.inj hat, (List.append_nil _).symm, by simp⟩
  | name :: names, t, n, hnames, hat, hn => by
    obtain ⟨hname, hnames⟩ := List.forall_mem_cons.mp hnames
    obtain ⟨m, hfind, hm⟩ := Option.bind_eq_some_iff.mp hat
    have hlink : ∀ target, m ≠ .link target := by
      rintro target rfl
      cases names with
      | nil => cases hm; cases hn
      | cons => cases hm
    obtain ⟨places, r, hcourse, hnode, hr, hplaces⟩ :=
      Course.along (t := (name, m) :: t) hnames hm hn
    refine ⟨_, r, .entry ⟨hname.notDot, hname.notDots, hname.short, hfind⟩ hlink
      hcourse, hnode, ?_, ?_⟩
    · rw [hr, Trail.names_cons, List.append_assoc]
      rfl
    · refine List.forall_mem_cons.mpr
        ⟨⟨[], List.nil_prefix, (List.append_nil _).symm⟩, ?_⟩
      refine List.forall_mem_cons.mpr
        ⟨⟨[name], List.prefix_append [name] names, rfl⟩, ?_⟩
      intro q hq
      obtain ⟨above, habove, rfl⟩ := hplaces q hq
      refine ⟨name :: above, List.cons_prefix_cons.mpr ⟨rfl, habove⟩, ?_⟩
      rw [Trail.names_cons, List.append_assoc]
      rfl

-- ================================================================ places

/-- The names of a trail say which one it is. -/
theorem Stands.unique :
    ∀ {t t' : Trail}, Stands root t → Stands root t' → t'.names = t.names →
    t' = t
  | [], [], _, _, _ => rfl
  | [], (name, n) :: t', _, _, hnames => by simp [Trail.names] at hnames
  | (name, n) :: t, [], _, _, hnames => by simp [Trail.names] at hnames
  | (name, n) :: t, (name', n') :: t', ht, ht', hnames => by
    rw [Trail.names_cons, Trail.names_cons] at hnames
    obtain ⟨habove, hname⟩ := List.append_inj' hnames rfl
    cases Stands.unique ht.1 ht'.1 habove
    cases hname
    rw [ht.2, ht'.2]

/-- Where something is, there is something all the way down to it. -/
theorem isSome_of_prefix {q q' : List Bytes} (habove : q' <+: q)
    (h : (Node.at? q root).isSome = true) :
    (Node.at? q' root).isSome = true := by
  obtain ⟨below, rfl⟩ := habove
  rw [Node.at?_append] at h
  exact Option.isSome_of_isSome_bind h

/-- In particular something is right above it. -/
theorem isSome_of_dropLast {q : List Bytes}
    (h : (Node.at? q root).isSome = true) :
    (Node.at? q.dropLast root).isSome = true := by
  have hprefix : q.dropLast <+: q := List.dropLast_prefix q
  exact isSome_of_prefix hprefix h

/-- A course looks at its start, above it and at places of the tree. -/
theorem Course.within {P : List Bytes → Prop}
    (hat : ∀ q, (Node.at? q root).isSome = true → P q)
    (habove : ∀ {q q' : List Bytes}, q' <+: q → P q → P q')
    (h : Course root t names places used r) (ht : Stands root t)
    (hstart : P t.names) :
    (∀ q ∈ places, P q) ∧ P r.names := by
  induction h with
  | done => exact ⟨fun _ hq => absurd hq List.not_mem_nil, hstart⟩
  | here _ _ ih =>
    obtain ⟨hplaces, hr⟩ := ih ht hstart
    exact ⟨List.forall_mem_cons.mpr ⟨hstart, hplaces⟩, hr⟩
  | @back t _ _ _ _ _ _ ih =>
    have htail : P (Trail.names t.tail) := by
      rw [Trail.names_tail]
      have hprefix : t.names.dropLast <+: t.names := List.dropLast_prefix _
      exact habove hprefix hstart
    obtain ⟨hplaces, hr⟩ := ih ht.tail htail
    exact ⟨List.forall_mem_cons.mpr ⟨hstart, hplaces⟩, hr⟩
  | entry meets _ _ ih =>
    have hentry := hat _ (Option.isSome_of_eq_some (ht.at? meets.find))
    obtain ⟨hplaces, hr⟩ :=
      ih (ht.cons meets.find) (by rw [Trail.names_cons]; exact hentry)
    exact ⟨List.forall_mem_cons.mpr
      ⟨hstart, List.forall_mem_cons.mpr ⟨hentry, hplaces⟩⟩, hr⟩
  | @follow t _ _ target _ _ _ meets _ ih =>
    have hentry := hat _ (Option.isSome_of_eq_some (ht.at? meets.find))
    have htarget : Stands root (if target.isAbsolute then [] else t) ∧
        P (Trail.names (if target.isAbsolute then [] else t)) := by
      split
      · exact ⟨trivial, habove List.nil_prefix hstart⟩
      · exact ⟨ht, hstart⟩
    obtain ⟨hplaces, hr⟩ := ih htarget.1 htarget.2
    exact ⟨List.forall_mem_cons.mpr
      ⟨hstart, List.forall_mem_cons.mpr ⟨hentry, hplaces⟩⟩, hr⟩

/-- A course that starts in the tree looks nowhere else. -/
theorem Course.isSome (h : Course root t names places used r)
    (ht : Stands root t) (hat : (Node.at? t.names root).isSome = true) :
    (∀ q ∈ places, (Node.at? q root).isSome = true) ∧
    (Node.at? r.names root).isSome = true :=
  h.within (fun _ hq => hq) isSome_of_prefix ht hat

/-- A course that looks up a link has the course of that link in it. -/
theorem Course.passes (h : Course root t names places used r)
    (ht : Stands root t) {q : List Bytes} {target : Path} (hq : q ∈ places)
    (hlink : Node.at? q root = some (.link target)) :
    ∃ above name places' used' s, q = Trail.names above ++ [name] ∧
      Stands root above ∧ Course root above [name] places' used' s ∧
      ∀ p ∈ places', p ∈ places := by
  have hdirectory {t : Trail} (ht : Stands root t)
      (h : (t.node root).isDirectory = true) :
      Node.at? t.names root ≠ some (.link target) := by
    intro hat
    rw [ht.node, hat] at h
    cases h
  induction h with
  | done => cases hq
  | here directory _ ih =>
    rcases List.mem_cons.mp hq with rfl | hq
    · exact absurd hlink (hdirectory ht directory)
    · obtain ⟨above, name, places', used', s, rfl, habove, hcourse, hmem⟩ :=
        ih ht hq
      exact ⟨above, name, places', used', s, rfl, habove, hcourse,
        fun p hp => List.mem_cons_of_mem _ (hmem p hp)⟩
  | back directory _ ih =>
    rcases List.mem_cons.mp hq with rfl | hq
    · exact absurd hlink (hdirectory ht directory)
    · obtain ⟨above, name, places', used', s, rfl, habove, hcourse, hmem⟩ :=
        ih ht.tail hq
      exact ⟨above, name, places', used', s, rfl, habove, hcourse,
        fun p hp => List.mem_cons_of_mem _ (hmem p hp)⟩
  | entry meets noLink _ ih =>
    rcases List.mem_cons.mp hq with rfl | hq
    · exact absurd hlink (hdirectory ht meets.isDirectory)
    rcases List.mem_cons.mp hq with rfl | hq
    · exact absurd (Option.some.inj ((ht.at? meets.find).symm.trans hlink))
        (noLink target)
    · obtain ⟨above, name, places', used', s, rfl, habove, hcourse, hmem⟩ :=
        ih (ht.cons meets.find) hq
      exact ⟨above, name, places', used', s, rfl, habove, hcourse,
        fun p hp => List.mem_cons_of_mem _ (List.mem_cons_of_mem _ (hmem p hp))⟩
  | @follow t _ name target _ _ _ meets h ih =>
    rcases List.mem_cons.mp hq with rfl | hq
    · exact absurd hlink (hdirectory ht meets.isDirectory)
    rcases List.mem_cons.mp hq with rfl | hq
    · obtain ⟨s, _, _, _, _, htarget, -, rfl, -⟩ := h.split rfl
      rw [← List.append_nil target.steps] at htarget
      refine ⟨t, name, _, _, s, rfl, ht, .follow meets htarget, fun p hp => ?_⟩
      simp only [List.mem_cons, List.mem_append] at hp ⊢
      tauto
    · have hstart : Stands root (if target.isAbsolute then [] else t) := by
        split
        · trivial
        · exact ht
      obtain ⟨above, name, places', used', s, rfl, habove, hcourse, hmem⟩ :=
        ih hstart hq
      exact ⟨above, name, places', used', s, rfl, habove, hcourse,
        fun p hp => List.mem_cons_of_mem _ (List.mem_cons_of_mem _ (hmem p hp))⟩

/-- What lies below the end of a trail lies below it in the tree. -/
theorem Stands.at?_below (ht : Stands root t) {above : List Bytes} :
    Node.at? (above ++ [name]) (t.node root)
      = Node.at? (t.names ++ (above ++ [name])) root := by
  rw [ht.node, Node.at?_append t.names]
  cases Node.at? t.names root with
  | some n => rfl
  | none => cases above <;> rfl

/-- Everything above an entry is a directory. -/
theorem directory_of_at? {q place : List Bytes} {n : Node}
    (h : Node.at? (q ++ [name]) root = some n) (hplace : place <+: q) :
    ∃ readable entries,
      Node.at? place root = some (.directory readable entries) := by
  obtain ⟨rest, rfl⟩ := hplace
  rw [List.append_assoc, Node.at?_append] at h
  obtain ⟨d, hd, hat⟩ := Option.bind_eq_some_iff.mp h
  cases d with
  | directory readable entries => exact ⟨readable, entries, hd⟩
  | file => cases rest <;> cases hat
  | link => cases rest <;> cases hat

/-- No link stands at a place or above it. -/
def LinkFreeTo (root : Node) (q : List Bytes) : Prop :=
  ∀ place target, place <+: q → Node.at? place root ≠ some (.link target)

/-- If there is no link on the way to a place, there is none on the way to a
place above it. -/
theorem LinkFreeTo.above {q q' : List Bytes} (h : LinkFreeTo root q)
    (hq : q' <+: q) :
    LinkFreeTo root q' :=
  fun place target hplace => h place target (hplace.trans hq)

/-- In particular there is none on the way to the place right above it. -/
theorem LinkFreeTo.dropLast {q : List Bytes} (h : LinkFreeTo root q) :
    LinkFreeTo root q.dropLast :=
  h.above <| List.dropLast_prefix _

/-- Going down by name alone passes no link, so what stands above an entry
is reached without one. -/
theorem linkFreeTo_of_at? {q : List Bytes} {n : Node}
    (h : Node.at? (q ++ [name]) root = some n) :
    LinkFreeTo root q := by
  intro place target hplace hat
  obtain ⟨readable, entries, hdirectory⟩ := directory_of_at? h hplace
  rw [hdirectory] at hat
  cases hat

/-- A course that comes out where no link stands above has looked nowhere
below a link. The trail to a working directory that is gone may lead along a
link, but there is no way up from there. -/
theorem Course.linkFree (h : Course root t names places used r)
    (ht : Stands root t) (hr : LinkFreeTo root r.names) :
    LinkFreeTo root t.names ∧ ∀ q ∈ places, LinkFreeTo root q.dropLast := by
  induction h with
  | done => exact ⟨hr, nofun⟩
  | here _ _ ih =>
    obtain ⟨hstart, hplaces⟩ := ih ht hr
    exact ⟨hstart, List.forall_mem_cons.mpr ⟨hstart.dropLast, hplaces⟩⟩
  | @back t _ _ _ _ directory _ ih =>
    obtain ⟨htail, hplaces⟩ := ih ht.tail hr
    rw [Trail.names_tail] at htail
    refine ⟨fun place target hplace hat => ?_,
      List.forall_mem_cons.mpr ⟨htail, hplaces⟩⟩
    rcases List.eq_nil_or_concat' t.names with hnil | ⟨above, name, heq⟩
    · rw [hnil, List.prefix_nil] at hplace
      subst hplace
      exact htail [] target List.nil_prefix hat
    rw [heq, List.dropLast_concat] at htail
    rw [heq] at hplace
    rcases List.prefix_concat_iff.mp hplace with rfl | hplace
    · -- the walk goes back from a directory
      rw [ht.node, heq, hat] at directory
      cases directory
    · exact htail place target hplace hat
  | entry meets _ _ ih =>
    have hstart := linkFreeTo_of_at? (ht.at? meets.find)
    obtain ⟨-, hplaces⟩ := ih (ht.cons meets.find) hr
    refine ⟨hstart, List.forall_mem_cons.mpr ⟨hstart.dropLast, ?_⟩⟩
    exact List.forall_mem_cons.mpr ⟨by rwa [List.dropLast_concat], hplaces⟩
  | @follow t _ _ target _ _ _ meets _ ih =>
    have hstart := linkFreeTo_of_at? (ht.at? meets.find)
    have hstands : Stands root (if target.isAbsolute then [] else t) := by
      split
      · trivial
      · exact ht
    obtain ⟨-, hplaces⟩ := ih hstands hr
    refine ⟨hstart, List.forall_mem_cons.mpr ⟨hstart.dropLast, ?_⟩⟩
    exact List.forall_mem_cons.mpr ⟨by rwa [List.dropLast_concat], hplaces⟩

-- ============================================================== two trees

/-- At some places the nodes of two trees are of the same kinds. -/
def SameKindAt (P : List Bytes → Prop) (root root' : Node) : Prop :=
  ∀ q, P q → (Node.at? q root').map Node.kind = (Node.at? q root).map Node.kind

/-- A course that looks at such places only is one of the other tree. -/
theorem Course.transfer {P : List Bytes → Prop}
    (hkind : SameKindAt P root root')
    (habove : ∀ {q q' : List Bytes}, q' <+: q → P q → P q')
    (h : Course root t names places used r) :
    ∀ {t' : Trail}, Stands root t → Stands root' t' →
      t'.names = t.names → P t.names → (∀ q ∈ places, P q) →
      ∃ r', Course root' t' names places used r' ∧ r'.names = r.names ∧
        P r.names := by
  induction h with
  | done => exact fun _ _ hnames hP _ => ⟨_, .done, hnames, hP⟩
  | here directory _ ih =>
    intro t' ht ht' hnames hP hplaces
    have hdirectory :=
      ht.isDirectory_congr Node.isDirectory_of_kind_eq ht' hnames (hkind _ hP)
    obtain ⟨r', hcourse, hr⟩ :=
      ih ht ht' hnames hP (List.forall_mem_cons.mp hplaces).2
    exact ⟨r', hnames ▸ .here (hdirectory.trans directory) hcourse, hr⟩
  | @back t _ _ _ _ directory _ ih =>
    intro t' ht ht' hnames hP hplaces
    have hdirectory :=
      ht.isDirectory_congr Node.isDirectory_of_kind_eq ht' hnames (hkind _ hP)
    have htail : Trail.names t'.tail = Trail.names t.tail := by
      rw [Trail.names_tail, Trail.names_tail, hnames]
    have hPtail : P (Trail.names t.tail) := by
      rw [Trail.names_tail]
      have hway : t.names.dropLast <+: t.names := List.dropLast_prefix _
      exact habove hway hP
    obtain ⟨r', hcourse, hr⟩ :=
      ih ht.tail ht'.tail htail hPtail (List.forall_mem_cons.mp hplaces).2
    exact ⟨r', hnames ▸ .back (hdirectory.trans directory) hcourse, hr⟩
  | @entry t _ name n _ _ _ meets noLink _ ih =>
    intro t' ht ht' hnames hP hplaces
    obtain ⟨-, hentry, hplaces⟩ := by
      simpa only [List.forall_mem_cons] using hplaces
    obtain ⟨n', hfind, hn'⟩ :=
      ht.find?_congr ht' hnames (hkind _ hentry) meets.find
    have hnames' : Trail.names ((name, n') :: t')
        = Trail.names ((name, n) :: t) := by
      rw [Trail.names_cons, Trail.names_cons, hnames]
    obtain ⟨r', hcourse, hr⟩ := ih (ht.cons meets.find) (ht'.cons hfind) hnames'
      (by rw [Trail.names_cons]; exact hentry) hplaces
    have noLink' : ∀ target, n' ≠ .link target := by
      rintro target rfl
      exact noLink target (Node.kind_eq_link hn'.symm)
    have hmeets : Meets root' t' name n' :=
      ⟨meets.notDot, meets.notDots, meets.short, hfind⟩
    exact ⟨r', hnames ▸ .entry hmeets noLink' hcourse, hr⟩
  | @follow t _ name target _ _ _ meets _ ih =>
    intro t' ht ht' hnames hP hplaces
    obtain ⟨-, hentry, hplaces⟩ := by
      simpa only [List.forall_mem_cons] using hplaces
    obtain ⟨n', hfind, hn'⟩ :=
      ht.find?_congr ht' hnames (hkind _ hentry) meets.find
    cases Node.kind_eq_link hn'
    have hmeets : Meets root' t' name (.link target) :=
      ⟨meets.notDot, meets.notDots, meets.short, hfind⟩
    cases habsolute : target.isAbsolute with
    | true =>
      simp only [habsolute, if_true] at ih
      have hbase : P (Trail.names []) := habove List.nil_prefix hP
      have hempty : Stands root' [] := trivial
      obtain ⟨r', hcourse, hr⟩ := ih trivial hempty rfl hbase hplaces
      exact ⟨r', hnames ▸ .follow hmeets (by rw [habsolute]; exact hcourse), hr⟩
    | false =>
      simp only [habsolute] at ih
      obtain ⟨r', hcourse, hr⟩ := ih ht ht' hnames hP hplaces
      exact ⟨r', hnames ▸ .follow hmeets (by rw [habsolute]; exact hcourse), hr⟩

-- ================================================================= paths

variable {f : Files} {p : Path}

/-- Whether a path leads to a directory is said by its course. -/
theorem isDirectory_iff : f.isDirectory p = true ↔
    p.bytes.contains 0 = false ∧ p.bytes ≠ [] ∧ p.bytes.length ≤ longestPath ∧
      ∃ places used r, Course f.root (f.start p) p.steps places used r ∧
        used ≤ linkLimit ∧ (r.node f.root).isDirectory = true := by
  have hlook : f.isDirectory p = true ↔
      ∃ r, f.resolve true p = .ok r ∧ (r.node f.root).isDirectory = true := by
    unfold isDirectory look
    cases f.resolve true p with
    | error => simp [Except.map]
    | ok r => simp [Except.map]
  rw [hlook]
  constructor
  · rintro ⟨r, hresolve, hr⟩
    obtain ⟨hzero, hbytes, hlength, hwalk⟩ := resolve_eq_ok.mp hresolve
    obtain ⟨places, used, hcourse, hused⟩ := walk_eq_ok_iff.mp hwalk
    exact ⟨hzero, hbytes, hlength, places, used, r, hcourse, hused, hr⟩
  · rintro ⟨hzero, hbytes, hlength, places, used, r, hcourse, hused, hr⟩
    have hwalk := walk_eq_ok_iff.mpr ⟨places, used, hcourse, hused⟩
    exact ⟨r, resolve_eq_ok.mpr ⟨hzero, hbytes, hlength, hwalk⟩, hr⟩

/-- The course of the names of a path that leads somewhere. -/
theorem course_of_resolve (h : f.resolve true p = .ok s) :
    ∃ places used, Course f.root (f.start p) p.names places used s ∧
      used ≤ linkLimit ∧
      ∀ q ∈ places, q ∈ looks f.root linkLimit (f.start p) p.steps := by
  obtain ⟨-, -, -, hwalk⟩ := resolve_eq_ok.mp h
  obtain ⟨places, used, hcourse, hused⟩ := walk_eq_ok_iff.mp hwalk
  rw [(hcourse.walk hused).2]
  rcases steps_cases p with hsteps | hsteps
  · exact ⟨places, used, hsteps ▸ hcourse, hused, fun _ hq => hq⟩
  · -- the dot at the end is where the names have led
    obtain ⟨s', _, _, _, _, hnames, hdot, rfl, rfl⟩ := hcourse.split hsteps
    cases hdot with
    | here _ hdone =>
      cases hdone
      rw [Nat.zero_add] at hused
      exact ⟨_, _, hnames, hused, fun q hq => List.mem_append_left _ hq⟩
    | entry meets | follow meets => exact absurd rfl meets.notDot

/-- A relative path that is not empty has a step. -/
theorem steps_ne_nil (habsolute : p.isAbsolute = false)
    (hne : p.bytes ≠ []) : p.steps ≠ [] := by
  have hnames := Path.names_ne_nil habsolute hne
  rcases steps_cases p with hsteps | hsteps <;> rw [hsteps]
  · exact hnames
  · exact List.append_ne_nil_of_left_ne_nil hnames _

end Files

end Restoration
