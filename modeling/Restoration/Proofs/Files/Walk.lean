/-
Walks, taken apart and set side by side.

A walk in two parts gets to the end of the first part on its own
(`walk_split`), so the last name of a path can be looked at by itself.

What a walk makes of names hangs on nothing but the nodes that it looks up.
If two trees agree wherever both have something, two walks of the same names
that succeed lead to the same names (`walk_agree`). And if one tree is as the
other wherever a walk looks (`looks`), the walk comes out the same, also where
it fails (`walk_alike_eq`).
-/
import Restoration.Proofs.Files.Removal

namespace Restoration

-- ================================================================= nodes

namespace Node

/-- A node by itself: of a directory, that it is one and whether it may be
read. -/
def bare : Node → Node
  | .directory readable _ => .directory readable []
  | n => n

/-- A link is all there is to know about its node. -/
theorem bare_eq_link {n : Node} {target : Path}
    (h : n.bare = .link target) : n = .link target := by
  cases n with
  | directory => cases h
  | file => cases h
  | link => exact h

/-- Without its entries a node is still known to be a directory. -/
theorem isDirectory_of_bare_eq {n m : Node} (h : n.bare = m.bare) :
    n.isDirectory = m.isDirectory := by
  cases n <;> cases m <;> first | rfl | cases h

end Node

namespace Files

variable {root root' : Node} {t t' r r' : Trail}

-- ============================================================= two parts

/-- One step of a walk does not depend on how links are followed. -/
theorem walk_eq_walkWith (root : Node) (followLast : Bool) (links : Nat) :
    ∃ follow, walk root followLast links = walkWith root followLast follow := by
  cases links with
  | zero => exact ⟨_, rfl⟩
  | succ links => exact ⟨_, rfl⟩

/-- A name at the end of a walk: where it leads, links apart that are
followed there. -/
theorem walk_name {followLast : Bool} {links : Nat} {name : Bytes}
    (h : walk root followLast links t [name] = .ok r) :
    (t.node root).isDirectory = true
      ∧ if name = Path.dot then r = t else if name = Path.dots then r = t.tail
        else ∃ n, Entries.find? name (t.node root).entries = some n
          ∧ ((∀ target, n ≠ .link target) ∨ followLast = false →
            r = (name, n) :: t) := by
  obtain ⟨follow, hfollow⟩ := walk_eq_walkWith root followLast links
  rw [hfollow] at h
  have hdirectory {n : Node}
      (hfind : Entries.find? name (t.node root).entries = some n) :
      (t.node root).isDirectory = true := by
    obtain ⟨readable, hnode⟩ := Node.directory_of_find? hfind
    rw [hnode]
    rfl
  cases walkWith_cons_iff.mp h with
  | here directory hrest =>
    cases hrest
    exact ⟨directory, by rw [if_pos rfl]⟩
  | back directory hrest =>
    cases hrest
    exact ⟨directory, by rw [if_neg (by decide), if_pos rfl]⟩
  | link hdot hdots _ hfind _ hreached =>
    rw [if_neg hdot, if_neg hdots]
    exact ⟨hdirectory hfind, _, hfind, fun _ => hreached⟩
  | follow hdot hdots _ hfind hlast _ =>
    rw [if_neg hdot, if_neg hdots]
    refine ⟨hdirectory hfind, _, hfind, ?_⟩
    rintro (hlink | rfl)
    · exact absurd rfl (hlink _)
    · cases hlast
  | entry hdot hdots _ hfind _ hrest =>
    cases hrest
    rw [if_neg hdot, if_neg hdots]
    exact ⟨hdirectory hfind, _, hfind, fun _ => rfl⟩

/-- A walk that gets to its end has come through the first part, links being
followed to the last one there, and goes on from that trail with the links
that are left. -/
theorem walkWith_split {followLast : Bool}
    (follow follow' : Trail → List Bytes → Except SystemError Trail)
    {links : Nat} {rest : List Bytes} (hrest : rest ≠ [] ∨ followLast = true)
    (hlinks : walk root followLast links = walkWith root followLast follow')
    (hfollow : ∀ {t names}, follow' t (names ++ rest) = .ok r →
      ∃ t' left, follow t names = .ok t' ∧
        walk root followLast left t' rest = .ok r) :
    ∀ {before : List Bytes} {t : Trail},
      walkWith root followLast follow' t (before ++ rest) = .ok r →
      ∃ t' left, walkWith root true follow t before = .ok t'
        ∧ walk root followLast left t' rest = .ok r
  | [], t, h => ⟨t, links, rfl, by rw [hlinks]; exact h⟩
  | name :: before, t, h => by
    rw [List.cons_append] at h
    cases walkWith_cons_iff.mp h with
    | here directory hwalk =>
      obtain ⟨t', left, hbefore, hleft⟩ :=
        walkWith_split follow follow' hrest hlinks hfollow hwalk
      exact ⟨t', left, walkWith_cons_iff.mpr (.here directory hbefore), hleft⟩
    | back directory hwalk =>
      obtain ⟨t', left, hbefore, hleft⟩ :=
        walkWith_split follow follow' hrest hlinks hfollow hwalk
      exact ⟨t', left, walkWith_cons_iff.mpr (.back directory hbefore), hleft⟩
    | entry hdot hdots hlength hfind hlink hwalk =>
      obtain ⟨t', left, hbefore, hleft⟩ :=
        walkWith_split follow follow' hrest hlinks hfollow hwalk
      exact ⟨t', left, walkWith_cons_iff.mpr
        (.entry hdot hdots hlength hfind hlink hbefore), hleft⟩
    | follow hdot hdots hlength hfind _ hwalk =>
      rw [← List.append_assoc] at hwalk
      obtain ⟨t', left, hbefore, hleft⟩ := hfollow hwalk
      exact ⟨t', left,
        walkWith_cons_iff.mpr
          (.follow hdot hdots hlength hfind (Bool.and_false _) hbefore), hleft⟩
    | link _ _ _ _ hlast _ =>
      -- there is more to come, or the link is followed
      rcases hrest with hrest | rfl
      · simp [hrest] at hlast
      · simp at hlast

/-- A walk along two parts is a walk along the first and then one along the
second, which has the links the first has left. -/
theorem walk_split {followLast : Bool} {rest : List Bytes}
    (hrest : rest ≠ [] ∨ followLast = true) :
    ∀ (links : Nat) {before : List Bytes} {t : Trail},
      walk root followLast links t (before ++ rest) = .ok r →
      ∃ t' left, walk root true links t before = .ok t'
        ∧ walk root followLast left t' rest = .ok r
  | 0, _, _, h =>
    walkWith_split _ _ hrest (show walk root followLast 0 = _ from rfl)
      (fun h => by cases h) h
  | links + 1, _, _, h =>
    walkWith_split (walk root true links) (walk root followLast links) hrest
      (show walk root followLast (links + 1) = _ from rfl)
      (walk_split hrest links) h

-- ============================================================== two trees

/-- Two trees agree wherever both have something. -/
def Agree (root root' : Node) : Prop :=
  ∀ q n n', Node.at? q root = some n → Node.at? q root' = some n' →
    n'.bare = n.bare

/-- Then two walks of the same names that succeed lead to the same names. -/
theorem walkWith_agree (hagree : Agree root root') {followLast : Bool}
    (follow follow' : Trail → List Bytes → Except SystemError Trail)
    (hfollow : ∀ t t' r r' names, Stands root t → Stands root' t' →
      t'.names = t.names → follow t names = .ok r → follow' t' names = .ok r' →
      r'.names = r.names) :
    ∀ {names : List Bytes} {t t' r r' : Trail}, Stands root t →
      Stands root' t' → t'.names = t.names →
      walkWith root followLast follow t names = .ok r →
      walkWith root' followLast follow' t' names = .ok r' → r'.names = r.names
  | [], t, t', r, r', _, _, hnames, h, h' => by
    cases h
    cases h'
    exact hnames
  | name :: rest, t, t', r, r', ht, ht', hnames, h, h' => by
    have hbare {n n' : Node}
        (hfind : Entries.find? name (t.node root).entries = some n)
        (hfind' : Entries.find? name (t'.node root').entries = some n') :
        n'.bare = n.bare := by
      have hat' := ht'.at? hfind'
      rw [hnames] at hat'
      exact hagree _ _ _ (ht.at? hfind) hat'
    have hcons (n n' : Node) : Trail.names ((name, n') :: t')
        = Trail.names ((name, n) :: t) := by
      rw [Trail.names_cons, Trail.names_cons, hnames]
    have htail : Trail.names t'.tail = Trail.names t.tail := by
      rw [Trail.names_tail, Trail.names_tail, hnames]
    cases walkWith_cons_iff.mp h with
    | here _ hwalk =>
      cases walkWith_cons_iff.mp h' with
      | here _ hwalk' =>
        exact walkWith_agree hagree follow follow' hfollow ht ht' hnames
          hwalk hwalk'
      | link hdot | follow hdot | entry hdot => exact absurd rfl hdot
    | back _ hwalk =>
      cases walkWith_cons_iff.mp h' with
      | back _ hwalk' =>
        exact walkWith_agree hagree follow follow' hfollow ht.tail ht'.tail
          htail hwalk hwalk'
      | link _ hdots | follow _ hdots | entry _ hdots => exact absurd rfl hdots
    | link hdot hdots _ hfind hlast hreached =>
      cases walkWith_cons_iff.mp h' with
      | here => exact absurd rfl hdot
      | back => exact absurd rfl hdots
      | link _ _ _ _ _ hreached' =>
        rw [hreached, hreached']
        exact hcons _ _
      | follow _ _ _ _ hlast' => rw [hlast] at hlast'; cases hlast'
      | entry _ _ _ hfind' hlink' =>
        exact absurd (Node.bare_eq_link (hbare hfind hfind')) (hlink' _)
    | follow hdot hdots _ hfind hlast hwalk =>
      cases walkWith_cons_iff.mp h' with
      | here => exact absurd rfl hdot
      | back => exact absurd rfl hdots
      | link _ _ _ _ hlast' => rw [hlast] at hlast'; cases hlast'
      | follow _ _ _ hfind' _ hwalk' =>
        cases Node.bare_eq_link (hbare hfind hfind')
        refine hfollow _ _ _ _ _ ?_ ?_ ?_ hwalk hwalk' <;> split
        · trivial
        · exact ht
        · trivial
        · exact ht'
        · rfl
        · exact hnames
      | entry _ _ _ hfind' hlink' =>
        exact absurd (Node.bare_eq_link (hbare hfind hfind')) (hlink' _)
    | entry hdot hdots _ hfind hlink hwalk =>
      cases walkWith_cons_iff.mp h' with
      | here => exact absurd rfl hdot
      | back => exact absurd rfl hdots
      | link _ _ _ hfind' | follow _ _ _ hfind' =>
        exact absurd (Node.bare_eq_link (hbare hfind hfind').symm) (hlink _)
      | entry _ _ _ hfind' _ hwalk' =>
        exact walkWith_agree hagree follow follow' hfollow (ht.cons hfind)
          (ht'.cons hfind') (hcons _ _) hwalk hwalk'

/-- Where two trees agree, two walks that arrive do so at the same place. -/
theorem walk_agree (hagree : Agree root root') {followLast : Bool} :
    ∀ (links : Nat) {names : List Bytes} {t t' r r' : Trail}, Stands root t →
      Stands root' t' → t'.names = t.names →
      walk root followLast links t names = .ok r →
      walk root' followLast links t' names = .ok r' → r'.names = r.names
  | 0, _, _, _, _, _, ht, ht', hnames, h, h' =>
    walkWith_agree hagree _ _ (fun _ _ _ _ _ _ _ _ h => by cases h) ht
      ht' hnames h h'
  | links + 1, _, _, _, _, _, ht, ht', hnames, h, h' =>
    walkWith_agree hagree (walk root followLast links)
      (walk root' followLast links)
      (fun _ _ _ _ _ => walk_agree hagree links) ht ht' hnames h h'

-- ================================================================= looks

/-- The places where a walk looks something up. -/
def looksWith (root : Node) (follow : Trail → List Bytes → List (List Bytes)) :
    Trail → List Bytes → List (List Bytes)
  | _, [] => []
  | t, name :: rest =>
    t.names ::
      if name = Path.dot then looksWith root follow t rest
      else if name = Path.dots then looksWith root follow t.tail rest
      else
        (t.names ++ [name]) ::
          match Entries.find? name (t.node root).entries with
          | none => []
          | some (.link target) =>
            follow (if target.isAbsolute then [] else t) (target.steps ++ rest)
          | some n => looksWith root follow ((name, n) :: t) rest

/-- The places where a walk looks something up, with so many links left to
follow. -/
def looks (root : Node) : Nat → Trail → List Bytes → List (List Bytes)
  | 0 => looksWith root fun _ _ => []
  | links + 1 => looksWith root (looks root links)

/-- One tree is as another at some places. -/
def AlikeAt (places : List Bytes → Prop) (root root' : Node) : Prop :=
  ∀ q, places q →
    (Node.at? q root').map Node.bare = (Node.at? q root).map Node.bare

variable {places : List Bytes → Prop}

/-- Whether a walk can step down from a place is the same in two trees that
show alike nodes there. -/
theorem Stands.isDirectory_congr {α : Type} {g : Node → α}
    (hg : ∀ {n m : Node}, g n = g m → n.isDirectory = m.isDirectory)
    (ht : Stands root t) (ht' : Stands root' t') (hnames : t'.names = t.names)
    (hat : (Node.at? t.names root').map g = (Node.at? t.names root).map g) :
    (t'.node root').isDirectory = (t.node root).isDirectory := by
  rw [ht.node, ht'.node, hnames]
  cases hn : Node.at? t.names root with
  | none =>
    rw [hn, Option.map_none, Option.map_eq_none_iff] at hat
    rw [hat]
  | some n =>
    rw [hn, Option.map_some, Option.map_eq_some_iff] at hat
    obtain ⟨n', hn', hg'⟩ := hat
    rw [hn']
    exact hg hg'

/-- An entry found in one tree is found in the other, and the two are alike.
-/
theorem Stands.find?_congr {α : Type} {g : Node → α} (ht : Stands root t)
    (ht' : Stands root' t') (hnames : t'.names = t.names)
    {name : Bytes} {n : Node}
    (hat : (Node.at? (t.names ++ [name]) root').map g
      = (Node.at? (t.names ++ [name]) root).map g)
    (hfind : Entries.find? name (t.node root).entries = some n) :
    ∃ n', Entries.find? name (t'.node root').entries = some n' ∧
      g n' = g n := by
  rw [ht.at? hfind, Option.map_some, Option.map_eq_some_iff] at hat
  obtain ⟨n', hat, hg⟩ := hat
  rw [← hnames, Node.at?_concat, Option.bind_eq_some_iff] at hat
  obtain ⟨m, hm, hfind'⟩ := hat
  refine ⟨n', ?_, hg⟩
  rw [ht'.node, hm]
  exact hfind'

/-- What a name leads to in the directory at the end of a trail. -/
theorem Stands.find?_eq (ht : Stands root t) (name : Bytes) :
    Entries.find? name (t.node root).entries
      = Node.at? (t.names ++ [name]) root := by
  rw [ht.node, Node.at?_concat]
  cases Node.at? t.names root <;> rfl

/-- The special case of trees that are alike at the places in question. -/
theorem AlikeAt.isDirectory (h : AlikeAt places root root') (ht : Stands root t)
    (ht' : Stands root' t') (hnames : t'.names = t.names)
    (hplace : places t.names) :
    (t'.node root').isDirectory = (t.node root).isDirectory :=
  ht.isDirectory_congr Node.isDirectory_of_bare_eq ht' hnames (h _ hplace)

/-- One more name on a walk. -/
theorem walkWith_cons (root : Node) (followLast : Bool)
    (follow : Trail → List Bytes → Except SystemError Trail) (t : Trail)
    (name : Bytes) (rest : List Bytes) :
    walkWith root followLast follow t (name :: rest) =
      if (t.node root).isDirectory = true then
        if name = Path.dot then walkWith root followLast follow t rest
        else if name = Path.dots then
        walkWith root followLast follow t.tail rest
        else if longestName < name.length then .error .nameTooLong
        else
          match Entries.find? name (t.node root).entries with
          | none => .error .noEntry
          | some (.link target) =>
            if rest.isEmpty && !followLast then .ok ((name, .link target) :: t)
            else follow (if target.isAbsolute then [] else t)
                (target.steps ++ rest)
          | some n => walkWith root followLast follow ((name, n) :: t) rest
      else .error .notDirectory := by
  rw [walkWith]
  cases t.node root <;> rfl

/-- Where one tree is as the other wherever a walk looks, the walk comes out
the same: it leads to the same names, or it fails for the same reason. -/
theorem walkWith_alike (halike : AlikeAt places root root') {followLast : Bool}
    (follow follow' : Trail → List Bytes → Except SystemError Trail)
    (look : Trail → List Bytes → List (List Bytes))
    (hfollow : ∀ t t' names, Stands root t → Stands root' t' →
      t'.names = t.names → (∀ q ∈ look t names, places q) →
      (follow' t' names).map Trail.names = (follow t names).map Trail.names) :
    ∀ {names : List Bytes} {t t' : Trail}, Stands root t → Stands root' t' →
      t'.names = t.names → (∀ q ∈ looksWith root look t names, places q) →
      (walkWith root' followLast follow' t' names).map Trail.names
        = (walkWith root followLast follow t names).map Trail.names
  | [], t, t', _, _, hnames, _ => congrArg Except.ok hnames
  | name :: rest, t, t', ht, ht', hnames, hlooks => by
    rw [looksWith, List.forall_mem_cons] at hlooks
    obtain ⟨hstart, hlooks⟩ := hlooks
    rw [walkWith_cons, walkWith_cons, halike.isDirectory ht ht' hnames hstart]
    split
    case isFalse => rfl
    case isTrue =>
    split
    case isTrue hdot =>
      rw [if_pos hdot] at hlooks
      exact walkWith_alike halike follow follow' look hfollow ht ht'
        hnames hlooks
    case isFalse hdot =>
    rw [if_neg hdot] at hlooks
    split
    case isTrue hdots =>
      rw [if_pos hdots] at hlooks
      have htail : Trail.names t'.tail = Trail.names t.tail := by
        rw [Trail.names_tail, Trail.names_tail, hnames]
      exact walkWith_alike halike follow follow' look hfollow ht.tail ht'.tail
        htail hlooks
    case isFalse hdots =>
    rw [if_neg hdots, List.forall_mem_cons] at hlooks
    obtain ⟨hplace, hlooks⟩ := hlooks
    split
    case isTrue => rfl
    case isFalse =>
    have hbare := halike _ hplace
    rw [← ht.find?_eq, ← hnames, ← ht'.find?_eq] at hbare
    have hcons (n n' : Node) : Trail.names ((name, n') :: t')
        = Trail.names ((name, n) :: t) := by
      rw [Trail.names_cons, Trail.names_cons, hnames]
    cases hfind : Entries.find? name (t.node root).entries with
    | none =>
      rw [hfind, Option.map_none, Option.map_eq_none_iff] at hbare
      rw [hbare]
    | some n =>
      rw [hfind, Option.map_some, Option.map_eq_some_iff] at hbare
      obtain ⟨n', hfind', hbare⟩ := hbare
      rw [hfind] at hlooks
      rw [hfind']
      have hentry :
          (∀ q ∈ looksWith root look ((name, n) :: t) rest, places q) →
          (walkWith root' followLast follow' ((name, n') :: t') rest).map
              Trail.names
            = (walkWith root followLast follow ((name, n) :: t) rest).map
              Trail.names :=
        walkWith_alike halike follow follow' look hfollow (ht.cons hfind)
          (ht'.cons hfind') (hcons n n')
      cases n with
      | link target =>
        cases Node.bare_eq_link hbare
        dsimp only at hlooks ⊢
        split
        · exact congrArg Except.ok (hcons _ _)
        · cases hroot : target.isAbsolute with
          | true =>
            rw [hroot] at hlooks
            exact hfollow [] [] _ trivial trivial rfl hlooks
          | false =>
            rw [hroot] at hlooks
            exact hfollow t t' _ ht ht' hnames hlooks
      | file =>
        cases n' <;> first | exact hentry hlooks | cases hbare
      | directory =>
        cases n' <;> first | exact hentry hlooks | cases hbare

/-- A walk that looks only at places where two trees are alike ends alike in
both: at the same place, or for the same reason. -/
theorem walk_alike_eq (halike : AlikeAt places root root') {followLast : Bool} :
    ∀ (links : Nat) {names : List Bytes} {t t' : Trail}, Stands root t →
      Stands root' t' → t'.names = t.names →
      (∀ q ∈ looks root links t names, places q) →
      (walk root' followLast links t' names).map Trail.names
        = (walk root followLast links t names).map Trail.names
  | 0, _, _, _, ht, ht', hnames, hlooks =>
    walkWith_alike halike _ _ (fun _ _ => []) (fun _ _ _ _ _ _ _ => rfl) ht ht'
      hnames hlooks
  | links + 1, _, _, _, ht, ht', hnames, hlooks =>
    walkWith_alike halike (walk root followLast links)
      (walk root' followLast links)
      (looks root links) (fun _ _ _ => walk_alike_eq halike links) ht ht'
      hnames hlooks

/-- Two results that come to the same when both are seen through a function. -/
theorem alike_cases {α β : Type} {view : α → β} {w w' : Except SystemError α}
    (h : w'.map view = w.map view) :
    (∃ reason, w = .error reason ∧ w' = .error reason) ∨
      ∃ r r', w = .ok r ∧ w' = .ok r' ∧ view r' = view r := by
  cases w with
  | error reason =>
    cases w' with
    | error reason' =>
      cases h
      exact .inl ⟨reason, rfl, rfl⟩
    | ok r' => cases h
  | ok r =>
    cases w' with
    | error reason' => cases h
    | ok r' => exact .inr ⟨r, r', rfl, rfl, Except.ok.inj h⟩

/-- So if it arrives in one it arrives in the other. -/
theorem walk_alike (halike : AlikeAt places root root') {followLast : Bool}
    (links : Nat) {names : List Bytes} {t t' r : Trail} (ht : Stands root t)
    (ht' : Stands root' t') (hnames : t'.names = t.names)
    (hlooks : ∀ q ∈ looks root links t names, places q)
    (h : walk root followLast links t names = .ok r) :
    ∃ r', walk root' followLast links t' names = .ok r' ∧
      r'.names = r.names := by
  have hsame : (walk root' followLast links t' names).map Trail.names
      = (walk root followLast links t names).map Trail.names :=
    walk_alike_eq halike links ht ht' hnames hlooks
  rcases alike_cases hsame with ⟨reason, hfails, -⟩ | ⟨s, r', hs, hr', heq⟩
  · rw [h] at hfails
    cases hfails
  · rw [h] at hs
    cases hs
    exact ⟨r', hr', heq⟩

end Files

end Restoration
