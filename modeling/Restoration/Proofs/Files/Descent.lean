/-
What stands below a path that leads somewhere.

Entries have names that a walk takes as they are: they are not empty, hold
no slash, and are neither `.` nor `..` (`IsName`). So from where a path has
led, names lead on along the entries of the tree (`walkWith_at?`), and since
a link is met at the last of them at most, no link is followed on the way:
the walk of the whole path is the walk of the path before, gone on with
(`walk_append`). Only the length of the path can keep it from being walked
(`resolve_joinNames`).
-/
import Restoration.Proofs.Files.Frame
import Restoration.Proofs.Path

namespace Restoration

-- ================================================================= names

namespace Files

/-- A name that an entry of a directory can have. -/
structure IsName (name : Bytes) : Prop where
  nonempty : name ≠ []
  noSlash : Path.slash ∉ name
  noZero : 0 ∉ name
  notDot : name ≠ Path.dot
  notDots : name ≠ Path.dots
  short : name.length ≤ longestName

/-- What a name of an entry may be: not empty, no slash or zero byte in it,
not `.` or `..`, and not too long. -/
theorem isName_iff {name : Bytes} :
    IsName name ↔ name ≠ [] ∧ Path.slash ∉ name ∧ 0 ∉ name ∧
    name ≠ Path.dot ∧ name ≠ Path.dots ∧ name.length ≤ longestName :=
  ⟨fun h => ⟨h.nonempty, h.noSlash, h.noZero, h.notDot, h.notDots, h.short⟩,
    fun ⟨nonempty, noSlash, noZero, notDot, notDots, short⟩ =>
      ⟨nonempty, noSlash, noZero, notDot, notDots, short⟩⟩

instance (name : Bytes) : Decidable (IsName name) :=
  decidable_of_iff _ isName_iff.symm

end Files

/-- All entries have names that entries can have, here and below. -/
inductive Node.WellNamed : Node → Prop
  | file (contents : Bytes) (executable : Bool) :
      WellNamed (.file contents executable)
  | link (target : Path) : WellNamed (.link target)
  | directory {readable : Bool} {entries : Entries}
      (names : ∀ entry ∈ entries, Files.IsName entry.1)
      (below : ∀ entry ∈ entries, entry.2.WellNamed) :
      WellNamed (.directory readable entries)

/-- An entry of a well-named directory has a proper name and is well-named
itself. -/
theorem Node.WellNamed.of_mem {n : Node} (h : n.WellNamed)
    {entry : Bytes × Node} (hmem : entry ∈ n.entries) :
    Files.IsName entry.1 ∧ entry.2.WellNamed := by
  cases h with
  | file => cases hmem
  | link => cases hmem
  | directory names below => exact ⟨names entry hmem, below entry hmem⟩

/-- Names that lead somewhere in a well-named tree are proper names. -/
theorem Node.WellNamed.names_of_at? :
    ∀ {names : List Bytes} {n m : Node}, n.WellNamed →
    Node.at? names n = some m → ∀ name ∈ names, Files.IsName name
  | [], _, _, _, _ => nofun
  | name :: names, _, _, h, hat => by
    obtain ⟨k, hfind, hk⟩ := Option.bind_eq_some_iff.mp hat
    obtain ⟨hname, hbelow⟩ := h.of_mem (Entries.mem_of_find? hfind)
    exact List.forall_mem_cons.mpr ⟨hname, names_of_at? hbelow hk⟩

@[simp] theorem Node.wellNamed_file {contents : Bytes} {executable : Bool} :
    (Node.file contents executable).WellNamed :=
  .file contents executable

@[simp] theorem Node.wellNamed_link {target : Path} :
    (Node.link target).WellNamed := .link target

@[simp] theorem Node.wellNamed_directory {readable : Bool} {entries : Entries} :
    (Node.directory readable entries).WellNamed ↔
      (∀ entry ∈ entries, Files.IsName entry.1) ∧
      ∀ entry ∈ entries, entry.2.WellNamed := by
  constructor
  · rintro (_ | _ | ⟨names, below⟩)
    exact ⟨names, below⟩
  · exact fun ⟨names, below⟩ => .directory names below

namespace Files

variable {root : Node} {t r : Trail} {followLast : Bool}

-- ================================================================= walks

/-- A walk goes on from where another one has led, if it follows no more
links. -/
theorem walkWith_append
    (follow follow' : Trail → List Bytes → Except SystemError Trail)
    {t' : Trail} {rest : List Bytes} (hne : rest ≠ [])
    (hrest : ∀ follow, walkWith root followLast follow t' rest = .ok r)
    (hfollow : ∀ {t names}, follow t names = .ok t' →
      follow' t (names ++ rest) = .ok r) :
    ∀ {before : List Bytes} {t : Trail},
      walkWith root true follow t before = .ok t' →
      walkWith root followLast follow' t (before ++ rest) = .ok r
  | [], t, h => by
    cases h
    exact hrest follow'
  | name :: before, t, h => by
    have hmore : ((before ++ rest).isEmpty && !followLast) = false := by
      simp [hne]
    rw [List.cons_append]
    cases walkWith_cons_iff.mp h with
    | here directory hwalk =>
      have hon := walkWith_append follow follow' hne hrest hfollow hwalk
      exact walkWith_cons_iff.mpr (.here directory hon)
    | back directory hwalk =>
      have hon := walkWith_append follow follow' hne hrest hfollow hwalk
      exact walkWith_cons_iff.mpr (.back directory hon)
    | entry hdot hdots hlength hfind hlink hwalk =>
      have hon := walkWith_append follow follow' hne hrest hfollow hwalk
      exact walkWith_cons_iff.mpr (.entry hdot hdots hlength hfind hlink hon)
    | follow hdot hdots hlength hfind _ hwalk =>
      have hon := hfollow hwalk
      rw [List.append_assoc] at hon
      exact walkWith_cons_iff.mpr (.follow hdot hdots hlength hfind hmore hon)
    | link _ _ _ _ hlast => simp at hlast

/-- A walk goes on where an earlier one has ended. The earlier walk has to
follow a link at its end, as the later one goes on from where the link
leads. -/
theorem walk_append {t' : Trail} {rest : List Bytes} (hne : rest ≠ [])
    (hrest : ∀ follow, walkWith root followLast follow t' rest = .ok r) :
    ∀ (links : Nat) {before : List Bytes} {t : Trail},
      walk root true links t before = .ok t' →
      walk root followLast links t (before ++ rest) = .ok r
  | 0, _, _, h => walkWith_append _ _ hne hrest (fun h => by cases h) h
  | links + 1, _, _, h =>
    walkWith_append (walk root true links)
      (walk root followLast links) hne hrest (walk_append hne hrest links) h

/-- Names lead along the entries of the tree, as long as no link is followed
at the end. -/
theorem walkWith_at? {n : Node}
    (hlink : n.isLink = false ∨ followLast = false) :
    ∀ {names : List Bytes} {t : Trail}, (∀ name ∈ names, IsName name) →
      Node.at? names (t.node root) = some n →
      ∃ r, (∀ follow, walkWith root followLast follow t names = .ok r) ∧
        r.node root = n
  | [], t, _, h => ⟨t, fun _ => rfl, Option.some.inj h⟩
  | name :: names, t, hnames, h => by
    obtain ⟨hname, hnames⟩ := List.forall_mem_cons.mp hnames
    rw [Node.at?] at h
    obtain ⟨m, hfind, hm⟩ := Option.bind_eq_some_iff.mp h
    by_cases hm' : m.isLink = true
    · -- nothing lies below a link, so this is the last name
      cases m with
      | file => cases hm'
      | directory => cases hm'
      | link target =>
        cases names with
        | cons => cases hm
        | nil =>
          cases hm
          have hlast :
              (List.isEmpty (α := Bytes) [] && !followLast) = true := by
            simpa [Node.isLink] using hlink
          exact ⟨_, fun _ => walkWith_cons_iff.mpr
            (.link hname.notDot hname.notDots hname.short hfind hlast rfl), rfl⟩
    · have hentry : ∀ target, m ≠ .link target := by
        rintro target rfl
        exact hm' rfl
      obtain ⟨r, hwalk, hr⟩ :=
        walkWith_at? hlink (t := (name, m) :: t) hnames hm
      exact ⟨r, fun follow => walkWith_cons_iff.mpr
        (.entry hname.notDot hname.notDots hname.short hfind hentry
          (hwalk follow)), hr⟩

-- ================================================================= paths

variable {f : Files} {p : Path} {names : List Bytes}

/-- Joining names to a path adds them to its steps. -/
theorem steps_joinNames (hne : names ≠ [])
    (hnames : ∀ name ∈ names, IsName name) :
    (p.joinNames names).steps = p.names ++ names := by
  have hall : ∀ name ∈ names, name ≠ [] ∧ Path.slash ∉ name :=
    fun name hname =>
      ⟨(hnames name hname).nonempty, (hnames name hname).noSlash⟩
  have hslash : (p.joinNames names).endsInSlash = false := by
    obtain ⟨before, last, rfl⟩ :=
      List.eq_nil_or_concat'  names |>.resolve_left hne
    obtain ⟨hlast, hlastSlash⟩ := hall last (by simp)
    rw [Path.joinNames_concat]
    exact Path.endsInSlash_join hlast hlastSlash
  rw [Path.steps, hslash, if_neg Bool.false_ne_true,
    (Path.joinNames_spec hall).1]

/-- Names below a path are walked from where the path is. -/
theorem start_joinNames (hnames : ∀ name ∈ names, IsName name) :
    f.start (p.joinNames names) = f.start p := by
  have hall : ∀ name ∈ names, name ≠ [] ∧ Path.slash ∉ name :=
    fun name hname =>
      ⟨(hnames name hname).nonempty, (hnames name hname).noSlash⟩
  unfold start
  rw [(Path.joinNames_spec hall).2]

/-- Below a path that leads somewhere, names lead on along the entries of
the tree. -/
theorem resolve_joinNames {n : Node} (hne : names ≠ [])
    (hnames : ∀ name ∈ names, IsName name) (hresolve : f.resolve true p = .ok t)
    (hat : Node.at? names (t.node f.root) = some n)
    (hlength : (p.joinNames names).bytes.length ≤ longestPath)
    (hlink : n.isLink = false ∨ followLast = false) :
    ∃ r, f.resolve followLast (p.joinNames names) = .ok r ∧
      r.node f.root = n := by
  have hall : ∀ name ∈ names, name ≠ [] ∧ Path.slash ∉ name :=
    fun name hname =>
      ⟨(hnames name hname).nonempty, (hnames name hname).noSlash⟩
  obtain ⟨hjoined, -⟩ := Path.joinNames_spec (p := p) hall
  obtain ⟨hzero, -, -, hwalk⟩ := resolve_eq_ok.mp hresolve
  have hprefix : walk f.root true linkLimit (f.start p) p.names = .ok t := by
    rcases steps_cases p with hsteps | hsteps
    · rwa [hsteps] at hwalk
    · -- the slash at the end asks for a directory, and the walk stays there
      rw [hsteps] at hwalk
      obtain ⟨t', left, hwalk', hdot⟩ :=
        walk_split (.inl (List.cons_ne_nil _ [])) linkLimit hwalk
      have ht : t = t' := by simpa using (walk_name hdot).2
      rwa [ht]
  obtain ⟨r, hrest, hr⟩ := walkWith_at? hlink hnames hat
  refine ⟨r, resolve_eq_ok.mpr ⟨?_, ?_, hlength, ?_⟩, hr⟩
  · have hfree : 0 ∉ (p.joinNames names).bytes := by
      apply Path.not_mem_joinNames (by decide)
      · simpa using hzero
      · exact fun name hname => (hnames name hname).noZero
    simpa using hfree
  · intro hempty
    have hnone : (p.joinNames names).names = [] := by
      unfold Path.names
      rw [hempty]
      rfl
    rw [hjoined, List.append_eq_nil_iff] at hnone
    exact hne hnone.2
  · rw [start_joinNames hnames, steps_joinNames hne hnames]
    exact walk_append hne hrest linkLimit hprefix

/-- What goes over from a node to its entries holds of whatever a path leads
to. -/
theorem look_inherited {P : Node → Prop}
    (hbelow : ∀ n, P n → ∀ entry ∈ n.entries, P entry.2) (hempty : P .empty)
    (hroot : P f.root) {n : Node} (h : f.look p = .ok n) : P n := by
  have hat : ∀ {names : List Bytes} {n m : Node}, P n →
      Node.at? names n = some m → P m := by
    intro names
    induction names with
    | nil =>
      intro n m hn hm
      cases hm
      exact hn
    | cons name names ih =>
      intro n m hn hm
      obtain ⟨k, hfind, hk⟩ := Option.bind_eq_some_iff.mp hm
      exact ih (hbelow n hn _ (Entries.mem_of_find? hfind)) hk
  obtain ⟨t, hresolve, rfl⟩ := look_eq_ok h
  rw [(resolve_stands hresolve).node]
  cases hnode : Node.at? t.names f.root with
  | none => exact hempty
  | some m => exact hat hroot hnode

/-- What a path leads to in a well-named tree is well-named. -/
theorem look_wellNamed (hroot : f.root.WellNamed) {n : Node}
    (h : f.look p = .ok n) :
    n.WellNamed :=
  look_inherited (fun _ hn _ hmem => (hn.of_mem hmem).2)
    (.directory (by simp) (by simp)) hroot h

end Files

end Restoration
