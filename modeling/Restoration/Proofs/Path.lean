/-
The names along a path, and what joining makes of them.

Cutting bytes at a separator cuts the bytes before one and those behind it
for themselves (`splitFrom_append`). So joining puts names behind names
(`names_join`), making a path absolute puts them behind those of the working
directory (`absolute_cases`), and a list of paths can be taken apart again
(`ofList_toList`).
-/
import Restoration.Path

namespace Restoration.Path

variable {separator : UInt8} {p q : Path}

-- =============================================================== cutting

/-- A separator ends a part. -/
theorem splitFrom_append (current before after : Bytes) :
    splitFrom separator current (before ++ separator :: after)
      = splitFrom separator current before ++ splitFrom separator [] after := by
  induction before generalizing current with
  | nil => simp [splitFrom]
  | cons b before ih =>
      rw [List.cons_append, splitFrom, splitFrom, ih, ih]
      split <;> rfl

/-- Without one there is a single part. -/
theorem splitFrom_of_not_mem {b : Bytes} (h : separator ∉ b) (current : Bytes) :
    splitFrom separator current b = [current.reverse ++ b] := by
  induction b generalizing current with
  | nil => rw [splitFrom, List.append_nil]
  | cons c b ih =>
      rw [List.mem_cons, not_or] at h
      rw [splitFrom, if_neg (Ne.symm h.1), ih h.2, List.reverse_cons,
        List.append_assoc, List.singleton_append]

/-- No part holds the separator. -/
theorem not_mem_of_mem_splitFrom {b part current : Bytes}
    (hcurrent : separator ∉ current)
    (h : part ∈ splitFrom separator current b) : separator ∉ part := by
  induction b generalizing current with
  | nil =>
      rw [splitFrom, List.mem_singleton] at h
      rwa [h, List.mem_reverse]
  | cons c b ih =>
      rw [splitFrom] at h
      split at h
      case isTrue =>
        rcases List.mem_cons.mp h with rfl | h
        · rwa [List.mem_reverse]
        · exact ih List.not_mem_nil h
      case isFalse hc =>
        refine ih ?_ h
        rw [List.mem_cons, not_or]
        exact ⟨Ne.symm hc, hcurrent⟩

-- ================================================================= names

/-- A name along a path holds no slash and is not empty. -/
theorem not_mem_of_mem_names {name : Bytes} (h : name ∈ p.names) :
    name ≠ [] ∧ slash ∉ name := by
  rw [names, List.mem_filter, decide_eq_true_eq] at h
  exact ⟨h.2, not_mem_of_mem_splitFrom List.not_mem_nil h.1⟩

/-- The names of a path are those in front of a slash and those behind it.
-/
theorem names_append_slash (before after : Bytes) :
    names ⟨before ++ slash :: after⟩ = names ⟨before⟩ ++ names ⟨after⟩ := by
  unfold names split
  rw [splitFrom_append, List.filter_append]

/-- A name is the only name of its path. -/
theorem names_singleton {name : Bytes} (hne : name ≠ []) (h : slash ∉ name) :
    names ⟨name⟩ = [name] := by
  unfold names split
  rw [splitFrom_of_not_mem h, List.reverse_nil, List.nil_append]
  exact List.filter_cons_of_pos (by simpa using hne)

/-- A path that does not start at the root starts with a name. -/
theorem names_ne_nil (habsolute : p.isAbsolute = false)
    (hne : p.bytes ≠ []) : p.names ≠ [] := by
  obtain ⟨bytes⟩ := p
  by_cases hslash : slash ∈ bytes
  · obtain ⟨name, after, rfl, hname⟩ := List.eq_append_cons_of_mem hslash
    have hfirst : name ≠ [] := by
      rintro rfl
      cases habsolute
    rw [names_append_slash, names_singleton hfirst hname]
    exact List.cons_ne_nil _ _
  · rw [names_singleton hne hslash]
    exact List.cons_ne_nil _ _

/-- A path below another one has its names behind those of the other. -/
theorem names_join (h : q.isAbsolute = false) :
    (p.join q).names = p.names ++ q.names := by
  unfold join
  rw [if_neg (by rw [h]; decide)]
  split
  case isFalse => exact names_append_slash p.bytes q.bytes
  case isTrue hend =>
    rcases hend with hnil | hslash
    · obtain ⟨bytes⟩ := p
      obtain rfl : bytes = [] := hnil
      rfl
    · -- the slash at the end is the one between the two
      rw [endsInSlash, beq_iff_eq, List.getLast?_eq_some_iff] at hslash
      obtain ⟨before, hbefore⟩ := hslash
      obtain ⟨bytes⟩ := p
      obtain rfl : bytes = before ++ [slash] := hbefore
      have hnil : names ⟨[]⟩ = [] := rfl
      dsimp only
      rw [List.append_assoc, List.singleton_append, names_append_slash,
        names_append_slash, hnil, List.append_nil]

/-- Joining a relative path leaves a path absolute or relative. -/
theorem isAbsolute_join (h : q.isAbsolute = false) :
    (p.join q).isAbsolute = p.isAbsolute := by
  obtain ⟨bytes⟩ := p
  unfold join
  rw [if_neg (by rw [h]; decide)]
  cases bytes with
  | nil => exact h
  | cons b bytes => split <;> rfl

/-- A path without a slash is relative. -/
theorem isAbsolute_of_not_mem {name : Bytes} (h : slash ∉ name) :
    isAbsolute ⟨name⟩ = false := by
  cases name with
  | nil => rfl
  | cons b name =>
      rw [List.mem_cons, not_or] at h
      simpa [isAbsolute] using Ne.symm h.1

/-- Joining names adds them to the names of a path. -/
theorem joinNames_spec {names : List Bytes}
    (h : ∀ name ∈ names, name ≠ [] ∧ slash ∉ name) :
    (p.joinNames names).names = p.names ++ names
      ∧ (p.joinNames names).isAbsolute = p.isAbsolute := by
  induction names generalizing p with
  | nil => exact ⟨(List.append_nil _).symm, rfl⟩
  | cons name names ih =>
      obtain ⟨⟨hne, hslash⟩, hnames⟩ := List.forall_mem_cons.mp h
      have habsolute := isAbsolute_of_not_mem hslash
      obtain ⟨hall, hstart⟩ := ih (p := p.join ⟨name⟩) hnames
      rw [names_join habsolute, names_singleton hne hslash, List.append_assoc]
        at hall
      exact ⟨hall, hstart.trans (isAbsolute_join habsolute)⟩

/-- Names below a path are joined one by one. -/
theorem joinNames_concat (p : Path) (names : List Bytes) (name : Bytes) :
    p.joinNames (names ++ [name]) = (p.joinNames names).join ⟨name⟩ := by
  simp [joinNames]

/-- A path that a name was joined to ends with the name. -/
theorem endsInSlash_join {name : Bytes} (hne : name ≠ [])
    (hslash : slash ∉ name) :
    (p.join ⟨name⟩).endsInSlash = false := by
  have hlast : (p.join ⟨name⟩).bytes.getLast? = name.getLast? := by
    unfold join
    rw [if_neg (by rw [isAbsolute_of_not_mem hslash]; decide)]
    split
    · simp [List.getLast?_append, List.getLast?_eq_some_getLast hne]
    · simp [List.getLast?_append, List.getLast?_cons,
        List.getLast?_eq_some_getLast hne]
  rw [endsInSlash, hlast, List.getLast?_eq_some_getLast hne]
  simp only [beq_eq_false_iff_ne, ne_eq, Option.some.injEq]
  intro heq
  exact hslash (heq ▸ List.getLast_mem hne)

/-- Joining brings no byte but the slash. -/
theorem not_mem_join {b : UInt8} {name : Bytes} (hb : b ≠ slash)
    (hp : b ∉ p.bytes) (hname : b ∉ name) : b ∉ (p.join ⟨name⟩).bytes := by
  unfold join
  split
  · exact hname
  split
  · simp [hp, hname]
  · simp [hp, hname, hb]

/-- No byte is in a joined path but those of its parts, and slashes. -/
theorem not_mem_joinNames {b : UInt8} {names : List Bytes} (hb : b ≠ slash)
    (hp : b ∉ p.bytes) (h : ∀ name ∈ names, b ∉ name) :
    b ∉ (p.joinNames names).bytes := by
  induction names generalizing p with
  | nil => exact hp
  | cons name names ih =>
      obtain ⟨hname, hnames⟩ := List.forall_mem_cons.mp h
      exact ih (not_mem_join hb hp hname) hnames

-- ============================================================== absolute

/-- A slash more at the end. -/
theorem names_concat_slash (p : Path) :
    names ⟨p.bytes ++ [slash]⟩ = p.names := by
  have hnil : names ⟨[]⟩ = [] := rfl
  rw [names_append_slash, hnil, List.append_nil]

/-- A slash at the end leaves an absolute path absolute. -/
theorem isAbsolute_concat_slash (h : p.isAbsolute = true) :
    isAbsolute ⟨p.bytes ++ [slash]⟩ = true := by
  obtain ⟨bytes⟩ := p
  cases bytes with
  | nil => cases h
  | cons b bytes => exact h

/-- An absolute form has the names of the path, less `.`, behind those of
the place where the path starts: the root or the working directory. It
starts at the root if that place does, and a slash at the end of the path
stays. -/
theorem absolute_eq_some {workingDirectory : Option Path}
    (h : absolute workingDirectory p = some q) :
    ∃ start : Path, q.names = start.names ++ p.names.filter (· ≠ dot)
      ∧ (start.isAbsolute = true → q.isAbsolute = true)
      ∧ (p.endsInSlash = true → q.endsInSlash = true)
      ∧ if p.isAbsolute then start.names = [] ∧ start.isAbsolute = true
        else workingDirectory = some start := by
  unfold absolute at h
  split at h
  case isTrue => cases h
  case isFalse =>
    rw [Option.map_eq_some_iff] at h
    obtain ⟨start, hstart, h⟩ := h
    have hnames : ∀ name ∈ p.names.filter (· ≠ dot), name ≠ [] ∧ slash ∉ name :=
      fun name hname =>
      not_mem_of_mem_names (List.mem_filter.mp hname).1
    obtain ⟨hwhole, habsolute⟩ := joinNames_spec (p := start) hnames
    generalize start.joinNames (p.names.filter (· ≠ dot)) = whole
      at h hwhole habsolute
    refine ⟨start, ?_⟩
    rw [← hwhole, ← habsolute]
    have hslash : endsInSlash ⟨whole.bytes ++ [slash]⟩ = true := by
      simp [endsInSlash]
    refine ⟨?_, ?_, ?_, ?_⟩
    · dsimp only at h
      split at h
      · rw [← h]
        exact names_concat_slash whole
      · rw [← h]
    · intro hroot
      dsimp only at h
      split at h
      · rw [← h]
        exact isAbsolute_concat_slash hroot
      · rwa [← h]
    · intro hend
      dsimp only at h
      by_cases hends : whole.endsInSlash = true
      · rw [if_neg (fun hboth => hboth.2 hends)] at h
        rwa [← h]
      · rw [if_pos ⟨hend, hends⟩] at h
        rwa [← h]
    · rw [habsolute]
      split
      case isFalse hrelative => rwa [if_neg hrelative] at hstart
      case isTrue hroot =>
        rw [if_pos hroot, Option.some.injEq] at hstart
        rw [← hstart]
        split <;> exact ⟨rfl, rfl⟩

/-- A path made absolute has its own names, behind those of the working
directory if it was relative. -/
theorem absolute_cases {workingDirectory : Option Path}
    (h : absolute workingDirectory p = some q) :
    ∃ start : Path, q.names = start.names ++ p.names.filter (· ≠ dot)
      ∧ if p.isAbsolute then start.names = [] ∧ q.isAbsolute = true
        else workingDirectory = some start := by
  obtain ⟨start, hnames, hroot, -, hstart⟩ := absolute_eq_some h
  refine ⟨start, hnames, ?_⟩
  by_cases hp : p.isAbsolute = true
  · rw [if_pos hp] at hstart ⊢
    exact ⟨hstart.1, hroot hstart.2⟩
  · rw [if_neg hp] at hstart ⊢
    exact hstart

/-- What an absolute form of a path is, from the directory where a walk of
the path would start: it starts at the root, has the names of that directory
before those of the path, less `.`, and ends in a slash if the path does. -/
structure IsAbsoluteForm (here p q : Path) : Prop where
  start : q.isAbsolute = true
  names : q.names = (if p.isAbsolute then [] else here.names) ++
    p.names.filter (· ≠ dot)
  slash : p.endsInSlash = true → q.endsInSlash = true

/-- Every path but the empty one has an absolute form. -/
theorem exists_absolute {here : Path} (hhere : here.isAbsolute = true)
    (hp : p.bytes ≠ []) :
    ∃ q, absolute (some here) p = some q ∧ IsAbsoluteForm here p q := by
  obtain ⟨q, hq⟩ : ∃ q, absolute (some here) p = some q := by
    unfold absolute
    rw [if_neg hp]
    split <;> exact ⟨_, rfl⟩
  obtain ⟨start, hnames, hroot, hslash, hstart⟩ := absolute_eq_some hq
  refine ⟨q, hq, ?_⟩
  by_cases habsolute : p.isAbsolute = true
  · rw [if_pos habsolute] at hstart
    exact ⟨hroot hstart.2, by rw [hnames, hstart.1, if_pos habsolute], hslash⟩
  · rw [if_neg habsolute, Option.some.injEq] at hstart
    subst hstart
    exact ⟨hroot hhere, by rw [hnames, if_neg habsolute], hslash⟩

-- ================================================================= lists

/-- Parts without separators can be joined and split again. -/
theorem split_intercalate {parts : List Bytes} (hne : parts ≠ [])
    (h : ∀ part ∈ parts, separator ∉ part) :
    split separator (List.intercalate [separator] parts) = parts := by
  unfold split
  induction parts with
  | nil => exact absurd rfl hne
  | cons part parts ih =>
      obtain ⟨hpart, hparts⟩ := List.forall_mem_cons.mp h
      have hsingle := splitFrom_of_not_mem hpart []
      rw [List.reverse_nil, List.nil_append] at hsingle
      cases parts with
      | nil => rw [List.intercalate_singleton, hsingle]
      | cons next parts =>
          rw [List.intercalate_cons_cons, List.append_assoc,
            List.singleton_append, splitFrom_append, hsingle,
            ih (List.cons_ne_nil _ _) hparts, List.singleton_append]

/-- The paths that were put into a list come out of it. -/
theorem ofList_toList {paths : List Path} {b : Bytes} (hne : paths ≠ [])
    (h : toList paths = some b) : ofList b = paths := by
  unfold toList at h
  split at h
  case isTrue => cases h
  case isFalse hcolon =>
    cases h
    have hfree : ∀ part ∈ paths.map Path.bytes, colon ∉ part := by
      intro part hpart hmem
      obtain ⟨p, hp, rfl⟩ := List.mem_map.mp hpart
      exact hcolon
        (List.any_eq_true.mpr ⟨p, hp, List.contains_iff_mem.mpr hmem⟩)
    rw [ofList, split_intercalate (by simpa using hne) hfree, List.map_map]
    exact List.map_id paths

/-- A list of places is taken apart again, unless one of them holds the
separator; then there is no list. -/
theorem toList_cases {places : List Path} (hne : places ≠ []) :
    ofList ((toList places).getD []) = places
      ∨ (toList places).getD [] = [] ∧ ∃ p ∈ places, colon ∈ p.bytes := by
  cases hlist : toList places with
  | some b => exact Or.inl (ofList_toList hne hlist)
  | none =>
      refine Or.inr ⟨rfl, ?_⟩
      unfold toList at hlist
      split at hlist
      case isFalse => cases hlist
      case isTrue hcolon =>
        obtain ⟨p, hp, hmem⟩ := List.any_eq_true.mp hcolon
        exact ⟨p, hp, List.contains_iff_mem.mp hmem⟩

end Restoration.Path
