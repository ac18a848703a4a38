/-
Reading the path of a URL.

A path is cut at its slashes and its segments are walked one by one, the last
one in a way of its own, since it says what is named. So the segments before a
slash are walked as if nothing followed (`readPath_append_slash`): they lead to
the directories of the path, and what follows the slash is walked from there.
Slashes at the end of a path leave empty segments (`readPath_slashes`), a path
without one names something in its last directory or that directory itself
(`readPath_cases`), and a segment of its own lies below all of them
(`readPath_below`).

The path has no part in what else is read: a text with the same characters
before it and another path is read as the same URL but for the path
(`parse_path`).
-/
import Mathlib.Data.List.DropRight
import Restoration.Proofs.Text.Encoding
import Restoration.Url

namespace Restoration.Url

variable {cs before after path segment : List Char} {walked : List String}

-- ================================================================== text

/-- Characters of a URL that has neither a query nor a fragment: none of
them is white space or a backslash, and none ends the path. -/
def IsPlain (cs : List Char) : Prop :=
  ∀ c ∈ cs, 0x20 < c.toNat ∧ c ≠ '\\' ∧ c ≠ '?' ∧ c ≠ '#'

-- by the characters of the text, and not by all characters there are
instance (cs : List Char) : Decidable (IsPlain cs) := List.decidableBAll _ cs

/-- A plain text is plain in all its parts. -/
theorem isPlain_append :
    IsPlain (before ++ after) ↔ IsPlain before ∧ IsPlain after := by
  unfold IsPlain
  exact List.forall_mem_append

/-- Plain characters are read as they stand. -/
theorem cleaned_of_isPlain {s : String} (h : IsPlain s.toList) :
    cleaned s = s.toList := by
  have hends : s.toList.reverse.dropWhile (·.toNat ≤ 0x20)
      = s.toList.reverse := by
    cases hs : s.toList.reverse with
    | nil => rfl
    | cons c rest =>
        have hc :=
          (h c (List.mem_reverse.mp (by rw [hs]; exact List.mem_cons_self))).1
        exact List.dropWhile_cons_of_neg (by simpa using hc)
  rw [cleaned, hends, List.reverse_reverse, List.filter_eq_self]
  intro c hc
  have hspace := (h c hc).1
  have hne (blank : Char) (hblank : blank.toNat ≤ 0x20) : c ≠ blank := by
    rintro rfl
    omega
  simp [hne '\t' (by decide), hne '\n' (by decide), hne '\r' (by decide)]

-- ============================================================== segments

/-- A slash ends a segment. -/
theorem segmentsFrom_append (current before after : List Char) :
    segmentsFrom current (before ++ '/' :: after)
      = segmentsFrom current before ++ segmentsFrom [] after := by
  induction before generalizing current with
  | nil => simp [segmentsFrom]
  | cons c before ih =>
      rw [List.cons_append, segmentsFrom, segmentsFrom, ih, ih]
      split <;> rfl

/-- There is always a last segment, if only an empty one. -/
theorem segmentsFrom_ne_nil (current cs : List Char) :
    segmentsFrom current cs ≠ [] := by
  induction cs generalizing current with
  | nil => exact List.cons_ne_nil _ _
  | cons c cs ih =>
      rw [segmentsFrom]
      split
      · exact List.cons_ne_nil _ _
      · exact ih _

/-- Slashes have empty segments between them. -/
theorem segmentsFrom_slashes (k : Nat) :
    segmentsFrom [] (List.replicate k '/') = List.replicate (k + 1) [] := by
  induction k with
  | zero => rfl
  | succ k ih =>
      rw [List.replicate_succ, segmentsFrom, if_pos (Or.inl rfl), ih,
        List.reverse_nil, ← List.replicate_succ]

/-- What ends in no slash ends in a segment that is not empty. -/
theorem segmentsFrom_concat (current before : List Char) {c : Char}
    (hslash : c ≠ '/') (hbackslash : c ≠ '\\') :
    ∃ front last, segmentsFrom current (before ++ [c]) = front ++ [last] ∧
      last ≠ [] := by
  induction before generalizing current with
  | nil =>
      refine ⟨[], (c :: current).reverse, ?_, by simp⟩
      rw [List.nil_append, segmentsFrom,
        if_neg (not_or.mpr ⟨hslash, hbackslash⟩), segmentsFrom, List.nil_append]
  | cons d before ih =>
      rw [List.cons_append, segmentsFrom]
      split
      · obtain ⟨front, last, heq, hne⟩ := ih []
        exact ⟨current.reverse :: front,
          last, by rw [heq, List.cons_append], hne⟩
      · exact ih _

-- =============================================================== walking

/-- Walks a segment that another one follows. -/
def pass (walked : List String) (segment : List Char) : List String :=
  let segment := Percent.encode Percent.inPath segment
  if isDots segment then above walked
  else if isDot segment then walked
  else String.ofList segment :: walked

/-- Resolving goes on where the segments before have got it. -/
theorem resolve_append (walked : List String) (before : List (List Char))
    {after : List (List Char)} (h : after ≠ []) :
    resolve walked (before ++ after)
      = resolve (before.foldl pass walked) after := by
  induction before generalizing walked with
  | nil => rfl
  | cons segment before ih =>
      have hmore : (before ++ after).isEmpty = false := by simp [h]
      rw [List.cons_append, resolve, List.foldl_cons, ← ih, hmore]
      rfl

/-- The last segment names something below what has been walked, or it
stands for a directory. -/
theorem resolve_singleton (walked : List String) (segment : List Char) :
    resolve walked [segment] = (pass walked segment).reverse ++ [""]
      ∨ resolve walked [segment]
          = walked.reverse ++
            [String.ofList (Percent.encode Percent.inPath segment)]
        ∧ pass walked segment
          = String.ofList (Percent.encode Percent.inPath segment)
              :: walked := by
  unfold pass
  rw [resolve, resolve]
  dsimp only
  by_cases hdots : isDots (Percent.encode Percent.inPath segment) = true
  · exact Or.inl (by simp [hdots])
  by_cases hdot : isDot (Percent.encode Percent.inPath segment) = true
  · exact Or.inl (by simp [hdots, hdot])
  · exact Or.inr (by simp [hdots, hdot])

/-- An empty segment is passed like a name. -/
theorem pass_nil (walked : List String) : pass walked [] = "" :: walked := rfl

/-- So nothing is resolved away between slashes. -/
theorem resolve_slashes (walked : List String) (k : Nat) :
    resolve walked (List.replicate (k + 1) []) = walked.reverse ++
      List.replicate (k + 1) "" := by
  induction k generalizing walked with
  | zero => exact List.reverse_cons
  | succ k ih =>
      have hrest : List.replicate (k + 1) ([] : List Char) ≠ [] := by simp
      rw [List.replicate_succ, ← List.singleton_append,
        resolve_append _ _ hrest, List.foldl_cons, List.foldl_nil, pass_nil, ih,
        List.reverse_cons, List.append_assoc, List.singleton_append,
        ← List.replicate_succ]

/-- Encoding never makes a segment empty. -/
theorem encode_ne_nil (h : segment ≠ []) :
    Percent.encode Percent.inPath segment ≠ [] := by
  cases segment with
  | nil => exact absurd rfl h
  | cons c segment =>
      unfold Percent.encode Percent.encodeChar
      rw [List.flatMap_cons]
      split
      · exact List.cons_ne_nil _ _
      · rw [Utf8.encode_eq_flatMap, String.toList_singleton,
          List.flatMap_singleton]
        cases hbytes : String.utf8EncodeChar c with
        | nil => exact absurd hbytes String.utf8EncodeChar_ne_nil
        | cons b bytes => exact List.cons_ne_nil _ _

-- ================================================================= paths

/-- A path starts with a slash, unless there is none. -/
def IsPath (path : List Char) : Prop :=
  path = [] ∨ ∃ segments, path = '/' :: segments

/-- The beginning of a path is a path if it is followed by more of it. -/
theorem IsPath.of_append (h : IsPath (before ++ after)) : IsPath before := by
  cases before with
  | nil => exact Or.inl rfl
  | cons c before =>
      obtain h | ⟨segments, h⟩ := h
      · cases h
      · exact Or.inr ⟨before, by rw [(List.cons.inj h).1]⟩

/-- Two paths make a path. -/
theorem IsPath.append (h : IsPath before) (hafter : IsPath after) :
    IsPath (before ++ after) := by
  obtain rfl | ⟨segments, rfl⟩ := h
  · exact hafter
  · exact Or.inr ⟨segments ++ after, rfl⟩

/-- The directories that a path leads to if another segment follows it. -/
def directories : List Char → List String
  | [] => []
  | _ :: segments => ((segmentsFrom [] segments).foldl pass []).reverse

/-- The path of a plain text is read segment by segment, behind the slash it
begins with. -/
theorem readPath_of_isPlain (h : IsPlain path) :
    readPath path = resolve [] (segmentsFrom [] (path.drop 1)) := by
  have hwhole : (path.takeWhile fun c => c ≠ '?' ∧ c ≠ '#') = path := by
    rw [List.takeWhile_eq_self_iff]
    intro c hc
    simpa using (h c hc).2.2
  rw [readPath, hwhole]

/-- A slash makes directories of all segments before it. -/
theorem readPath_append_slash (hpath : IsPath path)
    (h : IsPlain (path ++ '/' :: after)) :
    readPath (path ++ '/' :: after)
      = resolve (directories path).reverse (segmentsFrom [] after) := by
  rw [readPath_of_isPlain h]
  obtain rfl | ⟨segments, rfl⟩ := hpath
  · rfl
  · rw [List.cons_append, List.drop_succ_cons, List.drop_zero,
      segmentsFrom_append, resolve_append _ _ (segmentsFrom_ne_nil _ _),
      directories, List.reverse_reverse]

/-- Slashes at the end are read as empty segments. -/
theorem readPath_slashes (hpath : IsPath path)
    (hplain : IsPlain path) (k : Nat) :
    readPath (path ++ List.replicate (k + 1) '/')
      = directories path ++ List.replicate (k + 1) "" := by
  have hslash : 0x20 < '/'.toNat ∧ '/' ≠ '\\' ∧ '/' ≠ '?' ∧ '/' ≠ '#' := by
    decide
  have hslashes : IsPlain (List.replicate (k + 1) '/') := by
    intro c hc
    rwa [List.eq_of_mem_replicate hc]
  rw [List.replicate_succ] at hslashes ⊢
  rw [readPath_append_slash hpath (isPlain_append.mpr ⟨hplain, hslashes⟩),
    segmentsFrom_slashes, resolve_slashes, List.reverse_reverse]

/-- A path that ends in no slash names one of its directories or something
in the last one. -/
theorem readPath_cases (hpath : IsPath path) (hplain : IsPlain path)
    (hlast : path.getLast? ≠ some '/') :
    readPath path = directories path ++ [""]
      ∨ readPath path = directories path
        ∧ ∃ front last, readPath path = front ++ [last] ∧ last ≠ "" := by
  rw [readPath_of_isPlain hplain]
  obtain rfl | ⟨segments, rfl⟩ := hpath
  · exact Or.inl rfl
  rcases List.eq_nil_or_concat segments with rfl | ⟨before, c, rfl⟩
  · exact absurd rfl hlast
  rw [List.concat_eq_append] at hplain hlast ⊢
  rw [← List.cons_append, List.getLast?_concat, ne_eq, Option.some.injEq]
    at hlast
  have hbackslash := (hplain c (by simp)).2.1
  obtain ⟨front, last, hsegments, hne⟩ :=
    segmentsFrom_concat [] before hlast hbackslash
  rw [List.drop_succ_cons, List.drop_zero, directories, hsegments,
    resolve_append _ _ (List.cons_ne_nil _ _), List.foldl_append,
    List.foldl_cons, List.foldl_nil]
  rcases resolve_singleton (front.foldl pass []) last with h | ⟨h, hpass⟩
  · exact Or.inl h
  · refine Or.inr
      ⟨by rw [h, hpass, List.reverse_cons], _, _, h, fun hempty => ?_⟩
    exact encode_ne_nil hne (String.ofList_eq_empty_iff.mp hempty)

/-- A segment that is written as it stands lies below the directories of a
path. -/
theorem readPath_below (hpath : IsPath path)
    (h : IsPlain (path ++ '/' :: segment))
    (hslash : segmentsFrom [] segment = [segment])
    (hencoded : Percent.encode Percent.inPath segment = segment)
    (hdots : isDots segment = false) (hdot : isDot segment = false) :
    readPath (path ++ '/' :: segment) = directories path ++
      [String.ofList segment] := by
  rw [readPath_append_slash hpath h, hslash]
  simp [resolve, hencoded, hdots, hdot]

-- ======================================================= trailing slashes

/-- Characters end in some slashes, maybe in none, behind something that
does not. -/
theorem exists_trailing (cs : List Char) :
    ∃ front k, cs = front ++ List.replicate k '/' ∧
      front.getLast? ≠ some '/' := by
  induction cs using List.reverseRecOn with
  | nil => exact ⟨[], 0, rfl, nofun⟩
  | append_singleton cs c ih =>
      by_cases hc : c = '/'
      · obtain ⟨front, k, rfl, hlast⟩ := ih
        exact ⟨front,
          k + 1, by rw [hc, List.append_assoc, List.replicate_succ'], hlast⟩
      · exact ⟨cs ++ [c], 0, (List.append_nil _).symm, by simpa using hc⟩

/-- Trimming takes the slashes off the end, and no more. -/
theorem dropWhile_trailing {front : List Char}
    (hlast : front.getLast? ≠ some '/') (k : Nat) :
    ((front ++ List.replicate k '/').reverse.dropWhile (· = '/')).reverse
      = front := by
  rw [List.reverse_append, List.reverse_replicate,
    List.dropWhile_append_of_pos fun c hc => by
    simp [List.eq_of_mem_replicate hc]]
  rcases List.eq_nil_or_concat front with rfl | ⟨front, c, rfl⟩
  · rfl
  · rw [List.concat_eq_append, List.getLast?_concat, ne_eq, Option.some.injEq]
      at hlast
    rw [List.concat_eq_append, List.reverse_concat,
      List.dropWhile_cons_of_neg (by simpa using hlast), List.reverse_cons,
      List.reverse_reverse]

/-- There are two of them at the end if there are at least two. -/
theorem slashes_suffix_iff {front : List Char}
    (hlast : front.getLast? ≠ some '/') {k : Nat} :
    ['/', '/'] <:+ front ++ List.replicate k '/' ↔ 2 ≤ k := by
  have hnone (rest : List Char) : ¬ '/' :: rest <+: front.reverse := by
    rintro ⟨more, hmore⟩
    rw [← List.head?_reverse, ← hmore] at hlast
    exact hlast rfl
  rw [← List.reverse_prefix, List.reverse_append, List.reverse_replicate]
  match k with
  | 0 => exact iff_of_false (hnone ['/']) (by omega)
  | 1 =>
      exact iff_of_false (fun h => hnone [] (List.cons_prefix_cons.mp h).2)
        (by omega)
  | k + 2 =>
      refine iff_of_true ?_ (by omega)
      exact ⟨List.replicate k '/' ++ front.reverse, rfl⟩

-- =============================================================== parsing

/-- What is read from the characters before a path, with the path. -/
def readAuthority (scheme : Scheme) (authority : List Char)
    (path : List String) :
    Except Fault Url := do
  let (userInfo, hostAndPort) :=
    match splitUser authority with
    | some (user, host) => (readUser user, host)
    | none => (("", ""), authority)
  let (host, port) := splitPort false hostAndPort
  let host ← readHost host
  let port ← readPort scheme (port.getD [])
  .ok ⟨scheme, userInfo.1, userInfo.2, host, port, path⟩

/-- Nothing that is read before a path depends on the path. -/
theorem readAuthority_eq_ok {scheme : Scheme} {authority : List Char}
    {path : List String} {u : Url}
    (h : readAuthority scheme authority path = .ok u) :
    u.scheme = scheme ∧ u.path = path
      ∧ ∀ other,
        readAuthority scheme authority other
          = .ok { u with path := other } := by
  unfold readAuthority at h ⊢
  dsimp only at h ⊢
  generalize (match splitUser authority with
    | some (user, host) => (readUser user, host)
    | none => (("", ""), authority)) = server at h ⊢
  cases hhost : readHost (splitPort false server.2).1 with
  | error fault =>
      rw [hhost] at h
      cases h
  | ok host =>
      cases hport : readPort scheme ((splitPort false server.2).2.getD []) with
      | error fault =>
          rw [hhost, hport] at h
          cases h
      | ok port =>
          rw [hhost, hport] at h
          cases h
          exact ⟨rfl, rfl, fun _ => rfl⟩

/-- The characters behind a scheme and its colon, taken apart: slashes, what
stands before the path, and the path. -/
structure HasParts (cs leading authority path : List Char) : Prop where
  eq : cs = leading ++ (authority ++ path)
  isSlash : ∀ c ∈ leading, c = '/'
  inAuthority : ∀ c ∈ authority, endsAuthority c = false
  isPath : IsPath path
  complete : authority = [] → path = []

/-- More slashes before the host. -/
theorem HasParts.slashes {leading authority : List Char}
    (h : HasParts cs leading authority path) :
    HasParts ("//".toList ++ cs) ("//".toList ++ leading) authority path where
  eq := by rw [h.eq, List.append_assoc]
  isSlash := by
    have hslashes : ∀ c ∈ "//".toList, c = '/' := by simp
    intro c hc
    rcases List.mem_append.mp hc with hc | hc
    · exact hslashes c hc
    · exact h.isSlash c hc
  inAuthority := h.inAuthority
  isPath := h.isPath
  complete := h.complete

/-- Another path behind the host. -/
theorem HasParts.withPath {leading authority other : List Char}
    (h : HasParts cs leading authority path) (hne : authority ≠ [])
    (hother : IsPath other) :
    HasParts (leading ++ (authority ++ other)) leading authority other where
  eq := rfl
  isSlash := h.isSlash
  inAuthority := h.inAuthority
  isPath := hother
  complete := fun hnil => absurd hnil hne

/-- The last character that is no slash belongs to the host or to the path. -/
theorem HasParts.getLast?_ne_slash {leading authority front other : List Char}
    (h : HasParts cs leading authority path) (hne : authority ≠ [])
    (hlast : other.getLast? ≠ some '/') :
    (front ++ (authority ++ other)).getLast? ≠ some '/' := by
  rw [List.getLast?_append, List.getLast?_append]
  cases hother : other.getLast? with
  | some c => simpa [hother] using hlast
  | none =>
      rw [List.getLast?_eq_some_getLast hne]
      have hmem := h.inAuthority _ (List.getLast_mem hne)
      intro hslash
      rw [Option.none_or, Option.some_or, Option.some.injEq] at hslash
      rw [hslash] at hmem
      cases hmem

/-- A plain text can be taken apart. -/
theorem exists_hasParts (h : IsPlain cs) :
    ∃ leading authority path, HasParts cs leading authority path := by
  have hcs : cs.takeWhile (· = '/') ++ cs.dropWhile (· = '/') = cs :=
    List.takeWhile_append_dropWhile
  have hrest : ∀ c ∈ cs.dropWhile (· = '/'), endsAuthority c = true →
      c = '/' := by
    intro c hc hends
    have hplain := h c ((List.dropWhile_suffix _).subset hc)
    simpa [endsAuthority, hplain] using hends
  have hhead := List.head?_dropWhile_not (· = '/') cs
  generalize cs.dropWhile (· = '/') = rest at hcs hrest hhead
  have hparts : rest.takeWhile (!endsAuthority ·) ++
      rest.dropWhile (!endsAuthority ·) = rest :=
    List.takeWhile_append_dropWhile
  have hpath : IsPath (rest.dropWhile (!endsAuthority ·)) := by
    have hslash := List.head?_dropWhile_not (!endsAuthority ·) rest
    cases hdrop : rest.dropWhile (!endsAuthority ·) with
    | nil => exact Or.inl rfl
    | cons c path =>
        have hmem : c ∈ rest := by
          refine (List.dropWhile_suffix (!endsAuthority ·)).subset ?_
          rw [hdrop]
          exact List.mem_cons_self
        rw [hdrop] at hslash
        exact Or.inr ⟨path, by rw [hrest c hmem (by simpa using hslash)]⟩
  refine ⟨cs.takeWhile (· = '/'), rest.takeWhile (!endsAuthority ·), _, ?_, ?_,
    ?_, hpath, ?_⟩
  · rw [hparts, hcs]
  · intro c hc
    simpa using List.mem_takeWhile_imp hc
  · intro c hc
    simpa using List.mem_takeWhile_imp hc
  · intro hnil
    rw [hnil, List.nil_append] at hparts
    obtain hpath | ⟨path, hpath⟩ := hpath
    · exact hpath
    · rw [← hparts, hpath] at hhead
      simp at hhead

/-- The parts are read one by one. -/
theorem parse_of_hasParts {scheme : Scheme} {rest : String}
    {leading authority path : List Char} (hplain : IsPlain rest.toList)
    (h : HasParts rest.toList leading authority path) :
    parse scheme rest = readAuthority scheme authority (readPath path) := by
  have hdrop : rest.toList.dropWhile (fun c => c = '/' ∨ c = '\\')
      = authority ++ path := by
    rw [h.eq, List.dropWhile_append_of_pos fun c hc => by simp [h.isSlash c hc]]
    cases hauthority : authority with
    | nil => rw [h.complete hauthority]; rfl
    | cons c authority =>
        have hc :=
          h.inAuthority c (by rw [hauthority]; exact List.mem_cons_self)
        rw [List.cons_append, List.dropWhile_cons_of_neg]
        intro hslash
        rcases of_decide_eq_true hslash with rfl | rfl <;> cases hc
  have htake : (authority ++ path).takeWhile (fun c => !endsAuthority c)
      = authority := by
    rw [List.takeWhile_append_of_pos fun c hc => by
        rw [h.inAuthority c hc]; rfl]
    obtain hpath | ⟨path, hpath⟩ := h.isPath
    · rw [hpath, List.takeWhile_nil, List.append_nil]
    · rw [hpath, List.takeWhile_cons_of_neg (by decide), List.append_nil]
  unfold parse
  dsimp only
  rw [cleaned_of_isPlain hplain, hdrop, htake, List.drop_left]
  rfl

/-- Behind two slashes the authority is read, and then the path. -/
theorem parse_slashes {scheme : Scheme} {rest : String}
    {leading authority path : List Char} (hplain : IsPlain rest.toList)
    (h : HasParts rest.toList leading authority path) :
    parse scheme ("//" ++ rest)
      = readAuthority scheme authority (readPath path) := by
  have hslashes : IsPlain "//".toList := by decide
  have hwhole := isPlain_append.mpr ⟨hslashes, hplain⟩
  have hparts := h.slashes
  rw [← String.toList_append] at hwhole hparts
  exact parse_of_hasParts hwhole hparts

/-- No URL is without a host. -/
theorem authority_ne_nil {scheme : Scheme} {authority : List Char}
    {path : List String} {u : Url}
    (h : readAuthority scheme authority path = .ok u) : authority ≠ [] := by
  rintro rfl
  cases h

end Restoration.Url
