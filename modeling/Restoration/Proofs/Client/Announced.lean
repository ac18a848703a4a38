/-
Where a client posts, and where a tunnel says that it is to post.

The tunnel takes the slashes off the end of its public URL and appends the
name of the route; the client puts the name in the place of the last segment
of the URL's path. Both URLs are the server's but for the path, and both paths
consist of directories and the name: for the tunnel these are the directories
of the path without its trailing slashes (`ofText_restoreUrl`), for the client
all segments of the path but the last. They are the same directories exactly
if the last segment is empty and one slash at most stands at the end
(`directories_eq_iff`).

All this is so for a scheme in small letters. A scheme that is spelled in
another way is not taken for a scheme, and the client's server is a host of the
scheme's name (`ofText_spelled`).
-/
import Restoration.Client
import Restoration.Proofs.Text.Decoding
import Restoration.Proofs.Url
import Restoration.Tunnel

namespace Restoration

namespace Url

variable {scheme : Scheme} {cs path : List Char}

-- ================================================================= paths

/-- The name of the route. -/
theorem readPath_restore (hpath : IsPath path) (h : IsPlain path) :
    readPath (path ++ "/restore".toList) = directories path ++ ["restore"] := by
  have hname : IsPlain ('/' :: "restore".toList) := by decide
  exact readPath_below hpath (isPlain_append.mpr ⟨h, hname⟩) (by decide)
    (by decide) (by decide) (by decide)

/-- The directories of a path without its trailing slashes are all segments
of the path but the last if and only if the last one is empty and there is
no more than one such slash. -/
theorem directories_eq_iff (hpath : IsPath path) (hplain : IsPlain path)
    (hlast : path.getLast? ≠ some '/') (k : Nat) :
    directories path = (readPath (path ++ List.replicate k '/')).dropLast
      ↔ (readPath (path ++ List.replicate k '/')).getLast? = some "" ∧
      k ≤ 1 := by
  cases k with
  | zero =>
      rw [List.replicate_zero, List.append_nil]
      rcases readPath_cases hpath hplain hlast with
        h | ⟨h, front, last, hread, hne⟩
      · simp [h]
      · refine iff_of_false ?_ (by simpa [hread] using hne)
        rw [← h, hread, List.dropLast_concat]
        simp
  | succ k =>
      rw [readPath_slashes hpath hplain, List.replicate_succ',
        ← List.append_assoc, List.dropLast_concat, List.getLast?_concat]
      simp

-- =============================================================== schemes

/-- Whatever is written for a scheme is written in letters. -/
theorem isLetter_of_spelled (h : cs.map Name.lowerAscii = scheme.name.toList) :
    ∀ c ∈ cs, 65 ≤ c.toNat ∧ c.toNat ≤ 90 ∨ 97 ≤ c.toNat ∧ c.toNat ≤ 122 := by
  intro c hc
  have hmem : Name.lowerAscii c ∈ scheme.name.toList := by
    rw [← h]
    exact List.mem_map_of_mem hc
  have hname : ∀ d ∈ scheme.name.toList, 97 ≤ d.toNat ∧ d.toNat ≤ 122 := by
    cases scheme <;> simp [Scheme.name]
  unfold Name.lowerAscii at hmem
  split at hmem
  case isTrue hupper =>
    rw [Bool.and_eq_true, decide_eq_true_eq, decide_eq_true_eq] at hupper
    exact Or.inl ⟨hupper.1, hupper.2⟩
  case isFalse => exact Or.inr (hname c hmem)

theorem isPlain_of_spelled (h : cs.map Name.lowerAscii = scheme.name.toList) :
    IsPlain cs := by
  intro c hc
  have hletter := isLetter_of_spelled h c hc
  have hne (other : Char)
      (hother : ¬ (65 ≤ other.toNat ∧ other.toNat ≤ 90 ∨ 97 ≤ other.toNat ∧
        other.toNat ≤ 122)) :
      c ≠ other := by
    rintro rfl
    exact hother hletter
  exact ⟨by omega, hne '\\' (by decide), hne '?' (by decide),
    hne '#' (by decide)⟩

theorem not_mem_of_spelled
    (h : cs.map Name.lowerAscii = scheme.name.toList) {c : Char}
    (hc : ¬ (65 ≤ c.toNat ∧ c.toNat ≤ 90 ∨ 97 ≤ c.toNat ∧ c.toNat ≤ 122)) :
    c ∉ cs :=
  fun hmem => hc (isLetter_of_spelled h c hmem)

-- ================================================================= hosts

theorem decode_of_not_mem {b : Bytes} (h : 0x25 ∉ b) :
    Percent.decode b = b := by
  induction b with
  | nil => rw [Percent.decode]
  | cons b rest ih =>
      rw [List.mem_cons, not_or] at h
      rw [Percent.decode, ih h.2]
      rintro - - - rfl
      exact absurd rfl h.1

/-- Only a percent sign is encoded with the byte of one. -/
theorem percent_not_mem_encode {s : String} (h : '%' ∉ s.toList) :
    0x25 ∉ Utf8.encode s := by
  rw [Utf8.encode_eq_flatMap]
  intro hmem
  obtain ⟨c, hc, hbyte⟩ := List.mem_flatMap.mp hmem
  rcases Utf8.toNat_of_mem_utf8EncodeChar hbyte with heq | hge
  · have hpercent : c = '%' := Char.toNat_inj.mp heq.symm
    exact h (hpercent ▸ hc)
  · exact absurd hge (by decide)

theorem mapM_prepareChar (h : ∀ c ∈ cs, Punycode.isAscii c = true) :
    cs.mapM Name.prepareChar = some (cs.map fun c => [Name.lowerAscii c]) := by
  induction cs with
  | nil => rfl
  | cons c cs ih =>
      obtain ⟨hc, hcs⟩ := List.forall_mem_cons.mp h
      rw [List.mapM_cons, Name.prepareChar, if_pos hc, ih hcs]
      rfl

theorem prepare_of_spelled (h : cs.map Name.lowerAscii = scheme.name.toList) :
    Name.prepare cs = some scheme.name.toList := by
  have hascii : ∀ c ∈ cs, Punycode.isAscii c = true := by
    intro c hc
    have hletter := isLetter_of_spelled h c hc
    rw [Punycode.isAscii, decide_eq_true_eq]
    omega
  have hflatten : (cs.map fun c => [Name.lowerAscii c]).flatten
      = scheme.name.toList := by
    rw [← List.flatMap_def, ← List.map_eq_flatMap, h]
  rw [Name.prepare, mapM_prepareChar hascii, Option.bind_eq_bind,
    Option.bind_some, hflatten]
  cases scheme <;> decide +kernel

/-- A scheme that is spelled in any way, read as the name of a host. -/
theorem readHost_of_spelled {host : Host}
    (h : cs.map Name.lowerAscii = scheme.name.toList)
    (hhost : readHost cs = .ok host) : host = .name scheme.name := by
  have hbytes : Percent.decode (Utf8.encode (String.ofList cs))
      = Utf8.encode (String.ofList cs) := by
    refine decode_of_not_mem (percent_not_mem_encode ?_)
    rw [String.toList_ofList]
    exact not_mem_of_spelled h (by decide)
  have hlabels : (do (Name.labelsFrom [] (← Name.prepare cs)).mapM Name.labelOf)
      = some [⟨scheme.name.toList, scheme.name.toList⟩] := by
    rw [prepare_of_spelled h]
    cases scheme <;> decide +kernel
  have hascii : ∀ name, Name.toAscii cs = .ok name →
      name = scheme.name.toList := by
    intro name hname
    rw [Name.toAscii, hlabels] at hname
    dsimp only at hname
    split at hname
    · cases hname
    · cases hname
      exact List.intercalate_singleton
  unfold readHost at hhost
  split at hhost
  · cases hhost
  · exact absurd List.mem_cons_self (not_mem_of_spelled h (by decide))
  rw [hbytes, Utf8.decode?, Utf8.decode_encode] at hhost
  dsimp only [Except.toOption] at hhost
  rw [String.toList_ofList] at hhost
  have hnumeric : Address.looksNumeric scheme.name.toList = false := by
    cases scheme <;> decide +kernel
  cases hname : Name.toAscii cs with
  | error fault =>
      rw [hname] at hhost
      cases hhost
  | ok name =>
      rw [hname, hascii name hname] at hhost
      split at hhost
      · cases hhost
      · cases hhost
      · next heq =>
        cases heq
        rw [hnumeric, if_neg Bool.false_ne_true, String.ofList_toList] at hhost
        exact (Except.ok.inj hhost).symm

theorem splitUser_of_not_mem (h : '@' ∉ cs) : splitUser cs = none := by
  have hnone : cs.reverse.dropWhile (· ≠ '@') = [] := by
    rw [List.dropWhile_eq_nil_iff]
    intro c hc
    simpa using ne_of_mem_of_not_mem (List.mem_reverse.mp hc) h
  rw [splitUser, hnone]

/-- A colon at the end, without a port. -/
theorem splitPort_concat (hcolon : ':' ∉ cs) (hopen : '[' ∉ cs)
    (hclose : ']' ∉ cs) :
    splitPort false (cs ++ [':']) = (cs, some []) := by
  induction cs with
  | nil => rfl
  | cons c cs ih =>
      rw [List.mem_cons, not_or] at hcolon hopen hclose
      rw [List.cons_append, splitPort, if_neg fun h => hcolon.1 h.1.symm,
        if_neg (Ne.symm hopen.1)]
      simp only [if_neg (Ne.symm hclose.1), ih hcolon.2 hopen.2 hclose.2]

end Url

namespace Client

variable {scheme : Url.Scheme} {spelled rest : String} {c : Client}

-- =============================================================== servers

theorem splitScheme_name (scheme : Url.Scheme) (rest : String) :
    splitScheme (scheme.name ++ "://" ++ rest) = (scheme, rest) := by
  cases scheme <;> simp [splitScheme, Url.Scheme.name]

/-- No other spelling is taken for a scheme. -/
theorem splitScheme_spelled
    (h : spelled.toList.map Url.Name.lowerAscii = scheme.name.toList)
    (hne : spelled ≠ scheme.name) :
    splitScheme (spelled ++ "://" ++ rest)
      = (.http, spelled ++ "://" ++ rest) := by
  have hnot (other : Url.Scheme) :
      ¬ (other.name ++ "://").toList <+: (spelled ++ "://" ++ rest).toList := by
    rintro ⟨more, hmore⟩
    have hcolon (s : Url.Scheme) : ':' ∉ s.name.toList := by cases s <;> decide
    have hspelled := Url.not_mem_of_spelled h (c := ':') (by decide)
    have hfirst {start : List Char} (hstart : ':' ∉ start) (more : List Char) :
        (start ++ (':' :: more)).takeWhile (· ≠ ':') = start := by
      rw [List.takeWhile_append_of_pos, List.takeWhile_cons_of_neg (by decide),
        List.append_nil]
      intro c hc
      simpa using ne_of_mem_of_not_mem hc hstart
    have hother : other.name.toList = spelled.toList := by
      rw [String.toList_append, String.toList_append, String.toList_append,
        List.append_assoc, List.append_assoc] at hmore
      rw [← hfirst (hcolon other) ("//".toList ++ more),
        ← hfirst hspelled ("//".toList ++ rest.toList)]
      exact congrArg (List.takeWhile (· ≠ ':')) hmore
    have hlower : other.name.toList.map Url.Name.lowerAscii
        = other.name.toList := by
      cases other <;> decide
    rw [← hother, hlower] at h
    exact hne (String.toList_inj.mp (hother.symm.trans h))
  have hhttps : "https://".toList.isPrefixOf (spelled ++ "://" ++ rest).toList
      = false := by
    rw [← Bool.not_eq_true, List.isPrefixOf_iff_prefix]
    exact hnot .https
  have hhttp : "http://".toList.isPrefixOf (spelled ++ "://" ++ rest).toList
      = false := by
    rw [← Bool.not_eq_true, List.isPrefixOf_iff_prefix]
    exact hnot .http
  rw [splitScheme, hhttps, if_neg Bool.false_ne_true, hhttp,
    if_neg Bool.false_ne_true]

theorem ofText_eq_ok {text : String} :
    ofText text = .ok c
      ↔ Url.parse (splitScheme text).1 ("//" ++ (splitScheme text).2)
        = .ok c.server := by
  unfold ofText
  obtain ⟨server⟩ := c
  dsimp only
  cases Url.parse (splitScheme text).1 ("//" ++ (splitScheme text).2) <;> simp

/-- What stands before the path is then the scheme, with its colon. -/
theorem hasParts_spelled
    (h : spelled.toList.map Url.Name.lowerAscii = scheme.name.toList)
    (rest : String) :
    Url.HasParts ("//" ++ (spelled ++ "://" ++ rest)).toList "//".toList
      (spelled.toList ++ [':']) ("//".toList ++ rest.toList) where
  eq := by simp
  isSlash := by simp
  inAuthority c hc := by
    rcases List.mem_append.mp hc with hc | hc
    · have hslash :=
        ne_of_mem_of_not_mem hc
          (Url.not_mem_of_spelled h (c := '/') (by decide))
      simp [Url.endsAuthority, hslash, Url.isPlain_of_spelled h c hc]
    · rw [List.mem_singleton.mp hc]
      decide
  isPath := Or.inr ⟨_, rfl⟩
  complete := by simp

/-- A scheme in any but small letters names the server itself. -/
theorem ofText_spelled
    (h : spelled.toList.map Url.Name.lowerAscii = scheme.name.toList)
    (hne : spelled ≠ scheme.name) (hplain : Url.IsPlain rest.toList)
    (hclient : ofText (spelled ++ "://" ++ rest) = .ok c) :
    c.server.scheme = .http ∧ c.server.host = .name scheme.name ∧
    c.server.port = none := by
  rw [ofText_eq_ok, splitScheme_spelled h hne] at hclient
  have hslashes : Url.IsPlain "//".toList := by decide
  have hmark : Url.IsPlain "://".toList := by decide
  have hwhole : Url.IsPlain ("//" ++ (spelled ++ "://" ++ rest)).toList := by
    simp only [String.toList_append, Url.isPlain_append]
    exact ⟨hslashes, ⟨Url.isPlain_of_spelled h, hmark⟩, hplain⟩
  have hnot (c : Char)
      (hc : ¬ (65 ≤ c.toNat ∧ c.toNat ≤ 90 ∨ 97 ≤ c.toNat ∧ c.toNat ≤ 122) := by
        decide) :
      c ∉ spelled.toList := Url.not_mem_of_spelled h hc
  have huser : Url.splitUser (spelled.toList ++ [':']) = none := by
    refine Url.splitUser_of_not_mem ?_
    simpa using hnot '@'
  rw [Url.parse_of_hasParts hwhole (hasParts_spelled h rest), Url.readAuthority,
    huser] at hclient
  dsimp only at hclient
  rw [Url.splitPort_concat (hnot ':') (hnot '[') (hnot ']')] at hclient
  cases hhost : Url.readHost spelled.toList with
  | error fault =>
      simp only [hhost] at hclient
      cases hclient
  | ok host =>
      obtain ⟨server⟩ := c
      simp only [hhost] at hclient
      cases hclient
      exact ⟨rfl, Url.readHost_of_spelled h hhost, rfl⟩

-- ============================================================= announced

/-- What a tunnel announces is its public URL without the slashes at the
end, and the name of the route behind that. -/
theorem restoreUrl_trailing (before : String) (domain : Option String)
    {leading authority path : List Char} {k : Nat}
    (hrest : rest.toList = leading ++
      (authority ++ (path ++ List.replicate k '/')))
    (hend : (before.toList ++ leading ++ (authority ++ path)).getLast?
      ≠ some '/') :
    Tunnel.restoreUrl ⟨before ++ rest, domain⟩
      = before ++ String.ofList
        (leading ++ (authority ++ (path ++ "/restore".toList))) := by
  have htext : (before ++ rest).toList
      = before.toList ++ leading ++ (authority ++ path) ++
        List.replicate k '/' := by
    rw [String.toList_append, hrest]
    simp only [List.append_assoc]
  rw [Tunnel.restoreUrl, htext, Url.dropWhile_trailing hend]
  simp only [String.ofList_append, String.ofList_toList, List.append_assoc,
    String.append_assoc]

/-- What a tunnel announces for the URL of a server, read as a URL: the same
server, and below it the directories of the path without its trailing
slashes. -/
theorem ofText_restoreUrl (domain : Option String)
    (hplain : Url.IsPlain rest.toList)
    (hclient : ofText (scheme.name ++ "://" ++ rest) = .ok c) :
    ∃ path k announced, Url.IsPath path ∧ Url.IsPlain path ∧
      path.getLast? ≠ some '/' ∧ c.server.scheme = scheme
      ∧ c.server.path = Url.readPath (path ++ List.replicate k '/')
      ∧ (['/', '/'] <:+ rest.toList ↔ 2 ≤ k)
      ∧ ofText (Tunnel.restoreUrl ⟨scheme.name ++ "://" ++ rest, domain⟩)
        = .ok announced
      ∧ announced.server
        = { c.server with path := Url.directories path ++ ["restore"] } := by
  rw [ofText_eq_ok, splitScheme_name] at hclient
  obtain ⟨leading, authority, whole, hparts⟩ := Url.exists_hasParts hplain
  obtain ⟨path, k, rfl, hlast⟩ := Url.exists_trailing whole
  have hname : Url.IsPlain "/restore".toList := by decide
  have hserver : Url.IsPlain leading ∧ Url.IsPlain authority ∧
      Url.IsPlain path := by
    rw [hparts.eq] at hplain
    simp only [Url.isPlain_append] at hplain
    exact ⟨hplain.1, hplain.2.1, hplain.2.2.1⟩
  rw [Url.parse_slashes hplain hparts] at hclient
  have hauthority := Url.authority_ne_nil hclient
  obtain ⟨hscheme, hpath, hother⟩ := Url.readAuthority_eq_ok hclient
  have hispath : Url.IsPath path := hparts.isPath.of_append
  have hend (front : List Char) :
      (front ++ (authority ++ path)).getLast? ≠ some '/' :=
    hparts.getLast?_ne_slash hauthority hlast
  have hannounced :=
    restoreUrl_trailing (scheme.name ++ "://") domain hparts.eq (hend _)
  refine ⟨path, k,
    ⟨{ c.server with path := Url.directories path ++ ["restore"] }⟩, hispath,
    hserver.2.2, hlast, hscheme, hpath, ?_, ?_, rfl⟩
  · rw [hparts.eq, ← List.append_assoc authority, ← List.append_assoc leading]
    exact Url.slashes_suffix_iff (hend leading)
  · rw [hannounced, ofText_eq_ok, splitScheme_name]
    dsimp only
    have hbelow : Url.IsPath (path ++ "/restore".toList) :=
      hispath.append (Or.inr ⟨_, rfl⟩)
    have hparts' := hparts.withPath hauthority hbelow
    have hplain' : Url.IsPlain
        (leading ++ (authority ++ (path ++ "/restore".toList))) := by
      simp only [Url.isPlain_append]
      exact ⟨hserver.1, hserver.2.1, hserver.2.2, hname⟩
    rw [← String.toList_ofList
        (l := leading ++ (authority ++ (path ++ "/restore".toList)))]
      at hparts' hplain'
    rw [Url.parse_slashes hplain' hparts', hother,
      Url.readPath_restore hispath hserver.2.2]

/-- Where a client posts, and what a tunnel announces, for one public URL.
With the scheme in small letters both URLs are the server's but for the
path, and they are the same if and only if the last segment of the server's
path is empty and no two slashes stand at the end. With the scheme in other
letters, the client posts to a host of the scheme's name. -/
theorem restoreUrl_eq_announced_iff (scheme : Url.Scheme)
    (spelled rest : String) (domain : Option String) (c : Client)
    (hspelled : spelled.toList.map Url.Name.lowerAscii = scheme.name.toList)
    (hplain : Url.IsPlain rest.toList)
    (hclient : ofText (spelled ++ "://" ++ rest) = .ok c) :
    (spelled = scheme.name →
        c.server.scheme = scheme
          ∧ c.restoreUrl
            = { c.server with path := c.server.path.dropLast ++ ["restore"] }
          ∧ ∃ announced,
              ofText (Tunnel.restoreUrl ⟨spelled ++ "://" ++ rest, domain⟩)
                = .ok announced
                ∧ announced.server
                  = { c.server with path := announced.server.path }
                ∧ (c.restoreUrl = announced.server
                  ↔ c.server.path.getLast? = some "" ∧
                  ¬ ['/', '/'] <:+ rest.toList))
      ∧ (spelled ≠ scheme.name →
          c.restoreUrl.scheme = .http ∧ c.restoreUrl.host = .name scheme.name
            ∧ c.restoreUrl.port = none) := by
  have hother (hne : spelled ≠ scheme.name) :=
    ofText_spelled hspelled hne hplain hclient
  refine ⟨?_, hother⟩
  rintro rfl
  obtain ⟨path, k, announced, hpath, hisplain, hlast, hscheme, hserver,
    hslashes, hannounced, heq⟩ := ofText_restoreUrl domain hplain hclient
  refine ⟨hscheme, rfl, announced, hannounced, by rw [heq], ?_⟩
  have hdirectories := Url.directories_eq_iff hpath hisplain hlast k
  rw [← hserver] at hdirectories
  have hsame : c.restoreUrl = announced.server
      ↔ Url.directories path = c.server.path.dropLast := by
    rw [heq, restoreUrl, Url.sibling]
    simp [eq_comm]
  rw [hsame, hdirectories, hslashes, not_le, Nat.lt_succ_iff]

/-- The server of a URL without a name to look up, at some path. -/
def localServer (path : List String) : Client :=
  ⟨⟨.http, "", "", .eight [0, 0, 0, 0, 0, 0, 0, 1], some 8000, path⟩⟩

/-- A URL that ends in a slash. -/
theorem restoreUrl_eq_announced_iff_slash :
    ofText ("http" ++ "://" ++ "[::1]:8000/texts/")
      = .ok (localServer ["texts", ""]) ∧ ∃ announced,
        ofText
            (Tunnel.restoreUrl ⟨"http" ++ "://" ++ "[::1]:8000/texts/", none⟩)
          = .ok announced
        ∧ (localServer ["texts", ""]).restoreUrl = announced.server := by
  have hclient : ofText ("http" ++ "://" ++ "[::1]:8000/texts/")
      = .ok (localServer ["texts", ""]) := by
    with_unfolding_all rfl
  have hplain : Url.IsPlain "[::1]:8000/texts/".toList := by decide
  obtain ⟨-, -, announced, hannounced, -, hsame⟩ :=
    (restoreUrl_eq_announced_iff .http "http" "[::1]:8000/texts/" none _
      (by decide) hplain hclient).1 rfl
  exact ⟨hclient, announced, hannounced, hsame.mpr ⟨rfl, by decide⟩⟩

/-- A URL whose path ends in a name. -/
theorem restoreUrl_ne_announced :
    ofText "http://[::1]:8000/base" = .ok (localServer ["base"])
      ∧ (localServer ["base"]).restoreUrl.write = "http://[::1]:8000/restore"
      ∧ Tunnel.restoreUrl ⟨"http://[::1]:8000/base", none⟩
        = "http://[::1]:8000/base/restore"
      ∧ ofText "http://[::1]:8000/base/restore"
        = .ok (localServer ["base", "restore"])
      ∧ (localServer ["base"]).restoreUrl
        ≠ (localServer ["base", "restore"]).server := by
  refine ⟨?_, ?_, ?_, ?_, ?_⟩
  · with_unfolding_all rfl
  · with_unfolding_all rfl
  · with_unfolding_all rfl
  · with_unfolding_all rfl
  · decide

end Client

end Restoration
