/-
The host and the port of an address.

The last colon of a text stands before its port, whatever is before it
(`parse_colon`), and a text without a colon has none (`parse_of_not_mem`).
What is written for a port is read as that port and holds no colon, so an
address is read as the host and the port that it was written for.

A host that is given without a port is read as it is, unless it holds a
colon itself. Among the hosts that can be given (`IsLiteral`) these are the
addresses of eight groups in square brackets, and all of them are cut short.
-/
import Mathlib.Data.List.TakeWhile
import Restoration.Proofs.Text.Integer
import Restoration.Settings.Host
import Restoration.Url.Address

namespace Restoration

-- =============================================================== writing

/-- What is written for a port. -/
theorem toList_toString_port (port : UInt16) :
    (toString port).toList = Nat.toDigits 10 port.toNat := by
  rw [show toString port = toString port.toNat from rfl, Nat.toString_eq_repr,
    Nat.toList_repr]

theorem colon_not_mem_port (port : UInt16) : ':' ∉ (toString port).toList := by
  rw [toList_toString_port]
  intro hmem
  have hdigit :=
    Nat.isDigit_of_mem_toDigits (b := 10) (by decide) (by decide) hmem
  revert hdigit
  decide

namespace Host

-- =============================================================== reading

theorem readPort_toString (port : UInt16) :
    readPort (toString port) = some port := by
  have hread : Text.readNatural 65535 (toString port) = .ok port.toNat :=
    Text.readNatural_toString (Nat.le_of_lt_succ port.toNat_lt)
  rw [readPort, hread]
  exact congrArg some (UInt16.ofNat_toNat)

/-- What holds anything else than digits, a plus sign apart, is no port. -/
theorem readPort_eq_none {s : String} {c : Char} (hc : c ∈ s.toList)
    (hdigit : Binary.isDigit c = false)
    (hplus : c ≠ '+') : readPort s = none := by
  rw [readPort]
  split
  case h_1 n hread =>
    rcases Text.isDigit_of_readNatural hread hc with h | h
    · rw [hdigit] at h
      cases h
    · exact absurd h hplus
  case h_2 => rfl

theorem parse_of_not_mem {value : String} (h : ':' ∉ value.toList) :
    parse value = ⟨value, defaultPort⟩ := by
  have hnone : value.toList.reverse.dropWhile (· ≠ ':') = [] := by
    rw [List.dropWhile_eq_nil_iff]
    intro c hc
    exact decide_eq_true fun heq => h (heq ▸ List.mem_reverse.mp hc)
  rw [parse, hnone]

/-- The last colon stands before the port. -/
theorem parse_colon (name : String) {port : String} (h : ':' ∉ port.toList) :
    parse (name ++ ":" ++ port) = ⟨name, (readPort port).getD defaultPort⟩ := by
  have hpass : ∀ c ∈ port.toList.reverse, decide (c ≠ ':') = true := fun c hc =>
    decide_eq_true fun heq => h (heq ▸ List.mem_reverse.mp hc)
  have hbackwards : (name ++ ":" ++ port).toList.reverse =
      port.toList.reverse ++ ':' :: name.toList.reverse := by
    simp
  rw [parse, hbackwards, List.dropWhile_append_of_pos hpass,
    List.takeWhile_append_of_pos hpass]
  simp

/-- So an address with a port is read as its two parts. -/
theorem parse_withPort (name : String) (port : UInt16) :
    parse (name ++ ":" ++ toString port) = ⟨name, port⟩ := by
  rw [parse_colon name (colon_not_mem_port port), readPort_toString,
    Option.getD_some]

/-- Reading an address gives back the host that it was written for, whatever
its name, and once a host has been read, writing and reading it again makes
no difference. -/
theorem parse_address :
    (∀ host : Host, parse host.address = host) ∧
      ∀ value : String, parse (parse value).address = parse value := by
  have hback : ∀ host : Host, parse host.address = host := fun host =>
    parse_withPort host.name host.port
  exact ⟨hback, fun value => hback (parse value)⟩

-- ============================================================== literals

/-- The characters of names: letters, digits, hyphens, underscores, points
between labels, and in other scripts whatever lies beyond ASCII. -/
def IsNameChar (c : Char) : Prop :=
  c.isAlphanum = true ∨ c ∈ ['-', '_', '.'] ∨ 128 ≤ c.toNat

/-- What a host can be: a name, four numbers with points between them, or
what is read as eight groups in square brackets. Every name of a host is one
here, and so are some texts that name none. -/
inductive IsLiteral : String → Prop
  | name {host : String} (h : ∀ c ∈ host.toList, IsNameChar c) : IsLiteral host
  | four (address : UInt32) : IsLiteral (Url.Address.writeFour address)
  | eight {inside : String} {groups : List Nat}
      (h : Url.Address.readEight inside.toList = some groups) :
      IsLiteral ("[" ++ inside ++ "]")

/-- Whether a text stands in square brackets. -/
def IsBracketed (host : String) : Prop := ∃ inside, host = "[" ++ inside ++ "]"

theorem isNameChar_of_mem_toDigits {n : Nat} {c : Char}
    (h : c ∈ Nat.toDigits 10 n) :
    IsNameChar c := by
  have hdigit := Nat.isDigit_of_mem_toDigits (b := 10) (by decide) (by decide) h
  exact .inl (by rw [Char.isAlphanum, hdigit, Bool.or_true])

theorem isNameChar_of_mem_writeFour {address : UInt32} {c : Char}
    (h : c ∈ (Url.Address.writeFour address).toList) : IsNameChar c := by
  have hnumber {n : Nat} (hc : c ∈ (toString n).toList) : IsNameChar c := by
    rw [Nat.toString_eq_repr, Nat.toList_repr] at hc
    exact isNameChar_of_mem_toDigits hc
  have hpoint (hc : c ∈ (toString ".").toList) : IsNameChar c := by
    obtain rfl : c = '.' := List.mem_singleton.mp hc
    exact .inr (.inl (by decide))
  rw [Url.Address.writeFour] at h
  simp only [String.toList_append, List.mem_append] at h
  obtain (((((h | h) | h) | h) | h) | h) | h := h
  exacts
    [hnumber h, hpoint h, hnumber h, hpoint h, hnumber h, hpoint h, hnumber h]

/-- Without a colon two groups are read at most. -/
theorem readGroups_of_not_mem {cs : List Char} {g : Url.Address.Groups}
    (hnot : ':' ∉ cs) (h : Url.Address.readGroups ⟨[], none⟩ cs = some g) :
    g.after = none ∧ g.before.length ≤ 2 := by
  rw [Url.Address.readGroups] at h
  split at h
  case isTrue =>
    cases h
    exact ⟨rfl, Nat.zero_le 2⟩
  case isFalse =>
  rw [if_neg (by decide)] at h
  dsimp only at h
  split at h
  case h_1 =>
    cases h
    exact ⟨rfl, Nat.le_succ 1⟩
  case h_2 =>
    split at h
    case isTrue => cases h
    case isFalse =>
      rw [Url.Address.readDotted] at h
      split at h
      case h_1 =>
        cases h
        exact ⟨rfl, Nat.le_refl 2⟩
      case h_2 => cases h
  case h_3 rest hdrop =>
    exact absurd (List.mem_of_mem_drop (hdrop ▸ List.mem_cons_self)) hnot
  case h_4 => cases h

/-- Eight groups are not had without a colon. -/
theorem colon_mem_of_readEight {cs : List Char} {groups : List Nat}
    (h : Url.Address.readEight cs = some groups) : ':' ∈ cs := by
  by_contra hnot
  unfold Url.Address.readEight at h
  split at h
  case h_1 => exact hnot List.mem_cons_self
  case h_2 => cases h
  case h_3 =>
    split at h
    case isTrue => cases h
    case isFalse =>
    obtain ⟨g, hread, hall⟩ := Option.bind_eq_some_iff.mp h
    obtain ⟨hafter, hlength⟩ := readGroups_of_not_mem hnot hread
    rw [Url.Address.Groups.all, hafter] at hall
    dsimp only at hall
    rw [if_neg (by omega)] at hall
    cases hall

theorem IsLiteral.not_bracketed {host : String}
    (h : ∀ c ∈ host.toList, IsNameChar c) :
    ¬ IsBracketed host := by
  rintro ⟨inside, rfl⟩
  have hbracket : IsNameChar '[' := h '[' (by simp)
  revert hbracket
  unfold IsNameChar
  decide

theorem IsNameChar.ne_colon {c : Char} (h : IsNameChar c) : c ≠ ':' := by
  rintro rfl
  revert h
  unfold IsNameChar
  decide

/-- A text with a colon, cut at the last one. -/
theorem exists_last_colon {s : String} (h : ':' ∈ s.toList) :
    ∃ start rest, s = start ++ ":" ++ rest ∧ ':' ∉ rest.toList := by
  obtain ⟨rest, start, hcut, hrest⟩ :=
    List.eq_append_cons_of_mem (List.mem_reverse.mpr h)
  refine ⟨String.ofList start.reverse, String.ofList rest.reverse,
    ?_, by simpa using hrest⟩
  apply String.toList_inj.mp
  rw [← List.reverse_reverse s.toList, hcut]
  simp

/-- A literal without a colon is a name or four numbers; one with a colon
stands in brackets, and behind its last colon there is no port. -/
theorem IsLiteral.colon_cases {host : String} (h : IsLiteral host) :
    (':' ∉ host.toList ∧ ¬ IsBracketed host) ∨
      IsBracketed host ∧ ∃ start rest, host = start ++ ":" ++ rest ∧
        ':' ∉ rest.toList ∧ readPort rest = none := by
  have plain {host : String} (h : ∀ c ∈ host.toList, IsNameChar c) :
      ':' ∉ host.toList ∧ ¬ IsBracketed host :=
    ⟨fun hmem => (h ':' hmem).ne_colon rfl, IsLiteral.not_bracketed h⟩
  cases h with
  | name h => exact .inl (plain h)
  | four address =>
      exact .inl (plain fun c hc => isNameChar_of_mem_writeFour hc)
  | @eight inside groups h =>
    obtain ⟨start, rest, rfl, hrest⟩ :=
      exists_last_colon (colon_mem_of_readEight h)
    have hend : (rest ++ "]").toList = rest.toList ++ [']'] :=
      String.toList_append
    refine .inr ⟨⟨_, rfl⟩, "[" ++ start,
      rest ++ "]", by simp only [String.append_assoc], ?_, ?_⟩
    · rw [hend]
      simpa using hrest
    · exact readPort_eq_none (c := ']') (by simp [hend]) (by decide) (by decide)

/-- With a port behind it every literal is read as it is, and so is its
address written. Without one it is so exactly for names and four numbers:
of what stands in brackets the part before the last colon is taken for the
host. -/
theorem parse_literal {host : String} (h : IsLiteral host) (port : UInt16) :
    (parse (host ++ ":" ++ toString port) = ⟨host, port⟩ ∧
      (parse (host ++ ":" ++ toString port)).address = host ++ ":" ++
        toString port) ∧
    (parse host = ⟨host, defaultPort⟩ ↔ ¬ IsBracketed host) ∧
    ((parse host).address = host ++ ":8000" ↔ ¬ IsBracketed host) ∧
    (IsBracketed host → ∃ start rest, host = start ++ ":" ++ rest ∧
      ':' ∉ rest.toList ∧ parse host = ⟨start, defaultPort⟩) := by
  have haddress (name : String) : (Host.mk name defaultPort).address = name ++
      ":8000" := by
    have hdefault : ":" ++ toString defaultPort = ":8000" := by decide
    rw [← hdefault, ← String.append_assoc]
    rfl
  have hport := parse_withPort host port
  refine ⟨⟨hport, by rw [hport]; rfl⟩, ?_⟩
  rcases h.colon_cases with ⟨hcolon, hplain⟩ |
    ⟨hbracketed, start, rest, hcut, hrest, hnone⟩
  · rw [parse_of_not_mem hcolon, haddress]
    exact ⟨iff_of_true rfl hplain, iff_of_true rfl hplain,
      fun h => absurd h hplain⟩
  · have hparse : parse host = ⟨start, defaultPort⟩ := by
      rw [hcut, parse_colon start hrest, hnone]
      rfl
    have hshorter : start ≠ host := by
      intro heq
      rw [heq] at hcut
      have hlength := congrArg String.length hcut
      have hcolon : ":".length = 1 := by decide
      rw [String.length_append, String.length_append, hcolon] at hlength
      omega
    rw [hparse, haddress]
    refine ⟨iff_of_false ?_ (not_not_intro hbracketed),
      iff_of_false ?_ (not_not_intro hbracketed),
      fun _ => ⟨start, rest, hcut, hrest, rfl⟩⟩
    · exact fun heq => hshorter (congrArg Host.name heq)
    · exact fun heq => hshorter (String.append_left_inj _ |>.mp heq)

/-- The address of this machine among those of eight groups. -/
theorem isLiteral_loopback : IsLiteral "[::1]" :=
  @IsLiteral.eight "::1" [0, 0, 0, 0, 0, 0, 0, 1] (by cbv)

/-- It is read as it is with a port behind it, and cut short without one. -/
theorem parse_literal_loopback :
    IsLiteral "[::1]" ∧ parse "[::1]:9000" = ⟨"[::1]", 9000⟩ ∧
      (parse "[::1]").address ≠ "[::1]:8000" := by
  have hbracketed : IsBracketed "[::1]" := ⟨"::1", rfl⟩
  obtain ⟨⟨hport, -⟩, -, haddress, -⟩ := parse_literal isLiteral_loopback 9000
  exact ⟨isLiteral_loopback, hport, fun h => haddress.mp h hbracketed⟩

/-- What is left of it is no host, and the port is the default one. -/
theorem parse_loopback_alone :
    IsLiteral "[::1]" ∧ parse "[::1]" = ⟨"[:", defaultPort⟩ ∧
      parse "[::1]" ≠ ⟨"[::1]", defaultPort⟩ := by
  refine ⟨isLiteral_loopback, ?_, ?_⟩ <;> decide

end Host

end Restoration
