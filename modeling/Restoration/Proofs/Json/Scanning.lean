/-
A string is read back from the way it is written. What a scan holds is the
text up to the last escape and the bytes since; written characters take it
on by one character each, whether they are escaped or stand for themselves.
-/
import Restoration.Json.Reader
import Restoration.Proofs.Json.Writing
import Restoration.Proofs.Text.Decoding

namespace Restoration.Json

namespace Scan

-- ================================================================ scans

/-- Bytes that a string takes up, none of which closes it. -/
inductive Takes : Scan → Bytes → Scan → Prop
  | nil (s : Scan) : Takes s [] s
  | cons {s t u : Scan} {b : UInt8} {bytes : Bytes} (hopen : s.closes b = false)
      (hstep : s.step b = .ok t) (h : Takes t bytes u) : Takes s (b :: bytes) u

theorem Takes.append {s t u : Scan} {before after : Bytes}
    (h : Takes s before t) (h' : Takes t after u) :
    Takes s (before ++ after) u := by
  induction h with
  | nil => exact h'
  | cons hopen hstep _ ih => exact .cons hopen hstep (ih h')

/-- A scan between escapes that has gathered a text. -/
structure Holds (s : Scan) (text : String) : Prop where
  phase : s.phase = .plain
  run : ∃ last, s.run.reverse = Utf8.encode last ∧ s.text ++ last = text

theorem holds_settled (text : String) : Holds ⟨text, [], .plain⟩ text :=
  ⟨rfl, "", by rw [Utf8.encode_eq_flatMap]; rfl, String.append_empty⟩

/-- The bytes since the last escape are settled. -/
theorem Holds.settle {s : Scan} {text : String} (h : s.Holds text) :
    s.settle = .ok ⟨text, [], .plain⟩ := by
  obtain ⟨last, hrun, htext⟩ := h.run
  rw [Scan.settle, hrun, Utf8.decode_encode, ← h.phase, ← htext]

/-- The text of a string that has been closed. -/
theorem Holds.finish {s : Scan} {text : String} (h : s.Holds text) :
    s.finish = .ok text := by
  rw [Scan.finish, h.settle]
  rfl

/-- A backslash settles what stands before it. -/
theorem Holds.backslash {s : Scan} {text : String} (h : s.Holds text)
    {bytes : Bytes} {t : Scan} (htakes : Takes ⟨text, [], .escaped⟩ bytes t) :
    Takes s (0x5C :: bytes) t := by
  refine .cons ?_ ?_ htakes
  · rw [closes, h.phase]
    rfl
  · rw [step, h.phase]
    dsimp only
    rw [if_pos rfl, h.settle]
    rfl

/-- A letter behind a backslash. -/
theorem Holds.letter {s : Scan} {text : String} (h : s.Holds text) {b : UInt8}
    {point : Nat} (hb : b ≠ 0x75) (hletter : letter? b = some point) :
    ∃ t, Takes s [0x5C, b] t ∧ t.Holds (text.push (Char.ofNat point)) := by
  refine ⟨⟨text.push (Char.ofNat point), [], .plain⟩,
    h.backslash (.cons rfl ?_ (.nil _)), holds_settled _⟩
  rw [step]
  dsimp only
  rw [if_neg hb, hletter]
  rfl

/-- Four hexadecimal digits, of which the first two are zero. -/
theorem Holds.unicode {s : Scan} {text : String} (h : s.Holds text)
    {high low : UInt8} {m n : Nat} (hhigh : hexValue? high = some m)
    (hlow : hexValue? low = some n) (hm : m < 16) (hn : n < 16) :
    ∃ t, Takes s [0x5C, 0x75, 0x30, 0x30, high, low] t
      ∧ t.Holds (text.push (Char.ofNat (m * 16 + n))) := by
  refine ⟨⟨text.push (Char.ofNat (m * 16 + n)), [], .plain⟩, h.backslash ?_,
    holds_settled _⟩
  have hthird : step ⟨text, [], .hex none 2 (some 0)⟩ high
      = .ok ⟨text, [], .hex none 3 (some m)⟩ := by
    rw [step]
    dsimp only
    rw [hhigh, if_pos (by decide)]
    simp only [Option.bind_eq_bind, Option.bind_some, Nat.zero_mul,
      Nat.zero_add]
  have hfourth : step ⟨text, [], .hex none 3 (some m)⟩ low
      = .ok ⟨text.push (Char.ofNat (m * 16 + n)), [], .plain⟩ := by
    have htrailing : isTrailing (m * 16 + n) = false := by
      simp only [isTrailing, Bool.and_eq_false_iff, decide_eq_false_iff_not]
      omega
    have hleading : isLeading (m * 16 + n) = false := by
      simp only [isLeading, Bool.and_eq_false_iff, decide_eq_false_iff_not]
      omega
    rw [step]
    dsimp only
    rw [hlow, if_neg (by decide)]
    simp only [Option.bind_eq_bind, Option.bind_some, pushUnit,
      htrailing, hleading]
    rfl
  exact .cons rfl rfl (.cons rfl rfl (.cons rfl rfl (.cons rfl hthird
    (.cons rfl hfourth (.nil _)))))

/-- Bytes that stand for themselves. -/
theorem takes_plain {bytes : Bytes}
    (h : ∀ b ∈ bytes, b ≠ 0x22 ∧ b ≠ 0x5C ∧ ¬ b < 0x20) (text : String)
    (run : Bytes) :
    Takes ⟨text, run, .plain⟩ bytes ⟨text, bytes.reverse ++ run, .plain⟩ := by
  induction bytes generalizing run with
  | nil => exact .nil _
  | cons b bytes ih =>
      obtain ⟨⟨hquote, hbackslash, hcontrol⟩, hbytes⟩ :=
        List.forall_mem_cons.mp h
      refine .cons ?_ ?_ ?_ (t := ⟨text, b :: run, .plain⟩)
      · rw [closes, beq_eq_false_iff_ne.mpr hquote, Bool.and_false]
      · rw [step]
        dsimp only
        rw [if_neg hbackslash, if_neg hcontrol]
        rfl
      · rw [List.reverse_cons, List.append_assoc, List.singleton_append]
        exact ih hbytes (b :: run)

/-- A character that is not escaped is sent as bytes that stand for
themselves. -/
theorem plain_of_mem_utf8EncodeChar {c : Char} (hquote : c ≠ '"')
    (hbackslash : c ≠ '\\') (hcontrol : ¬ c.toNat < 0x20) :
    ∀ b ∈ String.utf8EncodeChar c, b ≠ 0x22 ∧ b ≠ 0x5C ∧ ¬ b < 0x20 := by
  have hquote' : c.toNat ≠ 0x22 := fun h => hquote (Char.toNat_inj.mp h)
  have hbackslash' : c.toNat ≠ 0x5C := fun h => hbackslash (Char.toNat_inj.mp h)
  intro b hb
  rw [Ne, Ne, ← UInt8.toNat_inj, ← UInt8.toNat_inj, UInt8.lt_iff_toNat_lt]
  simp only [UInt8.reduceToNat]
  rcases Utf8.toNat_of_mem_utf8EncodeChar hb with heq | hge
  · rw [heq]
    exact ⟨hquote', hbackslash', hcontrol⟩
  · omega

/-- An unescaped character is gathered. -/
theorem Holds.plain {s : Scan} {text : String} (h : s.Holds text) {c : Char}
    (hquote : c ≠ '"') (hbackslash : c ≠ '\\') (hcontrol : ¬ c.toNat < 0x20) :
    ∃ t, Takes s (String.utf8EncodeChar c) t ∧ t.Holds (text.push c) := by
  obtain ⟨before, run, phase⟩ := s
  obtain ⟨hphase, last, hrun, htext⟩ := h
  dsimp only at hphase hrun htext
  subst hphase htext
  have htakes := takes_plain
    (plain_of_mem_utf8EncodeChar hquote hbackslash hcontrol) before run
  refine ⟨_, htakes, rfl, last.push c, ?_, ?_⟩
  · rw [List.reverse_append, List.reverse_reverse, hrun, Utf8.encode_eq_flatMap,
      Utf8.encode_eq_flatMap, String.toList_push, List.flatMap_append,
      List.flatMap_singleton]
  · rw [String.push_eq_append, String.push_eq_append, String.append_assoc]

/-- Every character is read back from the way it is written. -/
theorem Holds.escape {s : Scan} {text : String} (h : s.Holds text) (c : Char) :
    ∃ t, Takes s ((Json.escape c).flatMap String.utf8EncodeChar) t ∧
      t.Holds (text.push c) := by
  have hletter : ∀ {point : Nat} (b : UInt8), c.toNat = point → b ≠ 0x75 →
      letter? b = some point → ∃ t, Takes s [0x5C, b] t ∧
        t.Holds (text.push c) := by
    rintro point b rfl hb hletter
    rw [← Char.ofNat_toNat c]
    exact h.letter hb hletter
  unfold Json.escape
  split
  · next hc => exact hletter 0x22 (by rw [hc]; rfl) (by decide) rfl
  split
  · next hc => exact hletter 0x5C (by rw [hc]; rfl) (by decide) rfl
  split
  · next hlow =>
    split
    · next hc => exact hletter 0x62 hc (by decide) rfl
    split
    · next hc => exact hletter 0x74 hc (by decide) rfl
    split
    · next hc => exact hletter 0x6E hc (by decide) rfl
    split
    · next hc => exact hletter 0x66 hc (by decide) rfl
    split
    · next hc => exact hletter 0x72 hc (by decide) rfl
    · have hdigit : ∀ n < 16, String.utf8EncodeChar (hexDigit n)
            = [UInt8.ofNat (hexDigit n).toNat]
          ∧ hexValue? (UInt8.ofNat (hexDigit n).toNat) = some n := by decide
      obtain ⟨hhigh, hm⟩ := hdigit (c.toNat / 16) (by omega)
      obtain ⟨hlow', hn⟩ := hdigit (c.toNat % 16) (by omega)
      have hpoint : c.toNat / 16 * 16 + c.toNat % 16 = c.toNat := by omega
      have hunicode := h.unicode hm hn (by omega) (by omega)
      rw [hpoint, Char.ofNat_toNat] at hunicode
      simp only [List.flatMap_cons, List.flatMap_nil, hhigh, hlow']
      exact hunicode
  · next hquote hbackslash hcontrol =>
    rw [List.flatMap_singleton]
    exact h.plain hquote hbackslash hcontrol

/-- So are characters in a row. -/
theorem Holds.escapes {s : Scan} {text : String} (h : s.Holds text)
    (cs : List Char) :
    ∃ t, Takes s ((cs.flatMap Json.escape).flatMap String.utf8EncodeChar) t
      ∧ t.Holds (text ++ String.ofList cs) := by
  induction cs generalizing s text with
  | nil =>
      refine ⟨s, .nil s, ?_⟩
      rw [String.ofList_nil, String.append_empty]
      exact h
  | cons c cs ih =>
      obtain ⟨t, htakes, ht⟩ := h.escape c
      obtain ⟨u, htakes', hu⟩ := ih ht
      refine ⟨u, ?_, ?_⟩
      · rw [List.flatMap_cons, List.flatMap_append]
        exact htakes.append htakes'
      · rw [String.ofList_cons, ← String.append_assoc, ← String.push_eq_append]
        exact hu

end Scan

end Restoration.Json
