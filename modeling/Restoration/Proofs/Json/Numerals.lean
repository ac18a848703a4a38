/-
What the reader of JSON makes of a written binary number. Its text is digits
with a point among them, and perhaps a power of ten; the reader gathers the
digits in a significand and counts places. The digits of a shortest decimal
always fit, so what is gathered is the decimal itself, or the decimal with the
zeros that fill it up to the point and one behind it (`gathered`,
`Opens.moves_layout`).

Out of that comes a double that need not be the one that was written, since
the significand and the power of ten are each rounded before they are
multiplied. But it is never out of range: going down divides, and going up
leaves room for both roundings, save for the two greatest doubles, which are
followed to the end (`fits_double`). So every number has a text that is read as
some number, the same one wherever it stands (`moves_number`).
-/
import Restoration.Proofs.Binary.Overflow
import Restoration.Proofs.Json.Reading
import Restoration.Proofs.Text.Integer

namespace Restoration.Json

open Binary

-- =============================================================== doubles

/-- A power of ten that is counted is a finite double, and from ten on a
divisor by two or more. -/
theorem double_power {power : Nat} (hpower : power ≤ greatestPower) :
    double.nearest (10 ^ power) 1 < double.infinity
      ∧ (0 < power →
        2 * 2 ^ double.least
          ≤ double.units (double.nearest (10 ^ power) 1)) := by
  have hample : 10 ^ power * 2 ^ double.least ≤ double.ample :=
    calc 10 ^ power * 2 ^ double.least
      ≤ 10 ^ greatestPower * 2 ^ double.least :=
          Nat.mul_le_mul_right _ (Nat.pow_le_pow_right (by decide) hpower)
      _ ≤ double.ample := by decide +kernel
  have hfinite :=
    Format.nearest_lt_infinity_of_ample (f := double) (by decide) hample
  refine ⟨hfinite, fun hpos => ?_⟩
  have hten : 10 ^ 1 ≤ 10 ^ power := Nat.pow_le_pow_right (by decide) hpos
  have hleast : 1 ≤ 10 ^ power * 2 ^ double.least :=
    Nat.mul_pos (by omega) (Nat.two_pow_pos _)
  have hunits := double.le_units_nearest Nat.one_pos hleast hfinite
  have hless : 10 ^ 1 * 2 ^ double.least ≤ 10 ^ power * 2 ^ double.least :=
    Nat.mul_le_mul_right _ hten
  omega

/-- Dividing by powers of ten keeps a magnitude finite, in however many
steps. -/
theorem scaled_down {count : Nat} (hcount : count < double.infinity)
    {exponent : Int} (hdown : exponent < 0) :
    ∃ result, scaled count exponent = some result ∧
      result < double.infinity := by
  have hquotient {count : Nat} (hcount : count < double.infinity) {power : Nat}
      (hpos : 0 < power) (hpower : power ≤ greatestPower) :
      double.quotient count (double.nearest (Nat.pow 10 power) 1)
        < double.infinity :=
    Format.quotient_lt_infinity (by decide) hcount
      ((double_power hpower).2 hpos)
  induction hsize : exponent.natAbs
    using Nat.strongRecOn generalizing count exponent with
  | ind size ih =>
      rw [scaled]
      split
      case isTrue hnear =>
        rw [if_neg (Int.not_le.mpr hdown)]
        exact ⟨_, rfl, hquotient hcount (by omega) hnear⟩
      case isFalse hfar =>
        split
        case isTrue => exact ⟨0, rfl, by decide⟩
        case isFalse =>
          rw [if_neg (Int.not_le.mpr hdown)]
          have hdown' : exponent + greatestPower < 0 := by omega
          have hless : (exponent + greatestPower).natAbs < size := by
            rw [greatestPower] at hdown' ⊢
            omega
          exact ih _ hless
            (hquotient hcount (by decide) (Nat.le_refl greatestPower)) hdown'
            rfl

/-- A significand and a power of ten are a double if their product is finite. -/
theorem toDouble_isOk (negative : Bool) {significand : Nat} {exponent : Int}
    (hwidest : significand ≤ widest)
    (hup : 0 ≤ exponent → exponent ≤ greatestPower
      ∧ double.product (double.nearest significand 1)
          (double.nearest (10 ^ exponent.toNat) 1)
        < double.infinity) :
    ∃ n, toDouble negative significand exponent = .ok n := by
  have hfinite : double.nearest significand 1 < double.infinity := by
    apply Format.nearest_lt_infinity_of_ample (by decide)
    calc significand * 2 ^ double.least ≤ widest * 2 ^ double.least :=
          Nat.mul_le_mul_right _ hwidest
      _ ≤ double.ample := by decide +kernel
  have hscaled : ∃ result,
      scaled (double.nearest significand 1) exponent = some result
      ∧ result < double.infinity := by
    by_cases hdown : exponent < 0
    · exact scaled_down hfinite hdown
    · obtain ⟨hnear, hproduct⟩ := hup (by omega)
      rw [scaled, if_pos (by rw [greatestPower] at hnear ⊢; omega),
        if_pos (by omega)]
      dsimp only [Nat.pow_eq]
      rw [if_pos hproduct]
      exact ⟨_, rfl, hproduct⟩
  obtain ⟨result, hsome, hresult⟩ := hscaled
  rw [toDouble, hsome]
  dsimp only
  rw [dif_pos hresult]
  exact ⟨_, rfl⟩

/-- There is room for the roundings of a decimal that is amply below
infinity. -/
theorem double_product_of_ample {significand : Nat} (hne : significand ≠ 0)
    {exponent : Int}
    (hample : significand * 10 ^ exponent.toNat * 2 ^ double.least
      ≤ double.ample) :
    exponent ≤ greatestPower
      ∧ double.product (double.nearest significand 1)
          (double.nearest (10 ^ exponent.toNat) 1)
        < double.infinity := by
  have hpower : 10 ^ exponent.toNat * 2 ^ double.least ≤ double.ample :=
    (Nat.mul_le_mul_right _
      (Nat.le_mul_of_pos_left _ (Nat.pos_of_ne_zero hne))).trans hample
  have hsignificand : significand * 2 ^ double.least ≤ double.ample :=
    (Nat.mul_le_mul_right _
      (Nat.le_mul_of_pos_right _ (Nat.pow_pos (by decide)))).trans hample
  constructor
  · refine Int.not_lt.mp fun hgt => ?_
    have hten : 10 ^ (greatestPower + 1) ≤ 10 ^ exponent.toNat :=
      Nat.pow_le_pow_right (by decide) (by omega)
    have hless : double.ample
      < 10 ^ (greatestPower + 1) * 2 ^ double.least := by decide +kernel
    exact absurd ((Nat.mul_le_mul_right _ hten).trans hpower)
      (Nat.not_le.mpr hless)
  · exact Format.product_lt_infinity (by decide) (by decide)
      (Format.nearest_lt_infinity_of_ample (by decide) hsignificand)
      (Format.nearest_lt_infinity_of_ample (by decide) hpower) hample

-- ================================================================ digits

/-- The bytes of characters. -/
def bytesOf (cs : List Char) : Bytes := cs.flatMap String.utf8EncodeChar

theorem bytesOf_append (cs cs' : List Char) :
    bytesOf (cs ++ cs') = bytesOf cs ++ bytesOf cs' :=
  List.flatMap_append

theorem bytesOf_cons (c : Char) (cs : List Char) :
    bytesOf (c :: cs) = String.utf8EncodeChar c ++ bytesOf cs :=
  List.flatMap_cons

/-- A digit is sent as one byte, which is read as its value. -/
theorem digit?_of_isDigit {c : Char} (h : c.isDigit = true) :
    ∃ b, String.utf8EncodeChar c = [b] ∧
      Numeral.digit? b = some (c.toNat - '0'.toNat) := by
  have hall : ∀ n < 10,
      String.utf8EncodeChar (Char.ofNat (48 + n)) = [UInt8.ofNat (48 + n)]
      ∧ Numeral.digit? (UInt8.ofNat (48 + n)) = some n := by decide
  simp only [Char.isDigit, Bool.and_eq_true, decide_eq_true_eq, ge_iff_le,
    UInt32.le_iff_toNat_le] at h
  have hlow : 48 ≤ c.toNat := h.1
  have hhigh : c.toNat ≤ 57 := h.2
  obtain ⟨hbyte, hdigit⟩ := hall (c.toNat - 48) (by omega)
  rw [show 48 + (c.toNat - 48) = c.toNat by omega] at hbyte hdigit
  rw [Char.ofNat_toNat] at hbyte
  exact ⟨_, hbyte, hdigit⟩

/-- Zeros behind a number. -/
theorem ofDigitChars_zeros (k n : Nat) :
    Nat.ofDigitChars 10 (List.replicate k '0') n = n * 10 ^ k := by
  induction k generalizing n with
  | zero => simp [Nat.ofDigitChars]
  | succ k ih =>
      rw [List.replicate_succ, Nat.ofDigitChars_cons, ih, pow_succ]
      simp only [Nat.sub_self, Nat.add_zero]
      ring

theorem isDigit_of_mem_zeros (k : Nat) :
    ∀ c ∈ List.replicate k '0', c.isDigit = true := by
  intro c hc
  rw [List.eq_of_mem_replicate hc]
  rfl

variable {negative : Bool} {frames : List Frame}

/-- Digits before a point are gathered while they fit. -/
theorem moves_whole (negative : Bool) (frames : List Frame) {cs : List Char}
    (hcs : ∀ c ∈ cs, c.isDigit = true) {n : Nat}
    (hfits : Nat.ofDigitChars 10 cs n ≤ widest) :
    Moves (.number (.digits negative n), frames) (bytesOf cs)
      (.number (.digits negative (Nat.ofDigitChars 10 cs n)), frames) := by
  induction cs generalizing n with
  | nil => exact .refl _
  | cons c cs ih =>
      obtain ⟨hc, hcs⟩ := List.forall_mem_cons.mp hcs
      obtain ⟨b, hbyte, hdigit⟩ := digit?_of_isDigit hc
      rw [Nat.ofDigitChars_cons] at hfits ⊢
      have hnext := (Text.le_ofDigitChars cs _).trans hfits
      rw [bytesOf_cons, hbyte]
      refine .cons (.digit ?_ frames) (ih hcs hfits)
      rw [Nat.mul_comm] at hnext
      simp only [Numeral.step, hdigit, Nat.mul_comm 10, if_pos hnext]

/-- Digits behind a point are gathered likewise, and lower the exponent by
one each. -/
theorem moves_places (negative : Bool) (frames : List Frame) {cs : List Char}
    (hcs : ∀ c ∈ cs, c.isDigit = true) {n : Nat}
    (hfits : Nat.ofDigitChars 10 cs n ≤ widest) (exponent : Int) :
    Moves (.number (.point negative n exponent true false), frames) (bytesOf cs)
      (.number
        (.point negative (Nat.ofDigitChars 10 cs n) (exponent - cs.length)
          true false),
        frames) := by
  induction cs generalizing n exponent with
  | nil =>
      rw [List.length_nil, Int.natCast_zero, Int.sub_zero]
      exact .refl _
  | cons c cs ih =>
      obtain ⟨hc, hcs⟩ := List.forall_mem_cons.mp hcs
      obtain ⟨b, hbyte, hdigit⟩ := digit?_of_isDigit hc
      rw [Nat.ofDigitChars_cons] at hfits ⊢
      have hnext := (Text.le_ofDigitChars cs _).trans hfits
      have hrest := ih hcs hfits (exponent - 1)
      rw [bytesOf_cons, hbyte, List.length_cons,
        show exponent - ((cs.length + 1 : Nat) : Int)
          = exponent - 1 - cs.length by omega]
      refine .cons (.digit ?_ frames) hrest
      rw [Nat.mul_comm] at hnext
      simp only [Numeral.step, hdigit, Nat.mul_comm 10, if_pos hnext,
        Bool.false_eq_true, if_false]

/-- The first digit behind a point may be its last. -/
theorem moves_fraction (negative : Bool) (frames : List Frame) {cs : List Char}
    (hcs : ∀ c ∈ cs, c.isDigit = true) (hne : cs ≠ []) {n : Nat}
    (hfits : Nat.ofDigitChars 10 cs n ≤ widest) :
    Moves (.number (.point negative n 0 false false), frames) (bytesOf cs)
      (.number
        (.point negative (Nat.ofDigitChars 10 cs n) (-cs.length) true false),
        frames) := by
  cases cs with
  | nil => exact absurd rfl hne
  | cons c cs =>
      obtain ⟨hc, hcs⟩ := List.forall_mem_cons.mp hcs
      obtain ⟨b, hbyte, hdigit⟩ := digit?_of_isDigit hc
      rw [Nat.ofDigitChars_cons] at hfits ⊢
      have hnext := (Text.le_ofDigitChars cs _).trans hfits
      have hrest := moves_places negative frames hcs hfits (-1)
      rw [bytesOf_cons, hbyte, List.length_cons,
        show -((cs.length + 1 : Nat) : Int) = -1 - cs.length by omega]
      refine .cons (.digit ?_ frames) hrest
      rw [Nat.mul_comm] at hnext
      simp only [Numeral.step, hdigit, Nat.mul_comm 10, if_pos hnext,
        Bool.false_eq_true, if_false]
      rfl

/-- The digits of a power of ten. -/
theorem moves_power (negative : Bool) (frames : List Frame) (significand : Nat)
    (exponent : Int) (down : Bool) {n : Nat}
    (hn : n ≤ Numeral.greatestExponent) :
    Moves (.number (.signed negative significand exponent down), frames)
      (bytesOf (Nat.toDigits 10 n))
      (.number (.power negative significand exponent down n), frames) := by
  have hdigit : ∀ d < 10,
      String.utf8EncodeChar (Nat.digitChar d) = [UInt8.ofNat (0x30 + d)]
      ∧ Numeral.digit? (UInt8.ofNat (0x30 + d)) = some d := by decide
  induction n using Nat.strongRecOn with
  | ind n ih =>
      have hlast := hdigit (n % 10) (Nat.mod_lt n (by decide))
      by_cases hlt : n < 10
      · rw [Nat.toDigits_of_lt_base hlt, bytesOf_cons, (hdigit n hlt).1]
        refine .digit ?_ frames
        simp only [Numeral.step, (hdigit n hlt).2]
      · rw [Nat.toDigits_of_base_le (by decide) (Nat.le_of_not_lt hlt),
          bytesOf_append, bytesOf_cons, hlast.1]
        refine (ih (n / 10) (by omega) (by omega)).trans (.digit ?_ frames)
        simp only [Numeral.step, hlast.2,
          show n / 10 * 10 + n % 10 = n by omega, if_pos hn]

-- ============================================================== decimals

/-- What a numeral comes to if it ends here, before a separator or a bracket. -/
structure Numeral.Gives (numeral : Numeral)
    (result : Except Cause Number) : Prop where
  finish : numeral.finish? = some result
  stop : ∀ b ∈ [0x2C, 0x5D, 0x7D], numeral.step b = .ok none

theorem Numeral.Gives.ends {numeral : Numeral} {n : Number}
    (h : numeral.Gives (.ok n)) :
    Ends (.number n) (.number numeral) := .number rfl h.finish h.stop

/-- A number with a point may end behind a digit. -/
theorem gives_point (negative : Bool) (significand : Nat) (exponent : Int) :
    (Numeral.point negative significand exponent true false).Gives
      (toDouble negative significand exponent) where
  finish := rfl
  stop := by
    simp only [List.forall_mem_cons]
    exact ⟨rfl, rfl, rfl, List.forall_mem_nil _⟩

theorem gives_power (negative : Bool) (significand : Nat) (exponent : Int)
    (down : Bool) (value : Nat) :
    (Numeral.power negative significand exponent down value).Gives
      (toDouble negative significand
        (if down then exponent - value else exponent + value)) where
  finish := rfl
  stop := by
    simp only [List.forall_mem_cons]
    exact ⟨rfl, rfl, rfl, List.forall_mem_nil _⟩

/-- A state in which a number may begin. -/
structure Opens (s : Step) (negative : Bool) (frames : List Frame) : Prop where
  zero : Moves s [0x30] (.number (.zero negative), frames)
  digit : ∀ d < 10, d ≠ 0 →
    Moves s [UInt8.ofNat (0x30 + d)] (.number (.digits negative d), frames)

theorem Due.opens {s : Step} (h : Due s frames) : Opens s false frames where
  zero := h.begin rfl (by decide) rfl
  digit d hd hd0 := by
    obtain ⟨hspace, hclose, hbegin, -⟩ := step_digit frames hd hd0
    exact h.begin hspace hclose hbegin

theorem opens_minus (frames : List Frame) :
    Opens (.number .minus, frames) true frames where
  zero := .digit rfl frames
  digit _ hd hd0 := .digit (step_digit frames hd hd0).2.2.2 frames

/-- The digits of a positive number, the first of which is not zero. -/
theorem toDigits_eq_cons {n : Nat} (hn : n ≠ 0) :
    ∃ d rest, d < 10 ∧ d ≠ 0 ∧ Nat.toDigits 10 n = Nat.digitChar d :: rest
      ∧ (∀ c ∈ rest, c.isDigit = true) ∧ Nat.ofDigitChars 10 rest d = n := by
  have hchar : ∀ d < 10, (Nat.digitChar d).toNat - '0'.toNat = d := by decide
  have hfirst : ∃ d rest, d < 10 ∧ d ≠ 0 ∧
      Nat.toDigits 10 n = Nat.digitChar d :: rest := by
    induction n using Nat.strongRecOn with
    | ind n ih =>
        by_cases hlt : n < 10
        · exact ⟨n, [], hlt, hn, Nat.toDigits_of_lt_base hlt⟩
        · obtain ⟨d, rest, hd, hd0, hdigits⟩ :=
            ih (n / 10) (by omega) (by omega)
          refine ⟨d, rest ++ [Nat.digitChar (n % 10)], hd, hd0, ?_⟩
          rw [Nat.toDigits_of_base_le (by decide) (Nat.le_of_not_lt hlt),
            hdigits, List.cons_append]
  obtain ⟨d, rest, hd, hd0, hdigits⟩ := hfirst
  refine ⟨d, rest, hd, hd0, hdigits, fun c hc => ?_, ?_⟩
  · apply Nat.isDigit_of_mem_toDigits (b := 10) (n := n) (by decide) (by decide)
    rw [hdigits]
    exact List.mem_cons_of_mem _ hc
  · have hvalue :=
      Nat.ofDigitChars_toDigits (b := 10) (n := n) (by decide) (by decide)
    rwa [hdigits, Nat.ofDigitChars_cons, hchar d hd, Nat.mul_zero, Nat.zero_add]
      at hvalue

/-- The byte of a digit. -/
theorem bytesOf_digitChar_cons {d : Nat} (hd : d < 10) (cs : List Char) :
    bytesOf (Nat.digitChar d :: cs) = UInt8.ofNat (0x30 + d) :: bytesOf cs := by
  have hdigit : ∀ d < 10,
      String.utf8EncodeChar (Nat.digitChar d) = [UInt8.ofNat (0x30 + d)] := by
    decide
  rw [bytesOf_cons, hdigit d hd]
  rfl

/-- Digits, a point, and digits behind it. -/
theorem Opens.moves_plain {s : Step} (h : Opens s negative frames) {d : Nat}
    (hd : d < 10) (hd0 : d ≠ 0) {before after : List Char}
    (hbefore : ∀ c ∈ before, c.isDigit = true)
    (hafter : ∀ c ∈ after, c.isDigit = true) (hne : after ≠ [])
    (hfits : Nat.ofDigitChars 10 (before ++ after) d ≤ widest) :
    Moves s (bytesOf (Nat.digitChar d :: before ++ '.' :: after))
      (.number
        (.point negative (Nat.ofDigitChars 10 (before ++ after) d)
          (-after.length) true false),
        frames) := by
  rw [Nat.ofDigitChars_append] at hfits ⊢
  have hwhole :=
    moves_whole negative frames hbefore
      ((Text.le_ofDigitChars after _).trans hfits)
  have hfraction := moves_fraction negative frames hafter hne hfits
  have hpoint :
      Numeral.step (.digits negative (Nat.ofDigitChars 10 before d)) 0x2E
        = .ok (some
          (.point negative (Nat.ofDigitChars 10 before d) 0 false false)) :=
    rfl
  rw [List.cons_append, bytesOf_digitChar_cons hd, bytesOf_append, bytesOf_cons]
  exact .cons (h.digit d hd hd0)
    (hwhole.trans (.cons (.digit hpoint frames) hfraction))

/-- Zero, a point, and digits behind it. -/
theorem Opens.moves_fraction {s : Step} (h : Opens s negative frames)
    {after : List Char} (hafter : ∀ c ∈ after, c.isDigit = true)
    (hne : after ≠ []) (hfits : Nat.ofDigitChars 10 after 0 ≤ widest) :
    Moves s (bytesOf ('0' :: '.' :: after))
      (.number
        (.point negative (Nat.ofDigitChars 10 after 0) (-after.length)
          true false),
        frames) := by
  have hpoint : Numeral.step (.zero negative) 0x2E
      = .ok (some (.point negative 0 0 false false)) := rfl
  exact .cons h.zero (.cons (.digit hpoint frames)
    (Json.moves_fraction negative frames hafter hne hfits))

/-- A mantissa, with a point behind its first digit if there are others. -/
def mantissa (first : Char) : List Char → List Char
  | [] => [first]
  | rest => first :: '.' :: rest

/-- A mantissa and a power of ten. -/
theorem Opens.moves_scientific {s : Step} (h : Opens s negative frames)
    {d : Nat} (hd : d < 10) (hd0 : d ≠ 0) {after : List Char}
    (hafter : ∀ c ∈ after, c.isDigit = true)
    (hfits : Nat.ofDigitChars 10 after d ≤ widest) {power : Int}
    (hpower : power.natAbs ≤ Numeral.greatestExponent) :
    Moves s (bytesOf (mantissa (Nat.digitChar d) after
        ++ 'e' :: (if power < 0 then '-' else '+') ::
          Nat.toDigits 10 power.natAbs))
      (.number
        (.power negative (Nat.ofDigitChars 10 after d) (-after.length)
          (decide (power < 0)) power.natAbs), frames) := by
  have hmantissa :
      Moves s (bytesOf (mantissa (Nat.digitChar d) after) ++ [0x65])
      (.number (.mark negative (Nat.ofDigitChars 10 after d) (-after.length)),
        frames) := by
    cases after with
    | nil =>
        rw [mantissa, bytesOf_digitChar_cons hd]
        exact .cons (h.digit d hd hd0) (.digit rfl frames)
    | cons c after =>
        have hfraction :=
          Json.moves_fraction negative frames hafter
            (List.cons_ne_nil c after) hfits
        have hpoint : Numeral.step (.digits negative d) 0x2E
            = .ok (some (.point negative d 0 false false)) := rfl
        rw [mantissa, bytesOf_digitChar_cons hd]
        · exact .cons (h.digit d hd hd0)
            (.cons (.digit hpoint frames) (hfraction.trans (.digit rfl frames)))
        · exact List.cons_ne_nil c after
  have hdigits (down : Bool) :=
    moves_power negative frames (Nat.ofDigitChars 10 after d)
    (-after.length) down hpower
  rw [bytesOf_append, bytesOf_cons, bytesOf_cons, ← List.append_assoc]
  refine hmantissa.trans ?_
  by_cases hdown : power < 0
  · rw [if_pos hdown, decide_eq_true hdown]
    exact .cons (.digit rfl frames) (hdigits true)
  · rw [if_neg hdown, decide_eq_false hdown]
    exact .cons (.digit rfl frames) (hdigits false)

/-- The power of ten of a decimal's first digit. -/
def firstPower (d : Decimal) : Int :=
  d.exponent + (Nat.toDigits 10 d.digits).length - 1

/-- The significand and the power of ten that are gathered from a decimal's
text: its own, unless zeros are written up to the point and behind it. -/
def gathered (l : Layout) (d : Decimal) : Nat × Int :=
  if d.digits = 0 then (0, -1)
  else if 0 ≤ d.exponent ∧ l.lowest ≤ firstPower d ∧
      firstPower d ≤ l.highest then
    (d.digits * 10 ^ (d.exponent.toNat + 1), -1)
  else (d.digits, d.exponent)

section Layouts

variable {s : Step} {d digit : Nat} {rest : List Char}

/-- Zeros between the point and the digits. -/
theorem Opens.moves_small (h : Opens s negative frames) (hwidest : d ≤ widest)
    (zeros : Nat) :
    Moves s
      (bytesOf (['0', '.'] ++ List.replicate zeros '0' ++ Nat.toDigits 10 d))
      (.number
        (.point negative d (-(zeros + (Nat.toDigits 10 d).length : Nat))
          true false),
        frames) := by
  have hdigits : ∀ c ∈ List.replicate zeros '0' ++ Nat.toDigits 10 d,
      c.isDigit = true :=
    List.forall_mem_append.mpr ⟨isDigit_of_mem_zeros zeros, fun c hc =>
      Nat.isDigit_of_mem_toDigits (by decide) (by decide) hc⟩
  have hvalue : Nat.ofDigitChars 10
      (List.replicate zeros '0' ++ Nat.toDigits 10 d) 0 = d := by
    rw [Nat.ofDigitChars_append, ofDigitChars_zeros, Nat.zero_mul]
    exact Nat.ofDigitChars_toDigits (by decide) (by decide)
  have hne : List.replicate zeros '0' ++ Nat.toDigits 10 d ≠ [] :=
    List.append_ne_nil_of_right_ne_nil _
      (List.ne_nil_of_length_pos Nat.length_toDigits_pos)
  have hmoves := h.moves_fraction hdigits hne (hvalue.trans_le hwidest)
  rw [hvalue, List.length_append, List.length_replicate] at hmoves
  exact hmoves

/-- Zeros between the digits and the point, and one behind it. -/
theorem Opens.moves_great (h : Opens s negative frames) (hd : digit < 10)
    (hd0 : digit ≠ 0) (hrest : ∀ c ∈ rest, c.isDigit = true)
    (hvalue : Nat.ofDigitChars 10 rest digit = d) {zeros : Nat}
    (hwidest : d * 10 ^ (zeros + 1) ≤ widest) :
    Moves s
      (bytesOf
        (Nat.digitChar digit :: (rest ++ List.replicate zeros '0') ++
          ['.', '0']))
      (.number (.point negative (d * 10 ^ (zeros + 1)) (-1) true false),
        frames) := by
  have hsum :
      Nat.ofDigitChars 10 (rest ++ List.replicate zeros '0' ++ ['0']) digit
      = d * 10 ^ (zeros + 1) := by
    rw [List.append_assoc,
      show List.replicate zeros '0' ++ ['0'] = List.replicate (zeros + 1) '0'
        from List.replicate_succ'.symm,
      Nat.ofDigitChars_append, hvalue, ofDigitChars_zeros]
  have hmoves := h.moves_plain hd hd0
    (List.forall_mem_append.mpr ⟨hrest, isDigit_of_mem_zeros zeros⟩)
    (isDigit_of_mem_zeros 1) (List.cons_ne_nil _ _) (hsum.trans_le hwidest)
  rw [List.replicate_one, hsum] at hmoves
  exact hmoves

/-- The point among the digits. -/
theorem Opens.moves_between (h : Opens s negative frames) (hd : digit < 10)
    (hd0 : digit ≠ 0) (hrest : ∀ c ∈ rest, c.isDigit = true)
    (hvalue : Nat.ofDigitChars 10 rest digit = d) (hwidest : d ≤ widest)
    {whole : Nat} (hwhole : whole < rest.length) :
    Moves s
      (bytesOf
        (Nat.digitChar digit :: rest.take whole ++ '.' :: rest.drop whole))
      (.number (.point negative d (-(rest.length - whole : Nat)) true false),
        frames) := by
  have hsum : Nat.ofDigitChars 10 (rest.take whole ++ rest.drop whole)
      digit = d := by
    rw [List.take_append_drop, hvalue]
  have hmoves :=
    h.moves_plain hd hd0 (fun c hc => hrest c (List.mem_of_mem_take hc))
    (fun c hc => hrest c (List.mem_of_mem_drop hc))
    (List.ne_nil_of_length_pos (by rw [List.length_drop]; omega))
    (hsum.trans_le hwidest)
  rw [hsum, List.length_drop] at hmoves
  exact hmoves

end Layouts

/-- Zeros are written only as long as the digits stay before the layout's
end. -/
theorem gathered_le (l : Layout) (d : Decimal) :
    (gathered l d).1 ≤ d.digits ∨
    (gathered l d).1 ≤ 10 ^ (l.highest + 2).toNat := by
  unfold gathered
  split
  case isTrue => exact Or.inl (Nat.zero_le _)
  case isFalse =>
    split
    case isFalse => exact Or.inl (Nat.le_refl _)
    case isTrue hplain =>
      right
      have hdigits : d.digits < 10 ^ (Nat.toDigits 10 d.digits).length :=
        (Nat.length_toDigits_le_iff (by decide) Nat.length_toDigits_pos).mp
          (Nat.le_refl _)
      have hplaces : (Nat.toDigits 10 d.digits).length + (d.exponent.toNat + 1)
          ≤ (l.highest + 2).toNat := by
        rw [firstPower] at hplain
        omega
      calc d.digits * 10 ^ (d.exponent.toNat + 1)
          ≤ 10 ^ (Nat.toDigits 10 d.digits).length *
            10 ^ (d.exponent.toNat + 1) :=
            Nat.mul_le_mul_right _ (Nat.le_of_lt hdigits)
        _ = 10 ^ ((Nat.toDigits 10 d.digits).length + (d.exponent.toNat + 1)) :=
            (pow_add _ _ _).symm
        _ ≤ 10 ^ (l.highest + 2).toNat :=
            Nat.pow_le_pow_right (by decide) hplaces

/-- A power of ten that goes up is the decimal's own. -/
theorem gathered_of_up {l : Layout} {d : Decimal} (h : 0 ≤ (gathered l d).2) :
    d.digits ≠ 0 ∧ 0 ≤ d.exponent ∧ gathered l d = (d.digits, d.exponent) := by
  unfold gathered at *
  by_cases hzero : d.digits = 0
  · rw [if_pos hzero] at h
    exact absurd h (by decide)
  · rw [if_neg hzero] at h ⊢
    split at h
    case isTrue => exact absurd (show (0 : Int) ≤ -1 from h) (by decide)
    case isFalse hown => exact ⟨hzero, h, if_neg hown⟩

/-- A decimal, as it is laid out. -/
theorem Opens.moves_layout {s : Step} (h : Opens s negative frames) {l : Layout}
    {d : Decimal} (hwidest : (gathered l d).1 ≤ widest)
    (hpower : d.digits ≠ 0 → (firstPower d).natAbs ≤ Numeral.greatestExponent) :
    ∃ numeral, Moves s (bytesOf (l.write d)) (.number numeral, frames)
      ∧ numeral.Gives
        (toDouble negative (gathered l d).1 (gathered l d).2) := by
  have hfirst : d.exponent + ((Nat.toDigits 10 d.digits).length : Int) - 1
    = firstPower d := rfl
  unfold Layout.write gathered at *
  dsimp only
  rw [hfirst]
  split
  case isTrue =>
    exact ⟨_, h.moves_fraction (isDigit_of_mem_zeros 1) (List.cons_ne_nil _ _)
      (Nat.zero_le _), gives_point negative _ _⟩
  case isFalse hne =>
    rw [if_neg hne] at hwidest
    obtain ⟨digit, rest, hd, hd0, hdigits, hrest, hvalue⟩ :=
      toDigits_eq_cons hne
    have hlength : (Nat.toDigits 10 d.digits).length = rest.length + 1 := by
      rw [hdigits, List.length_cons]
    generalize firstPower d = first at *
    split
    case isTrue hfar =>
      have hown :
        ¬ (0 ≤ d.exponent ∧ l.lowest ≤ first ∧ first ≤ l.highest) := by omega
      rw [if_neg hown] at hwidest ⊢
      have hmoves :=
        h.moves_scientific hd hd0 hrest (hvalue.trans_le hwidest) (hpower hne)
      have hgives :=
        gives_power negative (Nat.ofDigitChars 10 rest digit) (-rest.length)
        (decide (first < 0)) first.natAbs
      have hexponent :
          (if decide (first < 0) = true then -(rest.length : Int) - first.natAbs
          else -(rest.length : Int) + first.natAbs) = d.exponent := by
        simp only [decide_eq_true_eq]
        split <;> omega
      rw [hexponent, hvalue] at hgives
      rw [hvalue] at hmoves
      refine ⟨_, ?_, hgives⟩
      rw [hdigits]
      cases rest with
      | nil => exact hmoves
      | cons c rest => exact hmoves
    case isFalse hnear =>
      split
      case isTrue hdown =>
        have hown :
          ¬ (0 ≤ d.exponent ∧ l.lowest ≤ first ∧ first ≤ l.highest) := by omega
        rw [if_neg hown] at hwidest ⊢
        have hmoves := h.moves_small hwidest (first.natAbs - 1)
        rw [show -((first.natAbs - 1 + (Nat.toDigits 10 d.digits).length :
          Nat) : Int) = d.exponent by omega] at hmoves
        exact ⟨_, hmoves, gives_point negative _ _⟩
      case isFalse hup =>
        have hzeros : first.toNat + 1 - (rest.length + 1)
          = d.exponent.toNat := by omega
        rw [hdigits, List.length_cons, hzeros, List.cons_append,
          List.take_succ_cons, List.drop_succ_cons]
        by_cases hexponent : 0 ≤ d.exponent
        · have hown : 0 ≤ d.exponent ∧ l.lowest ≤ first ∧
            first ≤ l.highest := by omega
          have hall : (rest ++ List.replicate d.exponent.toNat '0').length
              ≤ first.toNat := by
            rw [List.length_append, List.length_replicate]
            omega
          rw [if_pos hown] at hwidest ⊢
          rw [List.take_of_length_le hall, List.drop_eq_nil_of_le hall]
          exact ⟨_, h.moves_great hd hd0 hrest hvalue hwidest,
            gives_point negative _ _⟩
        · have hown :
            ¬ (0 ≤ d.exponent ∧ l.lowest ≤ first ∧ first ≤ l.highest) := by
            omega
          have hsome : (rest.drop first.toNat).isEmpty = false := by
            rw [List.isEmpty_eq_false_iff_exists_mem]
            exact List.exists_mem_of_length_pos
              (by rw [List.length_drop]; omega)
          rw [if_neg hown] at hwidest ⊢
          rw [show d.exponent.toNat = 0 by omega, List.replicate_zero,
            List.append_nil, hsome, if_neg Bool.false_ne_true]
          have hwhole : first.toNat < rest.length := by omega
          have hmoves := h.moves_between hd hd0 hrest hvalue hwidest hwhole
          rw [show -((rest.length - first.toNat : Nat) : Int) = d.exponent by
              omega] at hmoves
          exact ⟨_, hmoves, gives_point negative _ _⟩

-- =============================================================== numbers

/-- The significand and the power of ten that are gathered from the text of
a finite number. -/
def gatheredFrom {f : Format} (l : Layout) (x : Finite f) : Nat × Int :=
  if x.count = 0 then (0, -1) else gathered l (f.shortest x.count)

/-- A finite number whose shortest decimal fits. -/
theorem moves_finite {s : Step} (h : Due s frames) {f : Format} {l : Layout}
    {x : Finite f} (hwidest : (gatheredFrom l x).1 ≤ widest)
    (hpower : (f.shortest x.count).digits ≠ 0 →
      (firstPower (f.shortest x.count)).natAbs ≤ Numeral.greatestExponent) :
    ∃ numeral, Moves s (Utf8.encode (x.write l)) (.number numeral, frames)
      ∧ numeral.Gives
        (toDouble x.negative (gatheredFrom l x).1 (gatheredFrom l x).2) := by
  have hbody {s : Step} (h : Opens s x.negative frames) : ∃ numeral,
      Moves s
        (bytesOf (if x.count = 0 then ['0', '.', '0']
          else l.write (f.shortest x.count)))
        (.number numeral, frames)
      ∧ numeral.Gives
        (toDouble x.negative (gatheredFrom l x).1 (gatheredFrom l x).2) := by
    unfold gatheredFrom at *
    split
    case isTrue =>
      exact ⟨_, h.moves_fraction (isDigit_of_mem_zeros 1) (List.cons_ne_nil _ _)
        (Nat.zero_le _), gives_point x.negative _ _⟩
    case isFalse hne =>
      rw [if_neg hne] at hwidest
      exact h.moves_layout hwidest hpower
  rw [Utf8.encode_eq_flatMap, Finite.write, String.toList_ofList]
  cases hnegative : x.negative with
  | false =>
      rw [hnegative] at hbody
      exact hbody h.opens
  | true =>
      rw [hnegative] at hbody
      obtain ⟨numeral, hmoves, hgives⟩ := hbody (opens_minus frames)
      exact ⟨numeral, .cons (h.begin rfl (by decide) rfl) hmoves, hgives⟩

/-- Whether the text of a finite number is read as a number: what is
gathered fits, and what goes up stays finite. -/
structure Fits {f : Format} (l : Layout) (x : Finite f) : Prop where
  widest : (gatheredFrom l x).1 ≤ widest
  power : (f.shortest x.count).digits ≠ 0 →
    (firstPower (f.shortest x.count)).natAbs ≤ Numeral.greatestExponent
  up : x.count ≠ 0 → (f.shortest x.count).digits ≠ 0 →
    0 ≤ (f.shortest x.count).exponent →
    (f.shortest x.count).exponent ≤ greatestPower
      ∧ double.product (double.nearest (f.shortest x.count).digits 1)
          (double.nearest (10 ^ (f.shortest x.count).exponent.toNat) 1)
            < double.infinity

theorem Fits.isOk {f : Format} {l : Layout} {x : Finite f} (h : Fits l x) :
    ∃ n,
      toDouble x.negative (gatheredFrom l x).1 (gatheredFrom l x).2
        = .ok n := by
  apply toDouble_isOk x.negative h.widest
  unfold gatheredFrom
  by_cases hzero : x.count = 0
  · rw [if_pos hzero]
    exact fun hup => absurd hup (by decide)
  · rw [if_neg hzero]
    intro hup
    obtain ⟨hdigits, hexponent, hgathered⟩ := gathered_of_up hup
    rw [hgathered]
    exact h.up hzero hdigits hexponent

/-- Few digits fit, with the zeros behind them. -/
theorem gatheredFrom_le {f : Format} {l : Layout} {x : Finite f}
    (hmost : 10 ^ f.mostDigits ≤ widest)
    (hlayout : 10 ^ (l.highest + 2).toNat ≤ widest) :
    (gatheredFrom l x).1 ≤ widest := by
  have hdigits := (f.shortest_bounds x.count).1.trans hmost
  unfold gatheredFrom
  split
  · exact Nat.zero_le _
  · exact (gathered_le l (f.shortest x.count)).elim (·.trans hdigits)
      (·.trans hlayout)

/-- A decimal that is not far out has a power of ten that is counted. -/
theorem firstPower_le {d : Decimal} {most low high : Nat}
    (hdigits : d.digits ≤ 10 ^ most)
    (hexponent : -(low : Int) ≤ d.exponent ∧ d.exponent < high)
    (hcounted : low + high + most ≤ Numeral.greatestExponent) :
    (firstPower d).natAbs ≤ Numeral.greatestExponent := by
  have hlength : (Nat.toDigits 10 d.digits).length ≤ most + 1 := by
    apply (Nat.length_toDigits_le_iff (by decide) (Nat.succ_pos most)).mpr
    exact Nat.lt_of_le_of_lt hdigits
      (Nat.pow_lt_pow_right (by decide) (Nat.lt_succ_self most))
  have hpos : 0 < (Nat.toDigits 10 d.digits).length := Nat.length_toDigits_pos
  rw [firstPower]
  omega

/-- A finite single. -/
theorem fits_single (x : Finite single) : Fits singleLayout x := by
  have hdigits := (single.shortest_bounds x.count).1
  have hexponent :=
    single.shortest_exponent_bounds (by decide) (by decide) x.isFinite (k := 39)
    (by decide +kernel)
  refine ⟨gatheredFrom_le (by decide) (by decide),
    fun hne => firstPower_le hdigits (hexponent hne) (by decide),
    fun _ hne _ => ?_⟩
  have hten : (single.shortest x.count).exponent.toNat ≤ 48 := by
    have hhigh : (single.shortest x.count).exponent < (48 : Nat) :=
      (hexponent hne).2
    omega
  apply double_product_of_ample hne
  calc (single.shortest x.count).digits *
    10 ^ (single.shortest x.count).exponent.toNat
        * 2 ^ double.least
      ≤ 10 ^ single.mostDigits * 10 ^ 48 * 2 ^ double.least :=
        Nat.mul_le_mul_right _
          (Nat.mul_le_mul hdigits (Nat.pow_le_pow_right (by decide) hten))
    _ ≤ double.ample := by decide +kernel

/-- A finite double; the two greatest are followed to the end. -/
theorem fits_double (x : Finite double) : Fits doubleLayout x := by
  have hdigits := (double.shortest_bounds x.count).1
  have hexponent := double.shortest_exponent_bounds (by decide) (by decide)
    x.isFinite (k := 309) (by decide +kernel)
  refine ⟨gatheredFrom_le (by decide) (by decide),
    fun hne => firstPower_le hdigits (hexponent hne) (by decide),
    fun _ hne hup => ?_⟩
  by_cases hample : x.count + 2 < double.infinity
  · exact double_product_of_ample hne
      (Format.shortest_ample (by decide) (by decide) hample hup)
  · have hgreatest : x.count = double.infinity - 1 ∨
        x.count = double.infinity - 2 := by
      have := x.isFinite
      omega
    have hfirst : double.shortest (double.infinity - 1)
        = ⟨17976931348623157, 292⟩ := by
      decide +kernel
    have hsecond : double.shortest (double.infinity - 2)
        = ⟨17976931348623155, 292⟩ := by
      decide +kernel
    rcases hgreatest with h | h
    · rw [h, hfirst]
      exact ⟨by decide, by decide +kernel⟩
    · rw [h, hsecond]
      exact ⟨by decide, by decide +kernel⟩

/-- A finite single is read as some number. -/
theorem moves_single {s : Step} (h : Due s frames) (x : Finite single) :
    ∃ mode n, Moves s (Utf8.encode (x.write singleLayout)) (mode, frames)
      ∧ Ends (.number n) mode := by
  obtain ⟨numeral, hmoves, hgives⟩ :=
    moves_finite h (fits_single x).widest (fits_single x).power
  obtain ⟨n, hn⟩ := (fits_single x).isOk
  rw [hn] at hgives
  exact ⟨_, n, hmoves, hgives.ends⟩

/-- The number that the reader makes of a number's text. -/
def Number.reread (n : Number) : Number :=
  match readText n.write with
  | .ok (.number m) => m
  | _ => n

/-- Every number is read as some number, the same one wherever it stands. -/
theorem moves_number {s : Step} (h : Due s frames) (n : Number) :
    ∃ mode, Moves s (Utf8.encode n.write) (mode, frames) ∧
      Ends (.number n.reread) mode := by
  have hsome : ∃ m, ∀ {s frames}, Due s frames →
      ∃ mode, Moves s (Utf8.encode n.write) (mode, frames) ∧
        Ends (.number m) mode := by
    cases n with
    | integer i hi => exact ⟨.integer i hi, fun h => moves_integer h i hi⟩
    | float x =>
        obtain ⟨m, hm⟩ := (fits_double x).isOk
        refine ⟨m, fun h => ?_⟩
        obtain ⟨numeral, hmoves, hgives⟩ :=
          moves_finite h (fits_double x).widest (fits_double x).power
        rw [hm] at hgives
        exact ⟨_, hmoves, hgives.ends⟩
  obtain ⟨m, hm⟩ := hsome
  obtain ⟨mode, hmoves, hends⟩ := hm (due_value [])
  have hreread : n.reread = m := by
    rw [Number.reread, readText, read_of_moves hmoves hends]
  rw [hreread]
  exact hm h

theorem readText_number (n : Number) :
    readText n.write = .ok (.number n.reread) := by
  obtain ⟨mode, hmoves, hends⟩ := moves_number (due_value []) n
  exact read_of_moves hmoves hends

/-- An integer is read back. -/
@[simp]
theorem reread_integer (i : Int) (hi : fits i = true) :
    Number.reread (.integer i hi) = .integer i hi := by
  obtain ⟨mode, hmoves, hends⟩ := moves_integer (due_value []) i hi
  have hread : readText (Number.write (.integer i hi))
      = .ok (.number (.integer i hi)) :=
    read_of_moves hmoves hends
  rw [Number.reread, hread]

end Restoration.Json
