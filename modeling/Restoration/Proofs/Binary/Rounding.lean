/-
How far rounding reaches.

A quotient is rounded in a step that depends on its size: of its whole part,
counted in least magnitudes, `fraction + 1` bits are kept, and the bits that
are shifted out decide between what is kept and the next significand. The
count that comes of it is the shift and the significand put together, and
`units_shift` takes them apart again, so what a rounded quotient is worth can
be compared with the quotient itself (`units_nearest_le`, `le_units_nearest`).
From half a step above the greatest finite magnitude on the result is
infinity (`infinity_le_nearest_iff`).
-/
import Mathlib.Tactic.Ring
import Restoration.Binary.Literal

namespace Restoration.Binary.Format

variable (f : Format) {num den : Nat}

/-- The exponent code and the stored fraction of a count. -/
theorem units_code (code : Nat) {part : Nat} (h : part < 2 ^ f.fraction) :
    f.units (code * 2 ^ f.fraction + part)
      = if code = 0 then part
        else (2 ^ f.fraction + part) * 2 ^ (code - 1) := by
  have hpos : 0 < 2 ^ f.fraction := Nat.two_pow_pos _
  have hcode : (code * 2 ^ f.fraction + part) / 2 ^ f.fraction = code := by
    rw [Nat.mul_comm, Nat.mul_add_div hpos, Nat.div_eq_of_lt h, Nat.add_zero]
  have hpart : (code * 2 ^ f.fraction + part) % 2 ^ f.fraction = part := by
    rw [Nat.mul_comm, Nat.mul_add_mod, Nat.mod_eq_of_lt h]
  unfold units
  dsimp only [Nat.pow_eq]
  rw [hcode, hpart]

/-- A significand of at most `fraction + 1` bits, or the least with one bit
more, counted from its shift, is that many units. -/
theorem units_shift {shift m : Nat} (hm : m ≤ 2 ^ (f.fraction + 1))
    (hnormal : shift = 0 ∨ 2 ^ f.fraction ≤ m) :
    f.units (shift * 2 ^ f.fraction + m) = m * 2 ^ shift := by
  rw [pow_succ] at hm
  rcases Nat.lt_or_ge m (2 ^ f.fraction) with hlt | hge
  · obtain rfl : shift = 0 := hnormal.resolve_right (Nat.not_le.mpr hlt)
    rw [units_code f 0 hlt, if_pos rfl, pow_zero, Nat.mul_one]
  obtain ⟨part, rfl⟩ := Nat.exists_eq_add_of_le hge
  rcases Nat.lt_or_ge part (2 ^ f.fraction) with hlt | hge
  · rw [show shift * 2 ^ f.fraction + (2 ^ f.fraction + part)
        = (shift + 1) * 2 ^ f.fraction + part by ring,
      units_code f _ hlt, if_neg shift.succ_ne_zero, Nat.add_sub_cancel]
  · -- the least significand of the next code
    obtain rfl : part = 2 ^ f.fraction := by omega
    rw [show shift * 2 ^ f.fraction + (2 ^ f.fraction + 2 ^ f.fraction)
        = (shift + 2) * 2 ^ f.fraction + 0 by ring,
      units_code f _ (Nat.two_pow_pos _), if_neg (by omega),
      show shift + 2 - 1 = shift + 1 by omega]
    ring

variable (num den)

/-- The whole part of a quotient, counted in least magnitudes. -/
def whole : Nat := num * 2 ^ f.least / den

/-- The shift that leaves `fraction + 1` bits of it. -/
def shift : Nat := (f.whole num den).log2 - f.fraction

/-- The bits that are left. -/
def kept : Nat := f.whole num den / 2 ^ f.shift num den

theorem kept_lt : f.kept num den < 2 ^ (f.fraction + 1) := by
  rw [kept, Nat.div_lt_iff_lt_mul (Nat.two_pow_pos _), ← pow_add]
  refine Nat.lt_of_lt_of_le Nat.lt_log2_self
    (Nat.pow_le_pow_right (by decide) ?_)
  rw [shift]
  omega

theorem kept_normal :
    f.shift num den = 0 ∨ 2 ^ f.fraction ≤ f.kept num den := by
  rcases Nat.eq_zero_or_pos (f.shift num den) with hzero | hpos
  · exact Or.inl hzero
  · have hlog : f.fraction + f.shift num den = (f.whole num den).log2 := by
      rw [shift] at hpos ⊢
      omega
    have hne : f.whole num den ≠ 0 := by
      intro hwhole
      rw [hwhole, Nat.log2_zero] at hlog
      omega
    refine Or.inr ?_
    rw [kept, Nat.le_div_iff_mul_le (Nat.two_pow_pos _), ← pow_add, hlog]
    exact Nat.log2_self_le hne

/-- What is left out. -/
def rest : Nat := num * 2 ^ f.least - f.kept num den * 2 ^ f.shift num den * den

/-- A quotient is rounded up if more than half a step is left out, or half
of one and the bits that are left are odd. -/
def roundsUp : Bool :=
  decide (den * 2 ^ f.shift num den < 2 * f.rest num den)
    || (decide (2 * f.rest num den = den * 2 ^ f.shift num den) &&
      f.kept num den % 2 == 1)

theorem nearest_eq : f.nearest num den = min f.infinity
    (f.shift num den * 2 ^ f.fraction +
      (f.kept num den + (f.roundsUp num den).toNat)) := by
  have hdef : f.nearest num den = min f.infinity (if f.roundsUp num den = true
      then f.shift num den * 2 ^ f.fraction + f.kept num den + 1
      else f.shift num den * 2 ^ f.fraction + f.kept num den) := rfl
  rw [hdef]
  cases f.roundsUp num den <;> rfl

variable {num den}

/-- A quotient lies between the bits that are left and the next greater ones. -/
theorem kept_bounds (num : Nat) (hden : 0 < den) :
    f.kept num den * 2 ^ f.shift num den * den ≤ num * 2 ^ f.least
      ∧ num * 2 ^ f.least < (f.kept num den + 1) * 2 ^ f.shift num
        den * den := by
  have hlow : f.kept num den * 2 ^ f.shift num den ≤ f.whole num den :=
    Nat.div_mul_le_self _ _
  have hhigh : f.whole num den < (f.kept num den + 1) * 2 ^ f.shift num den :=
    (Nat.div_lt_iff_lt_mul (Nat.two_pow_pos _)).mp (Nat.lt_succ_self _)
  constructor
  · exact (Nat.le_div_iff_mul_le hden).mp hlow
  · exact (Nat.div_lt_iff_lt_mul hden).mp hhigh

/-- Half a step left out, or more, rounds an odd significand up. -/
theorem roundsUp_iff (num den : Nat) (hodd : f.kept num den % 2 = 1) :
    f.roundsUp num den = true ↔
      den * 2 ^ f.shift num den ≤ 2 * f.rest num den := by
  rw [roundsUp, hodd, Bool.or_eq_true, Bool.and_eq_true, decide_eq_true_eq,
    decide_eq_true_eq]
  simp only [beq_self_eq_true, and_true]
  omega

/-- Rounding reaches infinity if the shift and the significand put together
do. -/
theorem infinity_le_nearest_iff_count : f.infinity ≤ f.nearest num den
    ↔ f.codes * 2 ^ f.fraction
      ≤ f.shift num den * 2 ^ f.fraction +
        (f.kept num den + (f.roundsUp num den).toNat) := by
  rw [nearest_eq, le_min_iff, and_iff_right (Nat.le_refl _)]
  rfl

variable {codes : Nat}

/-- A shift below the last exponent code. -/
theorem nearest_of_shift_lt (hcodes : f.codes = codes + 3) (hden : 0 < den)
    (hshift : f.shift num den < codes + 1) :
    f.nearest num den < f.infinity
      ∧ num * 2 ^ f.least < (4 * 2 ^ f.fraction - 1) * (2 ^ codes * den) := by
  have hkept := f.kept_lt num den
  rw [pow_succ] at hkept
  have hup : (f.roundsUp num den).toNat ≤ 1 := Bool.toNat_le _
  have hpow : 2 ^ f.shift num den * den ≤ 2 ^ codes * den :=
    Nat.mul_le_mul_right _ (Nat.pow_le_pow_right (by decide) (by omega))
  have hcount : f.shift num den * 2 ^ f.fraction ≤ codes * 2 ^ f.fraction :=
    Nat.mul_le_mul_right _ (by omega)
  constructor
  · rw [← Nat.not_le, infinity_le_nearest_iff_count, hcodes, Nat.add_mul]
    omega
  · calc num * 2 ^ f.least
        < (f.kept num den + 1) * 2 ^ f.shift num den * den :=
      (f.kept_bounds num hden).2
      _ = (f.kept num den + 1) * (2 ^ f.shift num den * den) :=
          Nat.mul_assoc _ _ _
      _ ≤ (4 * 2 ^ f.fraction - 1) * (2 ^ codes * den) :=
          Nat.mul_le_mul (by omega) hpow

/-- A shift beyond the last exponent code. -/
theorem nearest_of_lt_shift (hcodes : f.codes = codes + 3) (hden : 0 < den)
    (hshift : codes + 1 < f.shift num den) :
    f.infinity ≤ f.nearest num den
      ∧ (4 * 2 ^ f.fraction - 1) * (2 ^ codes * den) ≤ num * 2 ^ f.least := by
  have hfull : 2 ^ f.fraction ≤ f.kept num den :=
    (f.kept_normal num den).resolve_left (by omega)
  have hpow : 2 ^ (codes + 2) * den ≤ 2 ^ f.shift num den * den :=
    Nat.mul_le_mul_right _ (Nat.pow_le_pow_right (by decide) (by omega))
  have hcount : (codes + 2) * 2 ^ f.fraction
      ≤ f.shift num den * 2 ^ f.fraction :=
    Nat.mul_le_mul_right _ (by omega)
  constructor
  · rw [infinity_le_nearest_iff_count, hcodes, Nat.add_mul]
    rw [Nat.add_mul] at hcount
    omega
  · calc (4 * 2 ^ f.fraction - 1) * (2 ^ codes * den)
        ≤ 4 * 2 ^ f.fraction * (2 ^ codes * den) :=
      Nat.mul_le_mul_right _ (Nat.sub_le _ _)
      _ = 2 ^ f.fraction * (2 ^ (codes + 2) * den) := by ring
      _ ≤ f.kept num den * (2 ^ f.shift num den * den) :=
          Nat.mul_le_mul hfull hpow
      _ = f.kept num den * 2 ^ f.shift num den * den :=
          (Nat.mul_assoc _ _ _).symm
      _ ≤ num * 2 ^ f.least := (f.kept_bounds num hden).1

/-- At the last exponent code the greatest significand is odd, so it is
rounded up from half a step on. -/
theorem nearest_of_shift_eq (hcodes : f.codes = codes + 3) (hden : 0 < den)
    (hshift : f.shift num den = codes + 1) :
    f.infinity ≤ f.nearest num den
      ↔ (4 * 2 ^ f.fraction - 1) * (2 ^ codes * den) ≤ num * 2 ^ f.least := by
  obtain ⟨hlow, hhigh⟩ := f.kept_bounds num hden
  have hkept := f.kept_lt num den
  have hup : (f.roundsUp num den).toNat ≤ 1 := Bool.toNat_le _
  have hodd := f.roundsUp_iff num den
  have hpow (m : Nat) : m * 2 ^ (codes + 1) * den
    = 2 * m * (2 ^ codes * den) := by ring
  have hpos : 0 < 2 ^ f.fraction := Nat.two_pow_pos _
  have hstep : 0 < 2 ^ codes * den := Nat.mul_pos (Nat.two_pow_pos _) hden
  rw [rest, hshift, hpow, Nat.mul_comm den, pow_succ, Nat.mul_right_comm]
    at hodd
  rw [hshift, hpow] at hlow hhigh
  rw [pow_succ] at hkept
  have hcount : f.infinity ≤ f.nearest num den
      ↔ 2 * 2 ^ f.fraction ≤ f.kept num den + (f.roundsUp num den).toNat := by
    rw [infinity_le_nearest_iff_count, hcodes, hshift, Nat.add_mul, Nat.add_mul]
    omega
  rw [hcount]
  generalize 2 ^ codes * den = step at *
  generalize 2 ^ f.fraction = significands at *
  by_cases hgreatest : f.kept num den = 2 * significands - 1
  · have hdouble : 2 * f.kept num den * step + step
        = (4 * significands - 1) * step := by
      rw [hgreatest, ← Nat.succ_mul]
      congr 1
      omega
    have hhalf := hodd (by omega)
    cases hrounds : f.roundsUp num den with
    | true =>
        have := hhalf.mp hrounds
        simp only [Bool.toNat_true]
        omega
    | false =>
        have := mt hhalf.mpr (by rw [hrounds]; decide)
        simp only [Bool.toNat_false]
        omega
  · have hless : 2 * (f.kept num den + 1) * step
        ≤ (4 * significands - 1) * step :=
      Nat.mul_le_mul_right _ (by omega)
    omega

/-- Rounding reaches infinity from half a step above the greatest finite
magnitude. -/
theorem infinity_le_nearest_iff (hcodes : 3 ≤ f.codes) (num : Nat)
    (hden : 0 < den) :
    f.infinity ≤ f.nearest num den
      ↔ (2 ^ (f.fraction + 2) - 1) * (2 ^ (f.codes - 3) * den)
        ≤ num * 2 ^ f.least := by
  obtain ⟨codes, hcodes⟩ := Nat.exists_eq_add_of_le' hcodes
  rw [show f.codes - 3 = codes by omega,
    show 2 ^ (f.fraction + 2) = 4 * 2 ^ f.fraction by ring]
  rcases Nat.lt_trichotomy (f.shift num den) (codes + 1) with hlt | heq | hgt
  · obtain ⟨hfinite, hless⟩ := f.nearest_of_shift_lt hcodes hden hlt
    exact iff_of_false (Nat.not_le.mpr hfinite) (Nat.not_le.mpr hless)
  · exact f.nearest_of_shift_eq hcodes hden heq
  · obtain ⟨hinfinite, hreached⟩ := f.nearest_of_lt_shift hcodes hden hgt
    exact iff_of_true hinfinite hreached

theorem units_nearest (h : f.nearest num den < f.infinity) :
    f.units (f.nearest num den)
      = (f.kept num den + (f.roundsUp num den).toNat)
          * 2 ^ f.shift num den := by
  have hup : (f.roundsUp num den).toNat ≤ 1 := Bool.toNat_le _
  have hkept := f.kept_lt num den
  have hnormal := f.kept_normal num den
  rw [nearest_eq] at h ⊢
  rw [Nat.min_eq_right (by omega), units_shift f (by omega) (by omega)]

/-- What is rounded up from nothing was half of the least magnitude. -/
theorem roundsUp_of_kept_eq_zero (hkept : f.kept num den = 0)
    (h : f.roundsUp num den = true) :
    den ≤ 2 * (num * 2 ^ f.least) := by
  have hden : den * 1 ≤ den * 2 ^ f.shift num den :=
    Nat.mul_le_mul_left _ (Nat.two_pow_pos _)
  rw [roundsUp, rest, hkept, Bool.or_eq_true, Bool.and_eq_true,
    decide_eq_true_eq, decide_eq_true_eq] at h
  omega

/-- A rounded quotient is at most twice the quotient. -/
theorem units_nearest_le (hden : 0 < den) (h : f.nearest num den < f.infinity) :
    f.units (f.nearest num den) * den ≤ 2 * (num * 2 ^ f.least) := by
  have hup : (f.roundsUp num den).toNat ≤ 1 := Bool.toNat_le _
  rw [units_nearest f h]
  rcases Nat.eq_zero_or_pos (f.kept num den) with hzero | hpos
  · have hshift : f.shift num den = 0 :=
      (f.kept_normal num den).resolve_right (by
      rw [hzero]
      exact Nat.not_le.mpr (Nat.two_pow_pos _))
    rw [hzero, hshift, Nat.zero_add, pow_zero, Nat.mul_one]
    cases hrounds : f.roundsUp num den with
    | true =>
        rw [Bool.toNat_true, Nat.one_mul]
        exact f.roundsUp_of_kept_eq_zero hzero hrounds
    | false =>
        rw [Bool.toNat_false, Nat.zero_mul]
        exact Nat.zero_le _
  · calc
      (f.kept num den + (f.roundsUp num den).toNat)
          * 2 ^ f.shift num den * den
        ≤ 2 * f.kept num den * 2 ^ f.shift num den * den :=
          Nat.mul_le_mul_right _ (Nat.mul_le_mul_right _ (by omega))
      _ = 2 * (f.kept num den * 2 ^ f.shift num den * den) := by ring
      _ ≤ 2 * (num * 2 ^ f.least) :=
          Nat.mul_le_mul_left _ (f.kept_bounds num hden).1

/-- From the least magnitude on it is at least half of the quotient. -/
theorem le_units_nearest (hden : 0 < den) (hleast : den ≤ num * 2 ^ f.least)
    (h : f.nearest num den < f.infinity) :
    num * 2 ^ f.least ≤ 2 * (f.units (f.nearest num den) * den) := by
  have hpos : 0 < f.kept num den := by
    rcases f.kept_normal num den with hzero | hnormal
    · rw [kept, hzero, pow_zero, Nat.div_one, whole]
      exact Nat.div_pos hleast hden
    · exact Nat.lt_of_lt_of_le (Nat.two_pow_pos _) hnormal
  rw [units_nearest f h]
  calc num * 2 ^ f.least ≤ (f.kept num den + 1) * 2 ^ f.shift num den * den :=
        Nat.le_of_lt (f.kept_bounds num hden).2
    _ ≤ 2 * (f.kept num den + (f.roundsUp num den).toNat)
        * 2 ^ f.shift num den * den :=
        Nat.mul_le_mul_right _ (Nat.mul_le_mul_right _ (by omega))
    _ = 2 * ((f.kept num den + (f.roundsUp num den).toNat)
        * 2 ^ f.shift num den * den) := by ring

/-- A decimal reads as infinity from half a step above the greatest finite
single, that is from 2 ^ 128 - 2 ^ 103 on. -/
theorem single_infinity_le_ofDecimal_iff (digits : Nat) (exponent : Int) :
    single.infinity ≤ single.ofDecimal digits exponent
      ↔ (2 ^ 25 - 1) * 2 ^ 103 * 10 ^ (-exponent).toNat
        ≤ digits * 10 ^ exponent.toNat := by
  have hinfinity : 0 < single.infinity := by decide
  have hden : 0 < 10 ^ (-exponent).toNat := Nat.pow_pos (by decide)
  have hround :=
    single.infinity_le_nearest_iff (by decide)
      (digits * 10 ^ exponent.toNat) hden
  have hlimit : (2 ^ 25 - 1) * (2 ^ 252 * 10 ^ (-exponent).toNat)
        ≤ digits * 10 ^ exponent.toNat * 2 ^ 149
      ↔ (2 ^ 25 - 1) * 2 ^ 103 * 10 ^ (-exponent).toNat
        ≤ digits * 10 ^ exponent.toNat := by
    rw [show (2 ^ 25 - 1) * (2 ^ 252 * 10 ^ (-exponent).toNat)
        = (2 ^ 25 - 1) * 2 ^ 103 * 10 ^ (-exponent).toNat * 2 ^ 149 by ring]
    exact Nat.mul_le_mul_right_iff (by decide)
  rw [show single.fraction + 2 = 25 from rfl,
    show single.codes - 3 = 252 from rfl, show single.least = 149 from rfl,
    hlimit] at hround
  unfold ofDecimal
  dsimp only [Nat.pow_eq]
  rw [show (single.least : Int) = 149 from rfl]
  split
  case isTrue hzero =>
    rw [hzero, Nat.zero_mul]
    simp only [Nat.le_zero, Nat.mul_eq_zero]
    omega
  case isFalse hdigits =>
    split
    case isTrue hlarge =>
      refine ⟨fun _ => ?_, fun _ => Nat.le_refl _⟩
      have hten : 10 ^ 150 ≤ 10 ^ exponent.toNat :=
        Nat.pow_le_pow_right (by decide) (by omega)
      rw [show (-exponent).toNat = 0 by omega]
      calc (2 ^ 25 - 1) * 2 ^ 103 * 10 ^ 0 ≤ 1 * 10 ^ 150 := by decide
        _ ≤ digits * 10 ^ exponent.toNat :=
            Nat.mul_le_mul (Nat.pos_of_ne_zero hdigits) hten
    case isFalse =>
      split
      case isTrue hsmall =>
        have hless : digits < 10 ^ (-exponent).toNat :=
          calc digits < 2 ^ (digits.log2 + 1) := Nat.lt_log2_self
            _ ≤ 2 ^ (-exponent).toNat :=
                Nat.pow_le_pow_right (by decide) (by omega)
            _ ≤ 10 ^ (-exponent).toNat := Nat.pow_le_pow_left (by decide) _
        rw [show exponent.toNat = 0 by omega, pow_zero, Nat.mul_one]
        refine ⟨fun h => absurd h (Nat.not_le.mpr hinfinity), fun h => ?_⟩
        exact absurd h (Nat.not_le.mpr (Nat.lt_of_lt_of_le hless
          (Nat.le_mul_of_pos_left _ (by decide))))
      case isFalse =>
        split
        case isTrue hpos =>
          rw [show (-exponent).toNat = 0 by omega, pow_zero] at hround ⊢
          exact hround
        case isFalse hneg =>
          rw [show exponent.toNat = 0 by omega, pow_zero, Nat.mul_one]
            at hround ⊢
          exact hround

end Restoration.Binary.Format
