/-
Which results of arithmetic stay finite. A quotient by two or more never
leaves the format. A product may be carried over the edge by the rounding of
its factors, each of which moves it by half a step
(`units_nearest_le_half_step`); two steps below the greatest finite
magnitude there is room for both (`product_lt_infinity`). The shortest
decimal of a magnitude keeps that room, the two greatest magnitudes apart
(`shortest_ample`).
-/
import Restoration.Proofs.Binary.Rounding
import Restoration.Proofs.Binary.Shortest

namespace Restoration.Binary.Format

variable (f : Format) {num den : Nat}

-- ========================================================== neighbours

/-- Neighbours are a power of two apart. -/
theorem units_succ (n : Nat) :
    ∃ shift, f.units (n + 1) = f.units n + 2 ^ shift := by
  have hpos : 0 < 2 ^ f.fraction := Nat.two_pow_pos _
  have hsplit : n / 2 ^ f.fraction * 2 ^ f.fraction + n % 2 ^ f.fraction = n :=
    Nat.div_add_mod' n _
  have hpart : n % 2 ^ f.fraction < 2 ^ f.fraction := Nat.mod_lt _ hpos
  generalize n / 2 ^ f.fraction = code at hsplit
  generalize n % 2 ^ f.fraction = part at hsplit hpart
  subst hsplit
  cases code with
  | zero =>
      have hpart' : part + 1 ≤ 2 ^ (f.fraction + 1) := by rw [pow_succ]; omega
      have hlow : f.units (0 * 2 ^ f.fraction + part) = part * 2 ^ 0 :=
        f.units_shift (by omega) (Or.inl rfl)
      have hhigh : f.units (0 * 2 ^ f.fraction + (part + 1))
          = (part + 1) * 2 ^ 0 :=
        f.units_shift hpart' (Or.inl rfl)
      rw [Nat.zero_mul, Nat.zero_add] at hlow hhigh ⊢
      exact ⟨0, by rw [hlow, hhigh, Nat.succ_mul, pow_zero]⟩
  | succ code =>
      have hm : 2 ^ f.fraction + part + 1 ≤ 2 ^ (f.fraction + 1) := by
        rw [pow_succ]; omega
      have hlow : f.units (code * 2 ^ f.fraction + (2 ^ f.fraction + part))
          = (2 ^ f.fraction + part) * 2 ^ code :=
        f.units_shift (by omega) (Or.inr (Nat.le_add_right _ _))
      have hhigh : f.units (code * 2 ^ f.fraction + (2 ^ f.fraction + part + 1))
          = (2 ^ f.fraction + part + 1) * 2 ^ code :=
        f.units_shift hm (Or.inr (by omega))
      have hcount : (code + 1) * 2 ^ f.fraction + part
          = code * 2 ^ f.fraction + (2 ^ f.fraction + part) := by ring
      refine ⟨code, ?_⟩
      rw [hcount, Nat.add_assoc, hlow, hhigh]
      ring

/-- A greater count is a greater magnitude. -/
theorem units_strictMono : StrictMono f.units :=
  strictMono_nat_of_lt_succ fun n => by
  obtain ⟨shift, hsucc⟩ := f.units_succ n
  rw [hsucc]
  exact Nat.lt_add_of_pos_right (Nat.two_pow_pos shift)

/-- The count that is `back` below infinity, in the last exponent code. -/
theorem units_infinity_sub (hcodes : 2 ≤ f.codes) {back : Nat}
    (hback : back ≤ 2 ^ f.fraction) :
    f.units (f.infinity - back)
      = (2 ^ (f.fraction + 1) - back) * 2 ^ (f.codes - 2) := by
  obtain ⟨codes, hcodes⟩ := Nat.exists_eq_add_of_le' hcodes
  have hcount : f.infinity - back
      = codes * 2 ^ f.fraction + (2 ^ (f.fraction + 1) - back) := by
    rw [infinity, hcodes, Nat.pow_eq, Nat.add_mul, pow_succ]
    omega
  rw [hcount, f.units_shift (by omega) (Or.inr (by rw [pow_succ]; omega)),
    show f.codes - 2 = codes by omega]

variable {f}

-- ============================================================ half steps

/-- Rounding a quotient that fills the significand moves it by half a step
at most. -/
theorem units_nearest_le_half_step (hden : 0 < den)
    (hfull : 2 ^ f.fraction * den ≤ num * 2 ^ f.least)
    (h : f.nearest num den < f.infinity) :
    2 ^ (f.fraction + 1) * (f.units (f.nearest num den) * den)
      ≤ (2 ^ (f.fraction + 1) + 1) * (num * 2 ^ f.least) := by
  have hkept : 2 ^ f.fraction ≤ f.kept num den := by
    rcases f.kept_normal num den with hzero | hnormal
    · rw [kept, hzero, pow_zero, Nat.div_one]
      exact (Nat.le_div_iff_mul_le hden).mpr hfull
    · exact hnormal
  have hlow := (f.kept_bounds num hden).1
  -- the step that is rounded to is at most twice what is left out
  have hround :
      2 * ((f.kept num den + (f.roundsUp num den).toNat) * 2 ^ f.shift
        num den * den)
      ≤ 2 * (num * 2 ^ f.least) + 2 ^ f.shift num den * den := by
    cases hup : f.roundsUp num den with
    | false =>
        rw [Bool.toNat_false, Nat.add_zero]
        exact (Nat.mul_le_mul_left 2 hlow).trans (Nat.le_add_right _ _)
    | true =>
        have hhalf : den * 2 ^ f.shift num den ≤ 2 * f.rest num den := by
          rw [roundsUp, Bool.or_eq_true, Bool.and_eq_true, decide_eq_true_eq,
            decide_eq_true_eq] at hup
          omega
        rw [rest, Nat.mul_comm den] at hhalf
        rw [Bool.toNat_true, Nat.add_mul, Nat.add_mul, Nat.one_mul]
        omega
  have hstep : 2 ^ f.fraction * (2 ^ f.shift num den * den)
      ≤ num * 2 ^ f.least := by
    rw [← Nat.mul_assoc]
    exact (Nat.mul_le_mul_right _ (Nat.mul_le_mul_right _ hkept)).trans hlow
  rw [units_nearest f h]
  calc 2 ^ (f.fraction + 1)
        * ((f.kept num den + (f.roundsUp num den).toNat)
          * 2 ^ f.shift num den * den)
      = 2 ^ f.fraction
        * (2 * ((f.kept num den + (f.roundsUp num den).toNat)
          * 2 ^ f.shift num den * den)) := by
        ring
    _ ≤ 2 ^ f.fraction *
    (2 * (num * 2 ^ f.least) + 2 ^ f.shift num den * den) :=
        Nat.mul_le_mul_left _ hround
    _ = 2 ^ (f.fraction + 1) * (num * 2 ^ f.least)
        + 2 ^ f.fraction * (2 ^ f.shift num den * den) := by ring
    _ ≤ (2 ^ (f.fraction + 1) + 1) * (num * 2 ^ f.least) := by
        rw [Nat.add_mul, Nat.one_mul]
        exact Nat.add_le_add_left hstep _


-- ============================================================== finite

/-- A quotient by two or more is finite. -/
theorem quotient_lt_infinity (hcodes : 3 ≤ f.codes) {a b : Nat}
    (ha : a < f.infinity) (hb : 2 * 2 ^ f.least ≤ f.units b) :
    f.quotient a b < f.infinity := by
  have hunit : 0 < 2 ^ f.least := Nat.two_pow_pos _
  have hstep : 0 < 2 ^ (f.codes - 3) := Nat.two_pow_pos _
  have hones : 0 < 2 ^ f.fraction := Nat.two_pow_pos _
  have hunits : f.units a < 4 * 2 ^ f.fraction * 2 ^ (f.codes - 3) := by
    have hlt := f.units_strictMono ha
    rw [← Nat.sub_zero f.infinity,
      f.units_infinity_sub (by omega) (Nat.zero_le _), Nat.sub_zero,
      show f.codes - 2 = f.codes - 3 + 1 by omega] at hlt
    calc f.units a < 2 ^ (f.fraction + 1) * 2 ^ (f.codes - 3 + 1) := hlt
      _ = 4 * 2 ^ f.fraction * 2 ^ (f.codes - 3) := by ring
  unfold quotient
  rw [if_neg (Nat.not_le.mpr ha)]
  refine Nat.not_le.mp fun hle => ?_
  have hlimit := (f.infinity_le_nearest_iff hcodes _ (by omega)).mp hle
  rw [show 2 ^ (f.fraction + 2) = 4 * 2 ^ f.fraction by ring] at hlimit
  have hless : 4 * 2 ^ f.fraction * 2 ^ (f.codes - 3) * 2 ^ f.least
      ≤ (4 * 2 ^ f.fraction - 1) * (2 ^ (f.codes - 3) * f.units b) :=
    calc 4 * 2 ^ f.fraction * 2 ^ (f.codes - 3) * 2 ^ f.least
        ≤ 2 * (4 * 2 ^ f.fraction - 1) * 2 ^ (f.codes - 3) * 2 ^ f.least :=
          Nat.mul_le_mul_right _ (Nat.mul_le_mul_right _ (by omega))
      _ = (4 * 2 ^ f.fraction - 1) *
      (2 ^ (f.codes - 3) * (2 * 2 ^ f.least)) := by ring
      _ ≤ (4 * 2 ^ f.fraction - 1) * (2 ^ (f.codes - 3) * f.units b) :=
          Nat.mul_le_mul_left _ (Nat.mul_le_mul_left _ hb)
  have := Nat.mul_lt_mul_of_pos_right hunits hunit
  omega

/-- How far below infinity a product stays finite although both of its
factors have been rounded: two steps below the greatest finite magnitude,
and half of one. -/
def ample (f : Format) : Nat := (2 ^ (f.fraction + 2) - 5) * 2 ^ (f.codes - 3)

theorem nearest_lt_infinity_of_ample (hcodes : 3 ≤ f.codes)
    (h : num * 2 ^ f.least ≤ f.ample) :
    f.nearest num 1 < f.infinity := by
  refine Nat.not_le.mp fun hle => ?_
  have hlimit := (f.infinity_le_nearest_iff hcodes num Nat.one_pos).mp hle
  have hless : f.ample < (2 ^ (f.fraction + 2) - 1) * 2 ^ (f.codes - 3) := by
    refine Nat.mul_lt_mul_of_pos_right ?_ (Nat.two_pow_pos _)
    have : 0 < 2 ^ f.fraction := Nat.two_pow_pos _
    rw [show 2 ^ (f.fraction + 2) = 4 * 2 ^ f.fraction by ring]
    omega
  rw [Nat.mul_one] at hlimit
  omega

/-- A natural number is rounded by half a step at most. -/
theorem units_nearest_one_le (hleast : f.fraction ≤ f.least)
    (h : f.nearest num 1 < f.infinity) :
    2 ^ (f.fraction + 1) * f.units (f.nearest num 1)
      ≤ (2 ^ (f.fraction + 1) + 1) * (num * 2 ^ f.least) := by
  rcases Nat.eq_zero_or_pos num with rfl | hpos
  · have hzero := f.units_nearest_le Nat.one_pos h
    rw [Nat.zero_mul, Nat.mul_one] at hzero
    rw [Nat.le_zero.mp hzero, Nat.mul_zero]
    exact Nat.zero_le _
  · have hfull : 2 ^ f.fraction * 1 ≤ num * 2 ^ f.least := by
      rw [Nat.mul_one]
      exact (Nat.pow_le_pow_right (by decide) hleast).trans
        (Nat.le_mul_of_pos_left _ hpos)
    have hround := units_nearest_le_half_step Nat.one_pos hfull h
    rwa [Nat.mul_one] at hround

/-- Two roundings do not lead from there to infinity. -/
theorem ample_rounded_lt {ones : Nat} (hones : 0 < ones) :
    (2 * ones + 1) * (2 * ones + 1) * (4 * ones - 5)
      < 2 * ones * (2 * ones) * (4 * ones - 1) := by
  rcases Nat.lt_or_ge ones 2 with hlt | hge
  · obtain rfl : ones = 1 := by omega
    decide
  · obtain ⟨k, rfl⟩ := Nat.exists_eq_add_of_le hge
    rw [show 4 * (2 + k) - 5 = 4 * k + 3 by omega,
      show 4 * (2 + k) - 1 = 4 * k + 7 by omega]
    ring_nf
    omega

/-- A product of two natural numbers that have been rounded is finite if it
is amply below infinity. -/
theorem product_lt_infinity (hcodes : 3 ≤ f.codes)
    (hleast : f.fraction ≤ f.least) {m power : Nat}
    (hm : f.nearest m 1 < f.infinity) (hpower : f.nearest power 1 < f.infinity)
    (h : m * power * 2 ^ f.least ≤ f.ample) :
    f.product (f.nearest m 1) (f.nearest power 1) < f.infinity := by
  have hunit : 0 < 2 ^ f.least := Nat.two_pow_pos _
  have hstep : 0 < 2 ^ (f.codes - 3) := Nat.two_pow_pos _
  have hones : 0 < 2 ^ f.fraction := Nat.two_pow_pos _
  have hround :=
    Nat.mul_le_mul (units_nearest_one_le hleast hm)
      (units_nearest_one_le hleast hpower)
  unfold product
  dsimp only [Nat.pow_eq]
  rw [if_neg (by omega)]
  refine Nat.not_le.mp fun hle => ?_
  have hlimit :=
    (f.infinity_le_nearest_iff hcodes _ (Nat.mul_pos hunit hunit)).mp hle
  rw [ample] at h
  rw [show 2 ^ (f.fraction + 2) = 4 * 2 ^ f.fraction by ring] at h hlimit
  rw [show 2 ^ (f.fraction + 1) = 2 * 2 ^ f.fraction by ring] at hround
  have hless := ample_rounded_lt hones
  generalize 2 ^ f.fraction = ones at *
  generalize 2 ^ f.least = unit at *
  generalize 2 ^ (f.codes - 3) = step at *
  generalize f.units (f.nearest m 1) = a at *
  generalize f.units (f.nearest power 1) = b at *
  have hreached : (4 * ones - 1) * (step * unit) ≤ a * b := by
    refine Nat.le_of_mul_le_mul_right ?_ hunit
    calc (4 * ones - 1) * (step * unit) * unit
      = (4 * ones - 1) * (step * (unit * unit)) := by ring
      _ ≤ a * b * unit := hlimit
  have hcontra : 2 * ones * (2 * ones) * (4 * ones - 1) * (step * unit)
      < 2 * ones * (2 * ones) * (4 * ones - 1) * (step * unit) :=
    calc 2 * ones * (2 * ones) * (4 * ones - 1) * (step * unit)
        = 2 * ones * (2 * ones) * ((4 * ones - 1) * (step * unit)) := by ring
      _ ≤ 2 * ones * (2 * ones) * (a * b) := Nat.mul_le_mul_left _ hreached
      _ = 2 * ones * a * (2 * ones * b) := by ring
      _ ≤ (2 * ones + 1) * (m * unit) * ((2 * ones + 1) * (power * unit)) :=
          hround
      _ = (2 * ones + 1) * (2 * ones + 1) * (m * power * unit) * unit := by ring
      _ ≤ (2 * ones + 1) * (2 * ones + 1) * ((4 * ones - 5) * step) * unit :=
        Nat.mul_le_mul_right _ (Nat.mul_le_mul_left _ h)
      _ = (2 * ones + 1) * (2 * ones + 1) * (4 * ones - 5) * (step * unit) := by
          ring
      _ < 2 * ones * (2 * ones) * (4 * ones - 1) * (step * unit) :=
        Nat.mul_lt_mul_of_pos_right hless (Nat.mul_pos hstep hunit)
  exact absurd hcontra (Nat.lt_irrefl _)

/-- The shortest decimal of a magnitude with two finite ones above it,
multiplied out. -/
theorem shortest_ample (hcodes : 3 ≤ f.codes)
    (hfraction : 2 ≤ f.fraction) {n : Nat} (hn : n + 2 < f.infinity)
    (hexponent : 0 ≤ (f.shortest n).exponent) :
    (f.shortest n).digits * 10 ^ (f.shortest n).exponent.toNat * 2 ^ f.least
      ≤ f.ample := by
  have hones : 2 ^ 2 ≤ 2 ^ f.fraction :=
    Nat.pow_le_pow_right (by decide) hfraction
  have hlow := f.units_strictMono.monotone (show n ≤ f.infinity - 3 by omega)
  have hhigh :=
    f.units_strictMono.monotone (show n + 1 ≤ f.infinity - 2 by omega)
  rw [f.units_infinity_sub (by omega) (by omega)] at hlow hhigh
  have hhalf := f.shortest_halfOf n
  rw [Decimal.HalfOf,
    show (-(f.shortest n).exponent).toNat = 0 by omega, pow_zero,
    Nat.mul_one] at hhalf
  have hsum : (2 ^ (f.fraction + 1) - 3) * 2 ^ (f.codes - 2)
      + (2 ^ (f.fraction + 1) - 2) * 2 ^ (f.codes - 2) = 2 * f.ample := by
    rw [ample, show f.codes - 2 = f.codes - 3 + 1 by omega, ← Nat.add_mul,
      show 2 ^ (f.fraction + 2) = 4 * 2 ^ f.fraction by ring,
      show 2 ^ (f.fraction + 1) - 3 + (2 ^ (f.fraction + 1) - 2)
        = 4 * 2 ^ f.fraction - 5 by
        rw [pow_succ]; omega]
    ring
  omega

end Restoration.Binary.Format
