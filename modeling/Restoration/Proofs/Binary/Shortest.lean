/-
How long the shortest decimal of a magnitude is, where it stands, and how far
above the magnitude it may lie. Only grids from the place of the first digit
down are tried, so few digits stand on them, and dropping zeros makes them
fewer (`shortest_bounds`). What is found reads back, so it is at most half way
to the next magnitude (`shortest_halfOf`).
-/
import Mathlib.Tactic.Positivity
import Mathlib.Tactic.Ring
import Restoration.Binary.Shortest

namespace Restoration.Binary

/-- Dropping zeros makes the digits no more, and raises the exponent by one
for each. -/
theorem Decimal.trimmed_bounds (fuel : Nat) (d : Decimal) :
    (d.trimmed fuel).digits ≤ d.digits ∧ d.exponent ≤ (d.trimmed fuel).exponent
      ∧ (d.trimmed fuel).exponent ≤ d.exponent + fuel := by
  induction fuel generalizing d with
  | zero => exact ⟨Nat.le_refl _, Int.le_refl _, by simp [Decimal.trimmed]⟩
  | succ fuel ih =>
      rw [Decimal.trimmed]
      split
      · obtain ⟨hdigits, hlow, hhigh⟩ := ih ⟨d.digits / 10, d.exponent + 1⟩
        dsimp only at hdigits hlow hhigh
        exact ⟨hdigits.trans (Nat.div_le_self _ _), by omega, by omega⟩
      · exact ⟨Nat.le_refl _, Int.le_refl _, by omega⟩

/-- Whether twice a decimal, counted in units, is at most a bound. -/
def Decimal.HalfOf (unit bound : Nat) (d : Decimal) : Prop :=
  2 * (d.digits * 10 ^ d.exponent.toNat * unit)
    ≤ bound * 10 ^ (-d.exponent).toNat

/-- Dropping zeros does not change what a decimal is worth. -/
theorem Decimal.HalfOf.trimmed {unit bound : Nat} (fuel : Nat) {d : Decimal}
    (h : d.HalfOf unit bound) : (d.trimmed fuel).HalfOf unit bound := by
  induction fuel generalizing d with
  | zero => exact h
  | succ fuel ih =>
      rw [Decimal.trimmed]
      split
      case isFalse => exact h
      case isTrue hzero =>
        apply ih
        have hdigits : d.digits = 10 * (d.digits / 10) := by omega
        unfold HalfOf at h ⊢
        dsimp only
        generalize d.digits / 10 = digits at hdigits
        rw [hdigits] at h
        by_cases hexponent : 0 ≤ d.exponent
        · rw [show (d.exponent + 1).toNat = d.exponent.toNat + 1 by omega,
            show (-(d.exponent + 1)).toNat = 0 by omega]
          rw [show (-d.exponent).toNat = 0 by omega] at h
          calc 2 * (digits * 10 ^ (d.exponent.toNat + 1) * unit)
              = 2 * (10 * digits * 10 ^ d.exponent.toNat * unit) := by ring
            _ ≤ bound * 10 ^ 0 := h
        · rw [show (d.exponent + 1).toNat = 0 by omega]
          rw [show d.exponent.toNat = 0 by omega,
            show (-d.exponent).toNat = (-(d.exponent + 1)).toNat + 1 by omega]
          at h
          refine Nat.le_of_mul_le_mul_left ?_ (show 0 < 10 by decide)
          calc 10 * (2 * (digits * 10 ^ 0 * unit))
            = 2 * (10 * digits * 10 ^ 0 * unit) := by ring
            _ ≤ bound * 10 ^ ((-(d.exponent + 1)).toNat + 1) := h
            _ = 10 * (bound * 10 ^ (-(d.exponent + 1)).toNat) := by ring

namespace Format

variable (f : Format) {n : Nat}

/-- The magnitude is below the power of ten after its first digit. -/
theorem units_lt_firstPlace : ∃ len :
    Nat, 0 < len ∧ f.firstPlace n = len - 1 - f.least
    ∧ f.units n * 10 ^ f.least < 10 ^ len * 2 ^ f.least
    ∧ ∀ k, 0 < k → f.units n * 10 ^ f.least < 10 ^ k * 2 ^ f.least →
      len ≤ k := by
  have hdiv (k : Nat) : f.units n * 10 ^ f.least / 2 ^ f.least < 10 ^ k
      ↔ f.units n * 10 ^ f.least < 10 ^ k * 2 ^ f.least :=
    Nat.div_lt_iff_lt_mul (Nat.two_pow_pos _)
  have hpos :
      0 < (Nat.toDigits 10 (f.units n * 10 ^ f.least / 2 ^ f.least)).length :=
    Nat.length_toDigits_pos
  refine ⟨_, hpos, rfl, ?_, fun k hk h => ?_⟩
  · exact (hdiv _).mp
      ((Nat.length_toDigits_le_iff (by decide) hpos).mp (Nat.le_refl _))
  · exact (Nat.length_toDigits_le_iff (by decide) hk).mpr ((hdiv k).mpr h)

theorem onGrid_le {place : Int} {c : Nat} (h : f.onGrid n place = some c) :
    c ≤ f.units n * 10 ^ (-place).toNat /
      (10 ^ place.toNat * 2 ^ f.least) + 1 := by
  unfold onGrid at h
  dsimp only [Nat.pow_eq] at h
  split at h
  · injection h with h
    omega
  · split at h
    · injection h with h
      omega
    · cases h

/-- The digits on a grid are no more than the places from the first one to
the grid's. -/
theorem onGrid_le_pow {k c : Nat}
    (h : f.onGrid n (f.firstPlace n - k) = some c) :
    c ≤ 10 ^ (k + 1) := by
  have hle := f.onGrid_le h
  obtain ⟨len, -, hfirst, hunits, -⟩ := f.units_lt_firstPlace (n := n)
  generalize hplace : f.firstPlace n - k = place at hle
  have hsum : len + (-place).toNat = k + 1 + place.toNat + f.least := by omega
  have hlt : f.units n * 10 ^ (-place).toNat
      < 10 ^ (k + 1) * (10 ^ place.toNat * 2 ^ f.least) := by
    refine Nat.lt_of_mul_lt_mul_right (a := 10 ^ f.least) ?_
    calc f.units n * 10 ^ (-place).toNat * 10 ^ f.least
        = f.units n * 10 ^ f.least * 10 ^ (-place).toNat := by ring
      _ < 10 ^ len * 2 ^ f.least * 10 ^ (-place).toNat :=
        Nat.mul_lt_mul_of_pos_right hunits (by positivity)
      _ = 10 ^ (len + (-place).toNat) * 2 ^ f.least := by ring
      _ = 10 ^ (k + 1) * (10 ^ place.toNat * 2 ^ f.least) * 10 ^ f.least := by
          rw [hsum]; ring
  have := (Nat.div_lt_iff_lt_mul (by positivity)).mpr hlt
  omega

/-- The shortest decimal has at most as many digits as always suffice, and
its last place is not far from the first place of the magnitude. -/
theorem shortest_bounds (n : Nat) : (f.shortest n).digits ≤ 10 ^ f.mostDigits
    ∧ ((f.shortest n).digits ≠ 0 →
      f.firstPlace n - f.mostDigits ≤ (f.shortest n).exponent
      ∧ (f.shortest n).exponent ≤ f.firstPlace n + f.mostDigits) := by
  unfold shortest
  dsimp only
  split
  case h_1 d hfind =>
    rw [List.findSome?_map] at hfind
    obtain ⟨k, hk, hgrid⟩ := List.exists_of_findSome?_eq_some hfind
    dsimp only [Function.comp_apply] at hgrid
    obtain ⟨c, hc, rfl⟩ := Option.map_eq_some_iff.mp hgrid
    have hlt := List.mem_range.mp hk
    obtain ⟨hdigits, hlow, hhigh⟩ :=
      Decimal.trimmed_bounds f.mostDigits ⟨c, f.firstPlace n - k⟩
    have hpow : 10 ^ (k + 1) ≤ 10 ^ f.mostDigits :=
      Nat.pow_le_pow_right (by decide) hlt
    dsimp only at hdigits hlow hhigh
    exact ⟨hdigits.trans ((f.onGrid_le_pow hc).trans hpow),
      fun _ => ⟨by omega, by omega⟩⟩
  case h_2 => exact ⟨Nat.zero_le _, fun h => absurd rfl h⟩

/-- What reads back is at most half way to the next magnitude. -/
theorem le_of_readsAs {num den : Nat} (h : f.readsAs n num den = true) :
    2 * num ≤ (f.units n + f.units (n + 1)) * den := by
  unfold readsAs at h
  dsimp only at h
  split at h
  · rw [Bool.and_eq_true, decide_eq_true_eq, decide_eq_true_eq] at h
    exact h.2
  · rw [Bool.and_eq_true, decide_eq_true_eq, decide_eq_true_eq] at h
    exact Nat.le_of_lt h.2

theorem readsAs_of_onGrid {place : Int} {c : Nat}
    (h : f.onGrid n place = some c) :
    f.readsAs n (c * (10 ^ place.toNat * 2 ^ f.least)) (10 ^ (-place).toNat)
      = true := by
  unfold onGrid at h
  dsimp only [Nat.pow_eq] at h
  split at h
  case isTrue hbelow =>
    rw [Bool.and_eq_true] at hbelow
    obtain rfl := Option.some.inj h
    exact hbelow.1
  case isFalse =>
    split at h
    case isTrue habove =>
      obtain rfl := Option.some.inj h
      exact habove
    case isFalse => cases h

/-- The shortest decimal is at most half way to the next magnitude. -/
theorem shortest_halfOf (n : Nat) :
    (f.shortest n).HalfOf (2 ^ f.least) (f.units n + f.units (n + 1)) := by
  unfold shortest
  dsimp only
  split
  case h_1 d hfind =>
    rw [List.findSome?_map] at hfind
    obtain ⟨k, -, hgrid⟩ := List.exists_of_findSome?_eq_some hfind
    dsimp only [Function.comp_apply] at hgrid
    obtain ⟨c, hc, rfl⟩ := Option.map_eq_some_iff.mp hgrid
    apply Decimal.HalfOf.trimmed
    unfold Decimal.HalfOf
    dsimp only
    rw [Nat.mul_assoc]
    exact f.le_of_readsAs (f.readsAs_of_onGrid hc)
  case h_2 =>
    unfold Decimal.HalfOf
    dsimp only
    rw [Nat.zero_mul, Nat.zero_mul]
    exact Nat.zero_le _

/-- A finite magnitude is below the power of two after its last bit. -/
theorem units_lt (hcodes : 2 ≤ f.codes) (hn : n < f.infinity) :
    f.units n < 2 ^ (f.fraction + f.codes - 1) := by
  have hpos : 0 < 2 ^ f.fraction := Nat.two_pow_pos _
  have hpart : n % 2 ^ f.fraction < 2 ^ f.fraction := Nat.mod_lt _ hpos
  have hcode : n / 2 ^ f.fraction < f.codes :=
    (Nat.div_lt_iff_lt_mul hpos).mpr hn
  unfold units
  dsimp only [Nat.pow_eq]
  split
  · exact Nat.lt_of_lt_of_le hpart (Nat.pow_le_pow_right (by decide) (by omega))
  · calc (2 ^ f.fraction + n % 2 ^ f.fraction) * 2 ^ (n / 2 ^ f.fraction - 1)
        < (2 ^ f.fraction + 2 ^ f.fraction) * 2 ^ (n / 2 ^ f.fraction - 1) :=
          Nat.mul_lt_mul_of_pos_right (by omega) (Nat.two_pow_pos _)
      _ = 2 ^ (f.fraction + 1 + (n / 2 ^ f.fraction - 1)) := by ring
      _ ≤ 2 ^ (f.fraction + f.codes - 1) :=
          Nat.pow_le_pow_right (by decide) (by omega)

/-- The first digit of a finite magnitude stands between the place of the
least magnitude and a power of ten that is not finite. -/
theorem firstPlace_bounds (hcodes : 2 ≤ f.codes) (hleast : 0 < f.least)
    (hn : n < f.infinity) {k : Nat}
    (hk : 2 ^ (f.fraction + f.codes - 1) ≤ 10 ^ k * 2 ^ f.least) :
    -(f.least : Int) ≤ f.firstPlace n ∧ f.firstPlace n < k := by
  obtain ⟨len, hpos, hfirst, -, hlen⟩ := f.units_lt_firstPlace (n := n)
  have hle : len ≤ k + f.least := by
    apply hlen (k + f.least) (by omega)
    calc f.units n * 10 ^ f.least
      < 2 ^ (f.fraction + f.codes - 1) * 10 ^ f.least :=
          Nat.mul_lt_mul_of_pos_right (f.units_lt hcodes hn) (by positivity)
      _ ≤ 10 ^ k * 2 ^ f.least * 10 ^ f.least := Nat.mul_le_mul_right _ hk
      _ = 10 ^ (k + f.least) * 2 ^ f.least := by
          rw [pow_add, Nat.mul_right_comm]
  omega

/-- The last place of a shortest decimal is no further out than that and as
many digits as always suffice. -/
theorem shortest_exponent_bounds (hcodes : 2 ≤ f.codes) (hleast : 0 < f.least)
    (hn : n < f.infinity) {k : Nat}
    (hk : 2 ^ (f.fraction + f.codes - 1) ≤ 10 ^ k * 2 ^ f.least)
    (hdigits : (f.shortest n).digits ≠ 0) :
    -((f.least + f.mostDigits : Nat) : Int) ≤ (f.shortest n).exponent
      ∧ (f.shortest n).exponent < (k + f.mostDigits : Nat) := by
  obtain ⟨hlow, hhigh⟩ := f.firstPlace_bounds hcodes hleast hn hk
  have hplaces := (f.shortest_bounds n).2 hdigits
  omega

end Format

end Restoration.Binary
