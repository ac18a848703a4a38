/-
Binary floating point in exact arithmetic.

The magnitudes of a format are counted: 0 is zero, 1 the least positive
one, and so on up to infinity. The count of a magnitude is also its bit
pattern, so a number is a sign and a natural number. Every finite
magnitude is a whole multiple of the format's least one; `units` is that
multiple, and the whole of arithmetic is `nearest`, the count of the
magnitude nearest to a quotient of natural numbers. Nothing here is
approximate, and nothing rests on the machine's own floating point.
-/
namespace Restoration.Binary

-- ============================================================= formats

/-- A format is given by the width of its stored fraction, the (negated)
exponent of its least magnitude, and the number of exponent codes below
the one that stands for infinity. -/
structure Format where
  fraction : Nat
  least : Nat
  codes : Nat
  deriving DecidableEq, Repr

/-- Eight bytes: a fraction of 52 bits. -/
def double : Format := ⟨52, 1074, 2047⟩

/-- Four bytes: a fraction of 23 bits. -/
def single : Format := ⟨23, 149, 255⟩

namespace Format

variable (f : Format)

/-- The count of infinity: every smaller one is finite. -/
def infinity : Nat := f.codes * Nat.pow 2 f.fraction

/-- A magnitude as a multiple of the least one. In the first two exponent
codes neighbours are one least magnitude apart, and the distance doubles
from code to code. -/
def units (n : Nat) : Nat :=
  let code := n / Nat.pow 2 f.fraction
  let part := n % Nat.pow 2 f.fraction
  if code = 0 then part
  else (Nat.pow 2 f.fraction + part) * Nat.pow 2 (code - 1)

/-- The count of the magnitude nearest to `num / den`; of two equally near
the even one; infinity from half a step above the greatest finite one. -/
def nearest (num den : Nat) : Nat :=
  let scaled := num * Nat.pow 2 f.least
  let whole := scaled / den
  let shift := Nat.log2 whole - f.fraction
  let kept := whole / Nat.pow 2 shift
  let rest := scaled - kept * Nat.pow 2 shift * den
  let half := den * Nat.pow 2 shift
  let count := shift * Nat.pow 2 f.fraction + kept
  let up :=
    decide (half < 2 * rest) || (decide (2 * rest = half) && kept % 2 == 1)
  min f.infinity (if up then count + 1 else count)

/-- The product of two magnitudes, rounded. -/
def product (a b : Nat) : Nat :=
  if a ≥ f.infinity ∨ b ≥ f.infinity then f.infinity
  else f.nearest (f.units a * f.units b) (Nat.pow 2 f.least * Nat.pow 2 f.least)

/-- The quotient of two magnitudes, the second one positive and finite,
rounded. -/
def quotient (a b : Nat) : Nat :=
  if a ≥ f.infinity then f.infinity else f.nearest (f.units a) (f.units b)

/-- The magnitude nearest to `digits` times the power of ten `exponent`.
Far outside the format's range the answer is known without the power. -/
def ofDecimal (digits : Nat) (exponent : Int) : Nat :=
  if digits = 0 then 0
  else
    if exponent > f.least then f.infinity
    else if exponent + digits.log2 + 1 < -(f.least : Int) then 0
    else if exponent ≥ 0 then f.nearest (digits * Nat.pow 10 exponent.toNat) 1
    else f.nearest digits (Nat.pow 10 (-exponent).toNat)

end Format

-- ============================================================= numbers

/-- A finite number: a sign and the count of a finite magnitude. Zero has
both signs. -/
structure Finite (f : Format) where
  negative : Bool
  count : Nat
  isFinite : count < f.infinity
  deriving DecidableEq, Repr

/-- Any number of a format. -/
inductive Number (f : Format)
  | finite (x : Finite f)
  | infinite (negative : Bool)
  | undefined (negative : Bool)
  deriving DecidableEq, Repr

namespace Number

variable {f : Format}

/-- The number with a given sign whose magnitude has a given count. -/
def ofCount (negative : Bool) (count : Nat) : Number f :=
  if h : count < f.infinity then .finite ⟨negative, count, h⟩
  else .infinite negative

/-- The sign bit, above the exponent and the fraction. -/
def signBit (f : Format) : Nat := (f.codes + 1) * Nat.pow 2 f.fraction

/-- The bit pattern; the undefined number has the first bit of the
fraction set. -/
def bits : Number f → Nat
  | .finite x => (if x.negative then signBit f else 0) + x.count
  | .infinite negative => (if negative then signBit f else 0) + f.infinity
  | .undefined negative =>
    (if negative then signBit f else 0) + f.infinity + Nat.pow 2
      (f.fraction - 1)

end Number

end Restoration.Binary
