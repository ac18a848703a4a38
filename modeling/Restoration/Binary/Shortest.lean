/-
The decimal text of a binary number: the fewest digits that still read
back as the same number, and of those the nearest to it.

A number is read back from exactly the decimals in an interval around it,
which ends half way to its two neighbours; the ends belong to the number
with the even count. For one digit, two digits and so on, the two points
of that decimal grid next to the number are tried: if any point of a grid
lies in the interval, one of these two does.
-/
import Restoration.Binary.Format

namespace Restoration.Binary

-- ============================================================ intervals

/-- Whether the decimal `num / den`, counted in least magnitudes, reads
back as the magnitude `n`. -/
def Format.readsAs (f : Format) (n num den : Nat) : Bool :=
  let low := f.units (n - 1) + f.units n
  let high := f.units n + f.units (n + 1)
  if n % 2 = 0 then low * den ≤ 2 * num && 2 * num ≤ high * den
  else low * den < 2 * num && 2 * num < high * den

-- =============================================================== digits

/-- A decimal: `digits` times ten to the power `exponent`. -/
structure Decimal where
  digits : Nat
  exponent : Int
  deriving DecidableEq, Repr

/-- Drops the zeros at the end of the digits, `fuel` of them at most. -/
def Decimal.trimmed : Nat → Decimal → Decimal
  | 0, d => d
  | fuel + 1, d =>
    if d.digits % 10 = 0 ∧ d.digits ≠ 0 then
      Decimal.trimmed fuel ⟨d.digits / 10, d.exponent + 1⟩
    else d

/-- The decimal exponent of the first digit of a positive magnitude. Ten
to the power of `f.least` lifts every positive magnitude above one. -/
def Format.firstPlace (f : Format) (n : Nat) : Int :=
  ((Nat.toDigits 10
    (f.units n * Nat.pow 10 f.least / Nat.pow 2 f.least)).length : Int)
    - 1 - f.least

/-- The number of digits that always suffice. -/
def Format.mostDigits (f : Format) : Nat := f.fraction * 3 / 10 + 3

/-- The better of the two points next to magnitude `n` on the grid of
decimals whose last digit has the given place, if one of them reads back:
the nearer one, and the even one of two equally near. -/
def Format.onGrid (f : Format) (n : Nat) (place : Int) : Option Nat :=
  -- the magnitude is `num / den` grid steps, a step `step / 2 ^ f.least /
  -- scale` long
  let scale := Nat.pow 10 (-place).toNat
  let step := Nat.pow 10 place.toNat * Nat.pow 2 f.least
  let num := f.units n * scale
  let below := num / step
  let rest := num % step
  let fits := fun (c : Nat) => f.readsAs n (c * step) scale
  if fits below &&
      (!fits (below + 1) || 2 * rest < step ||
        (2 * rest == step && below % 2 == 0)) then
    some below
  else if fits (below + 1) then some (below + 1)
  else none

/-- The shortest decimal that reads back as the positive magnitude `n`. -/
def Format.shortest (f : Format) (n : Nat) : Decimal :=
  let first := f.firstPlace n
  let grids := (List.range f.mostDigits).map fun (k : Nat) => first - (k : Int)
  match grids.findSome? fun place => (f.onGrid n place).map fun c =>
    Decimal.mk c place with
  | some d => d.trimmed f.mostDigits
  | none => ⟨0, 0⟩

-- =============================================================== layout

/-- How a decimal is laid out: the places of the first digit for which no
power of ten is written. -/
structure Layout where
  lowest : Int
  highest : Int
  deriving DecidableEq, Repr

/-- Lays out a decimal. Without a power there is always a point, with a
digit on either side of it; with one, the sign of the power is written and
a point only between digits. -/
def Layout.write (l : Layout) (d : Decimal) : List Char :=
  let digits := Nat.toDigits 10 d.digits
  let first : Int := d.exponent + digits.length - 1
  if d.digits = 0 then ['0', '.', '0']
  else if first < l.lowest ∨ l.highest < first then
    let mantissa :=
      match digits with
      | [] => []
      | [c] => [c]
      | c :: rest => c :: '.' :: rest
    mantissa ++ 'e' :: (if first < 0 then '-' else '+') ::
      Nat.toDigits 10 first.natAbs
  else if first < 0 then
    ['0', '.'] ++ List.replicate (first.natAbs - 1) '0' ++ digits
  else
    let whole := first.toNat + 1
    let padded := digits ++ List.replicate (whole - digits.length) '0'
    let part := padded.drop whole
    padded.take whole ++ '.' :: (if part.isEmpty then ['0'] else part)

/-- The text of a finite number. -/
def Finite.write {f : Format} (l : Layout) (x : Finite f) : String :=
  let body := if x.count = 0 then ['0', '.', '0']
    else l.write (f.shortest x.count)
  String.ofList (if x.negative then '-' :: body else body)

end Restoration.Binary
