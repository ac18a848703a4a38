/-
Numerals, one byte at a time. The digits are gathered in a significand of
64 bits. An integer that fits is kept as it stands; all else becomes a
double, and there digits that no longer fit count only as places.

The double is the significand, rounded, then multiplied or divided by the
rounded power of ten. It is not always the double nearest to the numeral:
the power is rounded before it is used, and below the 308th power the
division is made in steps.
-/
import Restoration.Json.Fault
import Restoration.Json.Value

namespace Restoration.Json

open Binary

-- ============================================================= doubles

/-- The greatest significand. -/
def widest : Nat := 0xFFFFFFFFFFFFFFFF

/-- The greatest power of ten that is a finite double. -/
def greatestPower : Nat := 308

/-- A magnitude times a power of ten; nothing when it is out of range. -/
def scaled (count : Nat) (exponent : Int) : Option Nat :=
  if exponent.natAbs ≤ greatestPower then
    if exponent ≥ 0 then
      let product :=
        double.product count (double.nearest (Nat.pow 10 exponent.toNat) 1)
      if product < double.infinity then some product else none
    else some
      (double.quotient count (double.nearest (Nat.pow 10 exponent.natAbs) 1))
  else if count = 0 then some 0
  else if exponent ≥ 0 then none
  else scaled
    (double.quotient count (double.nearest (Nat.pow 10 greatestPower) 1))
    (exponent + greatestPower)
termination_by exponent.natAbs
decreasing_by all_goals simp only [greatestPower] at *; omega

/-- The double of a significand and a power of ten. -/
def toDouble (negative : Bool) (significand : Nat)
    (exponent : Int) : Except Cause Number :=
  match scaled (double.nearest significand 1) exponent with
  | some count =>
    if h : count < double.infinity then .ok (.float ⟨negative, count, h⟩)
    else .error .numberOutOfRange
  | none => .error .numberOutOfRange

/-- The number of a numeral without point or power. A negative one that
does not fit, and minus zero, are doubles. -/
def toInteger (negative : Bool) (significand : Nat) : Except Cause Number :=
  let value : Int := if negative then -significand else significand
  if h : fits value = true then
    if negative ∧ significand = 0 then toDouble negative significand 0
    else .ok (.integer value h)
  else toDouble negative significand 0

-- ============================================================ numerals

/-- How much of a numeral has been read. -/
inductive Numeral
  /-- A minus sign. -/
  | minus
  /-- A leading zero, after which no digit may come. -/
  | zero (negative : Bool)
  /-- Digits that fit. -/
  | digits (negative : Bool) (significand : Nat)
  /-- Digits of which the last `places` did not fit. -/
  | long (negative : Bool) (significand places : Nat)
  /-- A point: whether a digit came after it, and whether the digits that
  come now no longer fit. -/
  | point (negative : Bool) (significand : Nat) (exponent : Int)
      (any full : Bool)
  /-- The mark of a power. -/
  | mark (negative : Bool) (significand : Nat) (exponent : Int)
  /-- The mark of a power and its sign. -/
  | signed (negative : Bool) (significand : Nat) (exponent : Int) (down : Bool)
  /-- Digits of a power. -/
  | power (negative : Bool) (significand : Nat) (exponent : Int) (down : Bool)
      (value : Nat)
  /-- A power beyond all bounds that leaves zero; its other digits do not
  count. -/
  | vanished (negative : Bool)
  deriving DecidableEq, Repr

namespace Numeral

/-- The value of a digit. -/
def digit? (b : UInt8) : Option Nat :=
  if 0x30 ≤ b && b ≤ 0x39 then some (b.toNat - 0x30) else none

/-- Whether a byte marks a power of ten. -/
def isMark (b : UInt8) : Bool := b == 0x65 || b == 0x45

/-- The greatest power that is counted. -/
def greatestExponent : Nat := 0x7FFFFFFF

/-- Takes a byte: the numeral goes on, or it ends before the byte
(`none`), or the byte is refused. -/
def step (n : Numeral) (b : UInt8) : Except Cause (Option Numeral) :=
  match n with
  | .minus =>
    match digit? b with
    | some 0 => .ok (some (.zero true))
    | some d => .ok (some (.digits true d))
    | none => .error .invalidNumber
  | .zero neg =>
    if (digit? b).isSome then .error .invalidNumber
    else if b = 0x2E then .ok (some (.point neg 0 0 false false))
    else if isMark b then .ok (some (.mark neg 0 0))
    else .ok none
  | .digits neg sig =>
    match digit? b with
    | some d =>
      if sig * 10 + d ≤ widest then .ok (some (.digits neg (sig * 10 + d)))
      else .ok (some (.long neg sig 1))
    | none =>
      if b = 0x2E then .ok (some (.point neg sig 0 false false))
      else if isMark b then .ok (some (.mark neg sig 0))
      else .ok none
  | .long neg sig places =>
    if (digit? b).isSome then .ok (some (.long neg sig (places + 1)))
    else if b = 0x2E then .ok (some (.point neg sig places false false))
    else if isMark b then .ok (some (.mark neg sig places))
    else .ok none
  | .point neg sig exp any full =>
    match digit? b with
    | some d =>
      if full then .ok (some (.point neg sig exp true true))
      else if sig * 10 + d ≤ widest then
        .ok (some (.point neg (sig * 10 + d) (exp - 1) true false))
      else .ok (some (.point neg sig exp true true))
    | none =>
      if ¬ any then .error .invalidNumber
      else if isMark b then .ok (some (.mark neg sig exp))
      else .ok none
  | .mark neg sig exp =>
    if b = 0x2B then .ok (some (.signed neg sig exp false))
    else if b = 0x2D then .ok (some (.signed neg sig exp true))
    else
      match digit? b with
      | some d => .ok (some (.power neg sig exp false d))
      | none => .error .invalidNumber
  | .signed neg sig exp down =>
    match digit? b with
    | some d => .ok (some (.power neg sig exp down d))
    | none => .error .invalidNumber
  | .power neg sig exp down value =>
    match digit? b with
    | some d =>
      if value * 10 + d ≤ greatestExponent then
        .ok (some (.power neg sig exp down (value * 10 + d)))
      else if sig ≠ 0 ∧ ¬ down then .error .numberOutOfRange
      else .ok (some (.vanished neg))
    | none => .ok none
  | .vanished neg =>
    if (digit? b).isSome then .ok (some (.vanished neg)) else .ok none

/-- The number of a numeral that has come to its end; nothing when it may
not end here. -/
def finish? : Numeral → Option (Except Cause Number)
  | .zero neg => some (toInteger neg 0)
  | .digits neg sig => some (toInteger neg sig)
  | .long neg sig places => some (toDouble neg sig places)
  | .point neg sig exp any _ =>
    if any then some (toDouble neg sig exp) else none
  | .power neg sig exp down value =>
    some (toDouble neg sig (if down then exp - value else exp + value))
  | .vanished neg => some (toDouble neg 0 0)
  | .minus => none
  | .mark .. => none
  | .signed .. => none

end Numeral

end Restoration.Json
