/-
Reading a floating-point setting: an optional sign, then `inf`, `infinity`
or `nan` in any letter case, or digits with an optional point and an
optional power of ten. Digits are ASCII digits, at least one of them
before or after the point, and nothing may stand around the literal. The
value is the nearest number of the format.
-/
import Restoration.Binary.Format

namespace Restoration.Binary

-- ============================================================== digits

/-- Whether a character is one of the ten ASCII digits. -/
def isDigit (c : Char) : Bool := '0' ≤ c && c ≤ '9'

/-- The value of a digit. -/
def digitValue (c : Char) : Nat := c.toNat - '0'.toNat

/-- The value of a run of digits that continues `value`. -/
def digitsFrom (value : Nat) (cs : List Char) : Nat :=
  cs.foldl (fun v c => v * 10 + digitValue c) value

/-- A power of ten stops growing once it has passed the reach of every
format; the digits that follow no longer count. -/
def powerFrom (power : Nat) (cs : List Char) : Nat :=
  cs.foldl (fun p c => if p < 0x10000 then p * 10 + digitValue c else p) power

-- ============================================================= literals

/-- The power of ten at the end of a literal: nothing, or `e` with an
optional sign and at least one digit. -/
def readPower : List Char → Option Int
  | [] => some 0
  | c :: rest =>
    if c = 'e' ∨ c = 'E' then
      let (down, digits) :=
        match rest with
        | '-' :: r => (true, r)
        | '+' :: r => (false, r)
        | r => (false, r)
      if digits.isEmpty ∨ ¬ digits.all isDigit then none
      else
        let power : Int := powerFrom 0 digits
        some (if down then -power else power)
    else none

/-- The digits of an unsigned literal as one number, and its power of ten. -/
def readDecimal (cs : List Char) : Option (Nat × Int) :=
  let whole := cs.takeWhile isDigit
  let rest := cs.dropWhile isDigit
  let (part, rest) :=
    match rest with
    | '.' :: r => (r.takeWhile isDigit, r.dropWhile isDigit)
    | r => ([], r)
  if whole.isEmpty && part.isEmpty then none
  else (readPower rest).map fun power =>
    (digitsFrom (digitsFrom 0 whole) part, power - part.length)

/-- The lower-case form of an ASCII letter. -/
def lowerAscii (c : Char) : Char :=
  if 'A' ≤ c && c ≤ 'Z' then Char.ofNat (c.toNat + 32) else c

/-- An unsigned literal with the sign it was given. -/
def readUnsigned (f : Format) (negative : Bool)
    (cs : List Char) : Option (Number f) :=
  match readDecimal cs with
  | some (digits, power) => some (.ofCount negative (f.ofDecimal digits power))
  | none =>
    let word := String.ofList (cs.map lowerAscii)
    if word = "inf" ∨ word = "infinity" then some (.infinite negative)
    else if word = "nan" then some (.undefined negative)
    else none

/-- Reads a literal of the format. -/
def read (f : Format) (s : String) : Option (Number f) :=
  match s.toList with
  | '-' :: rest => readUnsigned f true rest
  | '+' :: rest => readUnsigned f false rest
  | cs => readUnsigned f false cs

end Restoration.Binary
