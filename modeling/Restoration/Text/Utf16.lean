/-
The lossy reading of byte strings as UTF-16, with either byte of a unit
first. As in the reading of UTF-8, whatever is no character becomes the
replacement character: a surrogate without its partner, and what is left
where the bytes end inside a unit or a pair.
-/
import Restoration.Text.Utf8

namespace Restoration.Utf16

/-- Which byte of a unit comes first. -/
inductive Order
  | highFirst
  | lowFirst
  deriving DecidableEq, Repr

/-- The unit that two bytes make. -/
def unit (order : Order) (a b : UInt8) : Nat :=
  match order with
  | .highFirst => a.toNat * 256 + b.toNat
  | .lowFirst => b.toNat * 256 + a.toNat

/-- Whether a unit is the first half of a pair. -/
def isHigh (u : Nat) : Bool := 0xD800 ≤ u && u < 0xDC00

/-- Whether a unit is the second half of a pair. -/
def isLow (u : Nat) : Bool := 0xDC00 ≤ u && u < 0xE000

/-- The character that a pair stands for. -/
def pair (high low : Nat) : Char :=
  Char.ofNat (0x10000 + (high - 0xD800) * 0x400 + (low - 0xDC00))

/-- The characters of a byte string, put before those found so far; `high`
is the first half of a pair that waits for the second. -/
def charsOnto (order : Order) (found : List Char) :
    (high : Option Nat) → Bytes → List Char
  | none, [] => found.reverse
  | some _, [] => (Utf8.replacement :: found).reverse
  | _, [_] => (Utf8.replacement :: found).reverse
  | high, a :: b :: rest =>
    let u := unit order a b
    match high with
    | some h =>
      if isLow u then charsOnto order (pair h u :: found) none rest
      else if isHigh u then
        charsOnto order (Utf8.replacement :: found) (some u) rest
      else charsOnto order (Char.ofNat u :: Utf8.replacement :: found) none rest
    | none =>
      if isHigh u then charsOnto order found (some u) rest
      else if isLow u then charsOnto order (Utf8.replacement :: found) none rest
      else charsOnto order (Char.ofNat u :: found) none rest

/-- Lossy reading. -/
def lossy (order : Order) (b : Bytes) : String :=
  String.ofList (charsOnto order [] none b)

end Restoration.Utf16
