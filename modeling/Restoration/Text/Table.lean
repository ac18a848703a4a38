/-
Tables of characters as rows of words. A word names a code point or a
range of code points in hexadecimal digits, `41` or `41-5a`, of which
`/2` takes every second one; what it goes to follows an equals sign.
-/
import Restoration.Text.Ranges

namespace Restoration.Text

-- ================================================================ words

/-- The value of hexadecimal digits. -/
def readHex (s : String) : Nat :=
  s.toList.foldl
    (fun n c => n * 16 + (if '0' ≤ c && c ≤ '9' then c.toNat - '0'.toNat
      else c.toNat - 'a'.toNat + 10)) 0

/-- The value of decimal digits. -/
def readDecimals (s : String) : Nat :=
  s.toList.foldl (fun n c => n * 10 + (c.toNat - '0'.toNat)) 0

/-- The words of rows. -/
def rowWords (rows : List String) : List String :=
  rows.flatMap fun row => row.splitOn " "

/-- The two sides of an equals sign. -/
def sides (word : String) : String × String :=
  match word.splitOn "=" with
  | [left, right] => (left, right)
  | _ => (word, "")

/-- A range of code points. -/
def readRange (word : String) : Nat × Nat :=
  match word.splitOn "-" with
  | [first, last] => (readHex first, readHex last)
  | _ => (readHex word, readHex word)

-- =============================================================== tables

/-- A table of ranges. -/
def readRanges (rows : List String) : Ranges := (rowWords rows).map readRange

/-- A table of ranges with a class each. -/
def readClasses (rows : List String) : List (Nat × Nat × Nat) :=
  (rowWords rows).map fun word =>
    let (range, number) := sides word
    let (first, last) := readRange range
    (first, last, readDecimals number)

/-- A table of code points that two others make: the whole, then the two. -/
def readPairs (rows : List String) : List (Nat × Nat × Nat) :=
  (rowWords rows).map fun word =>
    let (whole, parts) := sides word
    match parts.splitOn "+" with
    | [a, b] => (readHex whole, readHex a, readHex b)
    | _ => (0, 0, 0)

/-- Code points that go to others the same distance away: every `step`-th
one from `first` to `last`, where `first` goes to `image`. -/
structure Shift where
  first : Nat
  last : Nat
  step : Nat
  image : Nat

/-- What a code point goes to. -/
def Shift.image? (s : Shift) (n : Nat) : Option Nat :=
  if s.first ≤ n ∧ n ≤ s.last ∧ (n - s.first) % s.step = 0 then
    some (s.image + (n - s.first))
  else none

/-- A table of shifts. -/
def readShifts (rows : List String) : List Shift :=
  (rowWords rows).map fun word =>
    let (range, image) := sides word
    match range.splitOn "/" with
    | [range, step] =>
      let (first, last) := readRange range
      ⟨first, last, readDecimals step, readHex image⟩
    | _ =>
      let (first, last) := readRange range
      ⟨first, last, 1, readHex image⟩

/-- A table of code points that go to several others. -/
def readExpansions (rows : List String) : List (Nat × List Nat) :=
  (rowWords rows).map fun word =>
    let (code, images) := sides word
    (readHex code, (images.splitOn "+").map readHex)

end Restoration.Text
