/-
Lower-casing a text. Most characters have a form of their own whatever
stands around them. Two do not: the capital I with a dot becomes two
characters, and a capital sigma becomes the final sigma where a letter
stands before it and none after it, characters such as marks and
apostrophes not counted. So the lower-case form of a part of a text need
not be a part of its lower-case form.
-/
import Restoration.Text.Case.Table

namespace Restoration.Text

-- =========================================================== characters

/-- The small letter in a run of capitals, if the code point is in it. -/
def smallIn (n : Nat) (run : Nat × Nat × Nat × Int) : Option Nat :=
  let (first, last, step, distance) := run
  if first ≤ n ∧ n ≤ last ∧ (n - first) % step = 0 then
    some ((n : Int) + distance).toNat
  else none

/-- The lower-case form of a character by itself. -/
def lowerChar (c : Char) : List Char :=
  if c.toNat = 0x130 then ['i', Char.ofNat 0x307]
  else
    match capitals.findSome? (smallIn c.toNat) with
    | some n => [Char.ofNat n]
    | none => [c]

-- ================================================================ texts

/-- Whether the nearest character that counts is a letter with case. -/
def meetsLetter (cs : List Char) : Bool :=
  match cs.dropWhile caseIgnorable.has with
  | [] => false
  | c :: _ => cased.has c

/-- The lower-case form of a character that stands after `before`, nearest
first, and before `rest`. -/
def lowerBetween (before : List Char) (c : Char)
    (rest : List Char) : List Char :=
  if c.toNat = 0x3A3 then
    if meetsLetter before && !meetsLetter rest then [Char.ofNat 0x3C2]
    else [Char.ofNat 0x3C3]
  else lowerChar c

/-- The lower-case form of the characters after `before`, nearest first. -/
def lowerFrom (before : List Char) : List Char → List Char
  | [] => []
  | c :: rest => lowerBetween before c rest ++ lowerFrom (c :: before) rest

/-- The lower-case form of a text. -/
def lower (s : String) : String := String.ofList (lowerFrom [] s.toList)

end Restoration.Text
