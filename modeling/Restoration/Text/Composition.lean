/-
The composed form of a text, in which texts that look alike are alike.
Every character is taken apart, marks on one letter are put in the order
of their classes, and what makes one character is put together again: a
letter takes up each mark that no other mark keeps from it.

Korean syllables are not tabulated. They are numbered, and what they are
made of can be counted out.
-/
import Restoration.Text.Composition.Table

namespace Restoration.Text

-- =============================================================== classes

/-- The class of a mark; letters have class zero. -/
def markClass (c : Char) : Nat :=
  match markClasses.find? fun (first, last, _) => first ≤ c.toNat &&
    c.toNat ≤ last with
  | some (_, _, n) => n
  | none => 0

-- ============================================================= syllables

/-- The first syllable. -/
def syllableBase : Nat := 0xAC00

/-- The number of syllables. -/
def syllableCount : Nat := 19 * 21 * 28

/-- The two parts of a syllable: a syllable without an end and an end, or a
start and a middle. -/
def splitSyllable? (n : Nat) : Option (Nat × Nat) :=
  if syllableBase ≤ n ∧ n < syllableBase + syllableCount then
    let k := n - syllableBase
    if k % 28 = 0 then some (0x1100 + k / (21 * 28), 0x1161 + k / 28 % 21)
    else some (syllableBase + k / 28 * 28, 0x11A7 + k % 28)
  else none

/-- The syllable that two parts make. -/
def joinSyllable? (a b : Nat) : Option Nat :=
  if 0x1100 ≤ a ∧ a < 0x1100 + 19 ∧ 0x1161 ≤ b ∧ b < 0x1161 + 21 then
    some (syllableBase + ((a - 0x1100) * 21 + (b - 0x1161)) * 28)
  else if syllableBase ≤ a ∧ a < syllableBase + syllableCount ∧
    (a - syllableBase) % 28 = 0 ∧
      0x11A7 < b ∧ b < 0x11A7 + 28 then
    some (a + (b - 0x11A7))
  else none

-- ================================================================= pairs

/-- The two characters that make one. -/
def split? (c : Char) : Option (Char × Char) :=
  let found :=
    match splitSyllable? c.toNat with
    | some parts => some parts
    | none =>
      (pairs.find? fun (pair : Nat × Nat × Nat) => pair.1 == c.toNat).map
        Prod.snd
  found.map fun (a, b) => (Char.ofNat a, Char.ofNat b)

/-- The character that two make. -/
def join? (a b : Char) : Option Char :=
  let found :=
    match joinSyllable? a.toNat b.toNat with
    | some whole => some whole
    | none =>
      (pairs.find? fun (pair : Nat × Nat × Nat) => pair.2.1 == a.toNat &&
        pair.2.2 == b.toNat).map Prod.fst
  found.map Char.ofNat

/-- No character is made of parts of parts deeper than this. -/
def partsDepth : Nat := 5

/-- The parts of a character, taken apart so many times. -/
def parts : Nat → Char → List Char
  | 0, c => [c]
  | depth + 1, c =>
    match split? c with
    | some (a, b) => parts depth a ++ parts depth b
    | none => [c]

-- ================================================================= order

/-- Marks in the order of their classes. -/
def sortMarks (marks : List Char) : List Char :=
  marks.mergeSort fun a b => markClass a ≤ markClass b

/-- Characters with their marks in order; `pending` holds the marks since
the last letter, last one first. -/
def orderMarks (pending : List Char) : List Char → List Char
  | [] => sortMarks pending.reverse
  | c :: rest =>
    if markClass c = 0 then sortMarks pending.reverse ++ c :: orderMarks [] rest
    else orderMarks (c :: pending) rest

-- =========================================================== composition

/-- Whether the marks that stay on a letter, last one first, keep the next
character from it. -/
def isKept (marks : List Char) (c : Char) : Bool :=
  match marks with
  | [] => false
  | m :: _ => markClass c ≤ markClass m

/-- Puts together what follows a letter and the marks that stay on it. -/
def composeOn (letter : Char) (marks : List Char) : List Char → List Char
  | [] => letter :: marks.reverse
  | c :: rest =>
    match if isKept marks c then none else join? letter c with
    | some whole => composeOn whole marks rest
    | none =>
      if markClass c = 0 then letter :: marks.reverse ++ composeOn c [] rest
      else composeOn letter (c :: marks) rest

/-- Puts characters together. -/
def putTogether : List Char → List Char
  | [] => []
  | c :: rest =>
    if markClass c = 0 then composeOn c [] rest else c :: putTogether rest

/-- The composed form of a text. ASCII is composed as it is. -/
def composed (cs : List Char) : List Char :=
  if cs.all (·.toNat < 128) then cs
  else putTogether (orderMarks [] (cs.flatMap (parts partsDepth)))

end Restoration.Text
