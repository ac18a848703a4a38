/-
Names of hosts. A name is prepared character by character, composed, and
cut at its points into labels; a label that is not ASCII is written in
ASCII behind `xn--`. A label that comes in that form has to be the form of
something that could have been written plainly.

Some labels would not be read as they are written, and are refused: one
that starts with a mark, one with a joiner where nothing joins, and, in a
name with letters of both directions, one whose directions do not go
together.
-/
import Restoration.Text.Composition
import Restoration.Text.Direction
import Restoration.Text.Joining
import Restoration.Url.Fault
import Restoration.Url.Name.Table
import Restoration.Url.Punycode

namespace Restoration.Url.Name

open Text (Direction direction)
open Punycode (isAscii)

-- ========================================================== preparation

/-- The ASCII characters that cannot stand in a name. -/
def isForbidden (c : Char) : Bool :=
  c.toNat ≤ 0x20 || c.toNat = 0x7F || "%#/:<>?@[\\]^|".toList.contains c

/-- The small letter of an ASCII capital. -/
def lowerAscii (c : Char) : Char :=
  if 'A' ≤ c && c ≤ 'Z' then Char.ofNat (c.toNat + 32) else c

/-- The common form of a character, if it can stand in a name. -/
def prepareChar (c : Char) : Option (List Char) :=
  if isAscii c then some [lowerAscii c]
  else if excluded.has c then none
  else if dropped.has c then some []
  else
    match shifts.findSome? (·.image? c.toNat) with
    | some n => some [Char.ofNat n]
    | none =>
      match expansions.lookup c.toNat with
      | some ns => some (ns.map Char.ofNat)
      | none => some [c]

/-- The common form of characters. -/
def prepare (cs : List Char) : Option (List Char) := do
  let prepared ← cs.mapM prepareChar
  let composed := Text.composed prepared.flatten
  if composed.any isForbidden then none else some composed

-- ============================================================== joiners

/-- The class of the marks that take the vowel from a letter. -/
def vowelless : Nat := 9

/-- Whether the nearest letter joins, marks not counted. -/
def meets (joining : List Text.Ranges) : List Char → Bool
  | [] => false
  | c :: rest =>
    if joining.any (·.has c) then true
    else if Text.joinsThrough.has c then meets joining rest
    else false

/-- Whether a joiner may stand after `before`, nearest first, and before
`rest`. -/
def joinerFits (joiner : Char) (before rest : List Char) : Bool :=
  match before with
  | [] => false
  | c :: _ =>
    if Text.markClass c = vowelless then true
    else if joiner.toNat = 0x200D then false
    else meets [Text.joinsLeft, Text.joinsBoth] before &&
      meets [Text.joinsRight, Text.joinsBoth] rest

/-- Whether every joiner after `before`, nearest first, stands where it
may. -/
def joinersFit (before : List Char) : List Char → Bool
  | [] => true
  | c :: rest =>
    (if c.toNat = 0x200C || c.toNat = 0x200D then joinerFits c before rest
      else true) && joinersFit (c :: before) rest

-- ============================================================ directions

/-- Whether a label makes its name one of both directions. -/
def goesRight (label : List Char) : Bool :=
  label.any fun c =>
    match direction c with
    | .right | .arabic | .arabicNumber => true
    | _ => false

/-- What may stand in a label from left to right. -/
def inLeftLabel : Direction → Bool
  | .left | .europeanNumber | .europeanSeparator | .commonSeparator |
    .europeanTerminator
  | .neutral | .boundary | .mark => true
  | _ => false

/-- What may stand in a label from right to left. -/
def inRightLabel : Direction → Bool
  | .left => false
  | _ => true

/-- Whether the directions in a label go together. -/
def directionsFit (label : List Char) : Bool :=
  let ds := label.map direction
  match ds, (ds.reverse.dropWhile (· == .mark)).head? with
  | [], _ => true
  | .left :: _, last =>
    ds.all inLeftLabel && (last == some .left || last == some .europeanNumber)
  | d :: _, last =>
    (d == .right || d == .arabic) && ds.all inRightLabel &&
      (last == some .right || last == some .arabic ||
        last == some .europeanNumber || last == some .arabicNumber) &&
      !(ds.contains .europeanNumber && ds.contains .arabicNumber)

-- =============================================================== labels

/-- A label as it is read and as it is written in ASCII. -/
structure Label where
  read : List Char
  written : List Char
  deriving DecidableEq, Repr

/-- Whether a label can be read as it is written. -/
def isReadable (label : List Char) : Bool :=
  (match label with
    | [] => true
    | c :: _ => !Text.marks.has c) &&
  joinersFit [] label

/-- The mark of a label in ASCII form. -/
def asciiMark : List Char := ['x', 'n', '-', '-']

/-- The longest label that is written in ASCII form. -/
def longestRead : Nat := 1000

/-- The longest ASCII form that is read. -/
def longestWritten : Nat := 2000

/-- The label of an ASCII form, without its mark. -/
def readLabel (form : List Char) : Option (List Char) :=
  if form.getLast? = none ∨ form.getLast? = some '-' ∨
      longestWritten < form.length then none
  else do
    let label ← Punycode.decode form
    if label.all isAscii ∨ label.contains '.' ∨ prepare label ≠ some label ∨
        ¬ isReadable label then none
    else some label

/-- A label from its prepared characters. -/
def labelOf (cs : List Char) : Option Label :=
  if cs.take 4 = asciiMark then
    if cs.all isAscii then (readLabel (cs.drop 4)).map fun label => ⟨label, cs⟩
    else none
  else if cs.all isAscii then some ⟨cs, cs⟩
  else if longestRead < cs.length ∨ ¬ isReadable cs then none
  else some ⟨cs, asciiMark ++ Punycode.encode cs⟩

/-- Cuts characters at points, after `current`, the characters of the label
that is being read, last one first. -/
def labelsFrom (current : List Char) : List Char → List (List Char)
  | [] => [current.reverse]
  | c :: rest =>
    if c = '.' then current.reverse :: labelsFrom [] rest
    else labelsFrom (c :: current) rest

/-- The name in ASCII. -/
def toAscii (cs : List Char) : Except Fault (List Char) :=
  let labels := do
    let prepared ← prepare cs
    (labelsFrom [] prepared).mapM labelOf
  match labels with
  | none => .error .invalidName
  | some labels =>
    if labels.any (goesRight ·.read) && !labels.all (directionsFit ·.read) then
      .error .invalidName
    else .ok (List.intercalate ['.'] (labels.map Label.written))

end Restoration.Url.Name
