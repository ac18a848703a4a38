/-
Numeric addresses. One of four bytes is written as up to four numbers,
decimal, octal or hexadecimal, of which the last one fills what the others
leave; one of eight groups is written in hexadecimal, with `::` for a run
of zeros and, if one likes, the last two groups as four decimal numbers.
Both have one common form.
-/
namespace Restoration.Url.Address

-- ============================================================ four bytes

/-- The value of a digit in any base up to sixteen. -/
def digitValue (c : Char) : Nat :=
  if '0' ≤ c && c ≤ '9' then c.toNat - '0'.toNat
  else if 'a' ≤ c && c ≤ 'f' then c.toNat - 'a'.toNat + 10
  else if 'A' ≤ c && c ≤ 'F' then c.toNat - 'A'.toNat + 10
  else 16

/-- A number in some base. -/
def readBase (base : Nat) (cs : List Char) : Option Nat :=
  if cs.all (digitValue · < base) then
    some (cs.foldl (fun n c => n * base + digitValue c) 0)
  else none

/-- A number; its first characters tell the base, and without digits after
them it is zero. -/
def readNumber : List Char → Option Nat
  | [] => none
  | '0' :: 'x' :: rest => readBase 16 rest
  | '0' :: 'X' :: rest => readBase 16 rest
  | '0' :: c :: rest => readBase 8 (c :: rest)
  | cs => readBase 10 cs

/-- Cuts characters at points, after `current`, the characters of the part
that is being read, last one first. -/
def partsFrom (current : List Char) : List Char → List (List Char)
  | [] => [current.reverse]
  | c :: rest =>
    if c = '.' then current.reverse :: partsFrom [] rest
    else partsFrom (c :: current) rest

/-- The parts between points. A point at the end does not count. -/
def parts (cs : List Char) : List (List Char) :=
  let all := partsFrom [] cs
  if all.getLast? = some [] then all.dropLast else all

/-- Whether a name can only be an address: its last part is a number. -/
def looksNumeric (cs : List Char) : Bool :=
  match (parts cs).getLast? with
  | none => false
  | some last =>
    (!last.isEmpty && last.all (digitValue · < 10)) || (readNumber last).isSome

/-- The address that a name is. -/
def readFour (cs : List Char) : Option UInt32 := do
  let ps := parts cs
  if 4 < ps.length then none
  else
    let numbers ← ps.mapM readNumber
    let last ← numbers.getLast?
    let others := numbers.dropLast
    if others.any (255 < ·) ∨ Nat.pow 256 (4 - others.length) ≤ last then none
    else
      let high := others.foldl (fun n b => n * 256 + b) 0
      some (UInt32.ofNat (high * Nat.pow 256 (4 - others.length) + last))

/-- The common form of an address of four bytes. -/
def writeFour (a : UInt32) : String :=
  let n := a.toNat
  s!"{n / 0x1000000}.{n / 0x10000 % 256}.{n / 256 % 256}.{n % 256}"

-- ========================================================== eight groups

/-- Groups that have been read, last one first, before a run of zeros and
after it, if there has been one. -/
structure Groups where
  before : List Nat
  after : Option (List Nat)

namespace Groups

/-- How many groups are taken; a run of zeros takes one at least. -/
def taken (g : Groups) : Nat :=
  match g.after with
  | none => g.before.length
  | some after => g.before.length + 1 + after.length

/-- One more group. -/
def add (g : Groups) (n : Nat) : Groups :=
  match g.after with
  | none => { g with before := n :: g.before }
  | some after => { g with after := some (n :: after) }

/-- All eight groups. -/
def all (g : Groups) : Option (List Nat) :=
  match g.after with
  | none => if g.before.length = 8 then some g.before.reverse else none
  | some after =>
    if g.taken ≤ 8 then
      some (g.before.reverse
        ++ List.replicate (8 - g.before.length - after.length) 0
        ++ after.reverse)
    else none

end Groups

/-- A decimal number below 256, without zeros before it. -/
def readByte (cs : List Char) : Option Nat :=
  match cs with
  | [] => none
  | '0' :: _ :: _ => none
  | _ =>
    match readBase 10 cs with
    | some n => if n < 256 then some n else none
    | none => none

/-- Two groups as four decimal numbers, which have to be the last. -/
def readDotted (g : Groups) (cs : List Char) : Option Groups :=
  match (partsFrom [] cs).mapM readByte with
  | some [a, b, c, d] =>
    if g.taken ≤ 6 then some ((g.add (a * 256 + b)).add (c * 256 + d)) else none
  | _ => none

/-- Whether a character is a hexadecimal digit. -/
def isHex (c : Char) : Bool := digitValue c < 16

/-- Reads the groups that follow others. -/
def readGroups (g : Groups) (cs : List Char) : Option Groups :=
  if cs.isEmpty then some g
  else if g.taken = 8 then none
  else
    let digits := (cs.take 4).takeWhile isHex
    let value := digits.foldl (fun n c => n * 16 + digitValue c) 0
    match _h : cs.drop digits.length with
    | [] => some (g.add value)
    | '.' :: _ => if digits.isEmpty then none else readDotted g cs
    | ':' :: rest =>
      if digits.isEmpty then
        if g.after.isSome then none
        else readGroups { g with after := some [] } rest
      else if rest.isEmpty then none
      else readGroups (g.add value) rest
    | _ => none
termination_by cs.length
decreasing_by
  all_goals
    have shorter := congrArg List.length _h
    simp only [List.length_drop, List.length_cons] at shorter
    omega

/-- The address that stands between square brackets. -/
def readEight (cs : List Char) : Option (List Nat) :=
  match cs with
  | ':' :: ':' :: rest => (readGroups ⟨[], some []⟩ rest).bind Groups.all
  | ':' :: _ => none
  | _ =>
    if cs.length < 2 then none else (readGroups ⟨[], none⟩ cs).bind Groups.all

/-- The first of the longest runs of zeros: where it starts, and how long
it is. -/
def longestZeros (groups : List Nat) : Nat × Nat :=
  (List.range groups.length).foldl
    (fun best start =>
      let length := ((groups.drop start).takeWhile (· = 0)).length
      if best.2 < length then (start, length) else best)
    (0, 0)

/-- Groups between colons. -/
def writeGroups (groups : List Nat) : String :=
  String.intercalate ":" (groups.map fun n => String.ofList (Nat.toDigits 16 n))

/-- The common form of an address of eight groups. -/
def writeEight (groups : List Nat) : String :=
  let (start, length) := longestZeros groups
  if length < 2 then writeGroups groups
  else writeGroups (groups.take start) ++ "::" ++
    writeGroups (groups.drop (start + length))

end Restoration.Url.Address
