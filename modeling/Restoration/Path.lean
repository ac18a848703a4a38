/-
Paths as they are written: byte strings in which slashes separate names.
What a path names is not looked at here. Joining puts a path below another
one, unless it starts at the root; making a path absolute starts it at the
working directory, and drops repeated slashes and `.` but neither `..` nor
a slash at the end, since both can matter where links stand.
-/
import Restoration.Text.Utf8

namespace Restoration

/-- A path as it is written. -/
structure Path where
  bytes : Bytes
  deriving DecidableEq, Repr

namespace Path

/-- The byte that separates names. -/
def slash : UInt8 := 0x2F

/-- The name of the directory that a path has reached. -/
def dot : Bytes := [0x2E]

/-- The name of the directory above the one that a path has reached. -/
def dots : Bytes := [0x2E, 0x2E]

/-- The path that a text spells. -/
def ofString (s : String) : Path := ⟨Utf8.encode s⟩

/-- A path in a message. -/
def display (p : Path) : String := Utf8.lossy p.bytes

/-- Whether a path starts at the root. -/
def isAbsolute (p : Path) : Bool := p.bytes.head? == some slash

/-- Whether a path ends in a slash. -/
def endsInSlash (p : Path) : Bool := p.bytes.getLast? == some slash

-- =============================================================== names

/-- Cuts bytes at a separator, after `current`, the bytes of the part that
is being read, last one first. -/
def splitFrom (separator : UInt8) (current : Bytes) : Bytes → List Bytes
  | [] => [current.reverse]
  | b :: rest =>
    if b = separator then current.reverse :: splitFrom separator [] rest
    else splitFrom separator (b :: current) rest

/-- The parts between separators; there is one more than separators. -/
def split (separator : UInt8) (b : Bytes) : List Bytes :=
  splitFrom separator [] b

/-- The names along a path; repeated slashes count as one. -/
def names (p : Path) : List Bytes := (split slash p.bytes).filter (· ≠ [])

/-- The last name of a path that says what it names. A `.` at the end is
passed over; after `..`, and without any name, there is none. -/
def fileName (p : Path) : Option Bytes :=
  match (p.names.filter (· ≠ dot)).getLast? with
  | some name => if name = dots then none else some name
  | none => none

-- ============================================================== joining

/-- A path below another one. A path that starts at the root stays as it
is; otherwise one slash stands between the two. -/
def join (p q : Path) : Path :=
  if q.isAbsolute then q
  else if p.bytes = [] ∨ p.endsInSlash then ⟨p.bytes ++ q.bytes⟩
  else ⟨p.bytes ++ slash :: q.bytes⟩

/-- Names below a path. -/
def joinNames (p : Path) (names : List Bytes) : Path :=
  names.foldl (fun p name => p.join ⟨name⟩) p

/-- A path that starts at the root. The empty path has no such form, and
other paths that do not start there have one as long as the working
directory has. -/
def absolute (workingDirectory : Option Path) (p : Path) : Option Path :=
  if p.bytes = [] then none
  else
    let start : Option Path :=
      if p.isAbsolute then
        some (if (p.bytes.takeWhile (· = slash)).length = 2 then
          ⟨[slash, slash]⟩ else ⟨[slash]⟩)
      else workingDirectory
    start.map fun start =>
      let whole := start.joinNames (p.names.filter (· ≠ dot))
      if p.endsInSlash ∧ ¬ whole.endsInSlash then ⟨whole.bytes ++ [slash]⟩
      else whole

-- =============================================================== lists

/-- The byte that separates the paths of a list. -/
def colon : UInt8 := 0x3A

/-- The paths of a list, of which some may be empty. -/
def ofList (b : Bytes) : List Path := (split colon b).map Path.mk

/-- A list of paths; a path that holds the separator cannot be in one. -/
def toList (paths : List Path) : Option Bytes :=
  if paths.any (·.bytes.contains colon) then none
  else some (List.intercalate [colon] (paths.map Path.bytes))

end Path

end Restoration
