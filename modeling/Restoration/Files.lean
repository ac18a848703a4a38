/-
What paths lead to. A path is walked from the root or from the working
directory, name by name; a link on the way is replaced by its target, and
so is a link at the end, if it is to be followed. At most forty links are
followed on one walk, so every walk ends.

A slash at the end asks for a directory. That is the same as a `.` after
it, which is how it is walked.
-/
import Restoration.Files.Node
import Restoration.SystemError

namespace Restoration

/-- A tree and the names from its root to the working directory. -/
structure Files where
  root : Node
  workingDirectory : List Bytes
  deriving Repr

/-- How a place was reached from the root: the names and what they lead to,
the last one first. -/
abbrev Trail := List (Bytes × Node)

namespace Trail

/-- What stands at the end of a trail. -/
def node (root : Node) : Trail → Node
  | [] => root
  | (_, n) :: _ => n

/-- The names of a trail, from the root. -/
def names (t : Trail) : List Bytes := (t.map Prod.fst).reverse

end Trail

/-- The names to walk. -/
def Path.steps (p : Path) : List Bytes :=
  if p.endsInSlash then p.names ++ [Path.dot] else p.names

namespace Files

-- ============================================================== walking

/-- The longest name. -/
def longestName : Nat := 255

/-- The longest path, one less than the room for it. -/
def longestPath : Nat := 4095

/-- How many links are followed on one walk. -/
def linkLimit : Nat := 40

/-- Walks names from a trail. What remains at a link is left to `follow`:
where the target starts, and the names of the target and those after it. -/
def walkWith (root : Node) (followLast : Bool)
    (follow : Trail → List Bytes → Except SystemError Trail) :
    Trail → List Bytes → Except SystemError Trail
  | trail, [] => .ok trail
  | trail, name :: rest =>
    match trail.node root with
    | .directory _ entries =>
      if name = Path.dot then walkWith root followLast follow trail rest
      else if name = Path.dots then
        walkWith root followLast follow trail.tail rest
      else if longestName < name.length then .error .nameTooLong
      else
        match Entries.find? name entries with
        | none => .error .noEntry
        | some (.link target) =>
          if rest.isEmpty && !followLast then
            .ok ((name, .link target) :: trail)
          else follow (if target.isAbsolute then [] else trail)
              (target.steps ++ rest)
        | some n => walkWith root followLast follow ((name, n) :: trail) rest
    | _ => .error .notDirectory

/-- Walks names from a trail, with so many links left to follow. -/
def walk (root : Node) (followLast : Bool) :
    Nat → Trail → List Bytes → Except SystemError Trail
  | 0 => walkWith root followLast fun _ _ => .error .tooManyLinks
  | links + 1 => walkWith root followLast (walk root followLast links)

/-- The trail along names that are no links. Behind a name that is gone
there is an empty directory, as there is for a program whose working
directory was removed. -/
def trailFrom (root : Node) : Trail → List Bytes → Trail
  | trail, [] => trail
  | trail, name :: rest =>
    let n := ((Entries.find? name (trail.node root).entries).getD .empty)
    trailFrom root ((name, n) :: trail) rest

/-- The trail to the working directory. -/
def here (f : Files) : Trail := trailFrom f.root [] f.workingDirectory

/-- Where a path leads; a link at its end is followed if asked. -/
def resolve (f : Files) (followLast : Bool) (p : Path) :
    Except SystemError Trail :=
  if p.bytes.contains 0 then .error .zeroByte
  else if p.bytes = [] then .error .noEntry
  else if longestPath < p.bytes.length then .error .nameTooLong
  else walk f.root followLast linkLimit
      (if p.isAbsolute then [] else f.here) p.steps

-- ============================================================== looking

/-- What a path leads to. -/
def look (f : Files) (p : Path) : Except SystemError Node :=
  (f.resolve true p).map (·.node f.root)

/-- What a path names; a link at its end is not followed. -/
def lookAt (f : Files) (p : Path) : Except SystemError Node :=
  (f.resolve false p).map (·.node f.root)

/-- Whether a path leads to a directory. -/
def isDirectory (f : Files) (p : Path) : Bool :=
  match f.look p with
  | .ok n => n.isDirectory
  | .error _ => false

/-- Whether a path leads to a file. -/
def isFile (f : Files) (p : Path) : Bool :=
  match f.look p with
  | .ok n => n.isFile
  | .error _ => false

/-- Whether a path leads to anything. -/
def leadsSomewhere (f : Files) (p : Path) : Bool := (f.look p).toBool

/-- Whether a path names anything. -/
def isPresent (f : Files) (p : Path) : Bool := (f.lookAt p).toBool

/-- The working directory as a path, unless it is gone. -/
def workingPath (f : Files) : Option Path :=
  match Node.at? f.workingDirectory f.root with
  | none => none
  | some _ =>
    some <| match f.workingDirectory with
      | [] => ⟨[Path.slash]⟩
      | names => ⟨names.flatMap fun name => Path.slash :: name⟩

-- ============================================================== editing

/-- Changes the entries of the directory at the end of a trail. -/
def edit (f : Files) (trail : Trail) (change : Entries → Entries) : Files :=
  { f with root := f.root.edit change trail.names }

/-- The directory in which a name below a path stands. Behind a working
directory that is gone there is none: nothing new can be made there. -/
def holder (f : Files) (directory : Path) (name : Bytes) :
    Except SystemError Trail := do
  let path := directory.join ⟨name⟩
  if path.bytes.contains 0 then .error .zeroByte
  else if longestPath < path.bytes.length then .error .nameTooLong
  else
    let trail ← walk f.root true linkLimit
      (if path.isAbsolute then [] else f.here) directory.names
    match Node.at? trail.names f.root with
    | some (.directory ..) =>
      if longestName < name.length then .error .nameTooLong else .ok trail
    | some _ => .error .notDirectory
    | none => .error .noEntry

/-- Puts a node into a directory under a new name. -/
def put (f : Files) (directory : Path) (name : Bytes) (node : Node) :
    Except SystemError Files :=
  (f.holder directory name).map fun trail =>
    f.edit trail (Entries.put name node)

/-- Takes a name out of a directory. Where there is no such directory,
there is nothing to take out. -/
def drop (f : Files) (directory : Path) (name : Bytes) : Files :=
  match f.holder directory name with
  | .ok trail => f.edit trail (Entries.drop name)
  | .error _ => f

end Files

end Restoration
