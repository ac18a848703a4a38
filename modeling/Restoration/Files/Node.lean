/-
A tree of files. A directory lists its entries in the order in which they
are found when it is read, and no two of them have one name.

Of the permissions of a directory only one is represented, whether it may
be read. Every directory may be passed through, also one that may not be
read; a directory that may not be searched (with the mode `r--`, or none at
all) has no place in such a tree.
-/
import Restoration.Path

namespace Restoration

/-- What a name in a directory leads to. -/
inductive Node
  /-- A file, which may be a program. -/
  | file (contents : Bytes) (executable : Bool)
  /-- A link, followed wherever more is asked of it than its own being. -/
  | link (target : Path)
  | directory (readable : Bool) (entries : List (Bytes × Node))
  deriving Inhabited, Repr

/-- The entries of a directory. -/
abbrev Entries := List (Bytes × Node)

namespace Entries

/-- What a name leads to. -/
def find? (name : Bytes) : Entries → Option Node
  | [] => none
  | (k, n) :: rest => if k = name then some n else find? name rest

/-- Makes a name lead to a node; a new name comes last. -/
def put (name : Bytes) (node : Node) : Entries → Entries
  | [] => [(name, node)]
  | (k, n) :: rest =>
    if k = name then (k, node) :: rest else (k, n) :: put name node rest

/-- Takes a name out. -/
def drop (name : Bytes) (entries : Entries) : Entries :=
  entries.filter (·.1 ≠ name)

end Entries

namespace Node

/-- A directory with nothing in it. -/
def empty : Node := .directory true []

/-- Whether a node is a directory. -/
def isDirectory : Node → Bool
  | .directory .. => true
  | _ => false

/-- Whether a node is a link. -/
def isLink : Node → Bool
  | .link _ => true
  | _ => false

/-- Whether a node is a file. -/
def isFile : Node → Bool
  | .file .. => true
  | _ => false

/-- The entries of a directory; there are none in anything else. -/
def entries : Node → Entries
  | .directory _ es => es
  | _ => []

/-- What names lead to from here, links not followed. -/
def at? : List Bytes → Node → Option Node
  | [], n => some n
  | name :: rest, n => (Entries.find? name n.entries).bind (at? rest)

/-- Changes the entries of the directory that names lead to from here,
links not followed. Where they lead to none, nothing changes. -/
def edit (change : Entries → Entries) : List Bytes → Node → Node
  | [], .directory readable es => .directory readable (change es)
  | name :: rest, .directory readable es =>
    match Entries.find? name es with
    | some n => .directory readable (Entries.put name (edit change rest n) es)
    | none => .directory readable es
  | _, n => n

end Node

end Restoration
