/-
Removing a path with everything in it. A link is removed and not followed,
neither at the path itself nor below it. The entries of a directory go
before the directory does; the first one that cannot be removed ends the
removal, and what was removed by then stays removed.

The directory itself is removed under the path as it is written, which can
fail after its entries are gone: `.` and `..` are not names that can be
taken out, and behind a slash a link is followed to the directory that is
emptied, but is still a link when it is to be removed.
-/
import Restoration.Files

namespace Restoration

namespace Node

mutual

/-- What is left of a node when it is removed, and why, unless nothing is. -/
def remains : Node → Option (Node × SystemError)
  | .directory false es => some (.directory false es, .denied)
  | .directory true es =>
    match remaining es with
    | some (es, reason) => some (.directory true es, reason)
    | none => none
  | _ => none

/-- What is left of entries, and why, unless all are removed. -/
def remaining : List (Bytes × Node) → Option (List (Bytes × Node) × SystemError)
  | [] => none
  | (name, n) :: rest =>
    match remains n with
    | some (n, reason) => some ((name, n) :: rest, reason)
    | none => remaining rest

end

end Node

namespace Files

/-- The end of a path as it is written, its slashes not counted, and the
path before it. -/
def lastName (p : Path) : Option (List Bytes × Bytes) :=
  match p.names.reverse with
  | [] => none
  | name :: before => some (before.reverse, name)

/-- Takes out an empty directory, under the path as it is written. -/
def removeEmpty (f : Files) (p : Path) : Except SystemError Files :=
  match lastName p with
  | none => .error .busy
  | some (before, name) =>
    if name = Path.dot then .error .invalidArgument
    else if name = Path.dots then .error .notEmpty
    else do
      let trail ← walk f.root true linkLimit
        (if p.isAbsolute then [] else f.here) before
      match Entries.find? name (trail.node f.root).entries with
      | none => .error .noEntry
      | some (.directory _ []) => .ok (f.edit trail (Entries.drop name))
      | some (.directory _ _) => .error .notEmpty
      | some _ => .error .notDirectory

/-- A removal: what is left of the tree, and whether it failed. -/
structure Removal where
  files : Files
  result : Except SystemError Unit

/-- Removes a path with everything in it. -/
def removeAll (f : Files) (p : Path) : Removal :=
  match f.resolve false p with
  | .error reason => ⟨f, .error reason⟩
  | .ok [] =>
    ⟨{ f with root := ((f.root.remains).map Prod.fst).getD .empty },
      .error .busy⟩
  | .ok ((name, n) :: above) =>
    match n with
    | .link _ => ⟨f.edit above (Entries.drop name), .ok ()⟩
    | .file .. => ⟨f, .error .notDirectory⟩
    | .directory .. =>
      match n.remains with
      | some (n, reason) => ⟨f.edit above (Entries.put name n), .error reason⟩
      | none =>
        let emptied := f.edit above (Entries.put name .empty)
        match emptied.removeEmpty p with
        | .ok files => ⟨files, .ok ()⟩
        | .error .noEntry => ⟨emptied, .ok ()⟩
        | .error reason => ⟨emptied, .error reason⟩

end Files

end Restoration
