/-
Finding the checkpoint below a directory. The files of a directory come
before its directories, and both in the order of their names; the first
file that the matcher accepts is the checkpoint.

A link to a directory is passed over, and whatever else a link leads to,
it is a file here. So only real directories are entered, and the search
follows the tree itself. What a path leads to is asked for links only,
under the path that the search has reached them by.

The search of each directory is a value, and the walk over the directories
picks from these values; what it does not pick is not told.
-/
import Restoration.Checkpoint.Matcher
import Restoration.Event
import Restoration.Files

namespace Restoration.Search

-- ================================================================ order

/-- The order of names: by their bytes. -/
def bytesLe : Bytes → Bytes → Bool
  | [], _ => true
  | _ :: _, [] => false
  | a :: p, b :: q => a < b || (a == b && bytesLe p q)

/-- Named things in the order of their names. -/
def sorted {α : Type} (named : List (Bytes × α)) : List (Bytes × α) :=
  named.mergeSort fun a b => bytesLe a.1 b.1

-- ============================================================ directory

/-- Whether an entry of a directory counts as a file: it is no directory,
and no link whose path leads to one. -/
def countsAsFile (files : Files) (directory : Path)
    (entry : Bytes × Node) : Bool :=
  match entry.2 with
  | .file .. => true
  | .link _ => !files.isDirectory (directory.join ⟨entry.1⟩)
  | .directory .. => false

/-- Whether an entry of a directory is a checkpoint. -/
def isCheckpoint (files : Files) (matcher : Matcher) (directory : Path)
    (entry : Bytes × Node) : Bool :=
  countsAsFile files directory entry && matcher.accepts (Utf8.lossy entry.1)

/-- The first checkpoint among the entries of a directory. -/
def firstHere? (files : Files) (matcher : Matcher) (directory : Path)
    (entries : Entries) : Option Path :=
  (sorted (entries.filter (isCheckpoint files matcher directory))).head?.map
    fun entry => directory.join ⟨entry.1⟩

/-- Whether a directory can be opened under a path. -/
def openError? (directory : Path) (readable : Bool) : Option SystemError :=
  if Files.longestPath < directory.bytes.length then some .nameTooLong
  else if readable then none
  else some .denied

-- ================================================================= walk

/-- What a search gives, and what was worth telling. -/
structure Found where
  path : Option Path
  events : List Event

/-- The searches of directories, one after the other up to the first that
finds something. -/
def Found.first : List Found → Found
  | [] => ⟨none, []⟩
  | found :: rest =>
    match found.path with
    | some _ => found
    | none =>
      let others := first rest
      ⟨others.path, found.events ++ others.events⟩

mutual

/-- The search of a directory under a path. -/
def search (files : Files) (matcher : Matcher) (directory : Path) : Node → Found
  | .directory readable entries =>
    match openError? directory readable with
    | some reason => ⟨none, [.skippingDirectory directory reason]⟩
    | none =>
      match firstHere? files matcher directory entries with
      | some path => ⟨some path, []⟩
      | none =>
        .first
          ((sorted (searchBelow files matcher directory entries)).map Prod.snd)
  | _ => ⟨none, []⟩

/-- The searches of the directories among entries, with their names. -/
def searchBelow (files : Files) (matcher : Matcher) (directory : Path) :
    List (Bytes × Node) → List (Bytes × Found)
  | [] => []
  | (name, n) :: rest =>
    if n.isDirectory then
      (name, search files matcher (directory.join ⟨name⟩) n) ::
        searchBelow files matcher directory rest
    else searchBelow files matcher directory rest

end

end Search

/-- The checkpoint below a directory, and what was worth telling. -/
def findCheckpoint (files : Files) (matcher : Matcher) (root : Path) :
    Except Failure Path × List Event :=
  let notFound : Failure :=
    .checkpointNotFound root matcher.marker matcher.extension
  match files.look root with
  | .ok (.directory readable entries) =>
    let found := Search.search files matcher root (.directory readable entries)
    match found.path with
    | some path => (.ok path, found.events)
    | none => (.error notFound, found.events)
  | _ => (.error notFound, [])

end Restoration
