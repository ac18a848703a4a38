/-
A session with a worker: requests go in, one line each, and output comes
back, from which each call takes lines up to the one that answers it.

A worker is known by what it does: what it says before the first request,
and what it says to each request, given all requests so far. It may leave
at any of these points, and also in the middle of a request, when it has
read any number of bytes of it. It stops reading first, so that whatever
is written to it from then on is refused, and its last words are still
read. What it has not read of a request by then is either in the pipe,
and the call never notices, or is more than the pipe has room for, and the
call fails where it writes.

A call may be given up at any point where it waits: for its turn, in the
middle of writing its request, or while it reads. Whatever it has not read
is left for the next call.

Time does not come into it, and pipes have no bound: one that is full only
holds its writer up, so as long as the worker stays, a write never blocks
for good, and only a worker that leaves shows how much room there was
(`Fate.leftMidway`). One that leaves between two calls is one that leaves
before the first byte of the second, with no room at all. What is not
represented is that both ends wait for each other, each in front of a full
pipe; such a call never ends.
-/
import Restoration.Restorer
import Restoration.Worker.Message
import Restoration.Worker.Output

namespace Restoration.Worker

open Json (Value)

-- =============================================================== worker

/-- What a worker does next: the bytes it says, and whether it leaves. -/
structure Reaction where
  words : Bytes
  leaves : Bool
  deriving DecidableEq, Repr

/-- A worker: how it begins, and how it reacts to the last of the lines
that it has read, oldest first. If it leaves in the middle of a line, its
last words are its reaction to the part that it has read. -/
structure Peer where
  greeting : Reaction
  react : List Bytes → Reaction

-- ============================================================== session

/-- A session: the lines that the worker has read, oldest first; the start
of one that it has not, last byte first; its unread output; whether it has
left; and the ids for this and the following calls. -/
structure Session where
  peer : Peer
  heard : List Bytes
  begun : Bytes
  output : Output
  left : Bool
  ids : Nat → String
  calls : Nat

namespace Session

/-- The session after the worker has done something. -/
def after (s : Session) (r : Reaction) : Session :=
  let output := s.output.append r.words
  { s with
    output := if r.leaves then output.close else output, left := r.leaves }

/-- The session with a worker that has just been started. -/
def start (peer : Peer) (ids : Nat → String) : Session :=
  after ⟨peer, [], [], .none, false, ids, 0⟩ peer.greeting

/-- The worker gets a byte. -/
def push (s : Session) (b : UInt8) : Session :=
  if s.left then s
  else if b = 10 then
    let heard := s.heard ++ [s.begun.reverse]
    { s with heard := heard, begun := [] }.after (s.peer.react heard)
  else { s with begun := b :: s.begun }

/-- Writes to the worker. -/
def write (s : Session) (bytes : Bytes) : Except SystemError Session :=
  if s.left then .error .brokenPipe else .ok (bytes.foldl push s)

/-- The worker leaves in the middle of a line, or before it has read a
byte of it. -/
def hangUp (s : Session) : Session :=
  s.after ⟨(s.peer.react (s.heard ++ [s.begun.reverse])).words, true⟩

/-- The session with other lines to read. -/
def withLines (s : Session) (lines : List Bytes) : Session :=
  { s with output := { s.output with lines := lines } }

-- ============================================================ handshake

/-- The first message among lines, and the lines after it. -/
def firstMessage :
    List Bytes → Option (Except Utf8.Fault Json.Members × List Bytes)
  | [] => none
  | line :: rest =>
    match read line with
    | .noise => firstMessage rest
    | .fault f => some (.error f, rest)
    | .message members => some (.ok members, rest)

/-- The checkpoint that the worker reports, and the session from then on.
There is neither while a worker that has not left stays silent. -/
def handshake (s : Session) (path : Path) :
    Option (Except Failure (Checkpoint × Session)) :=
  match firstMessage s.output.lines with
  | none => if s.left then some (.error .workerExited) else none
  | some (.error f, _) => some (.error (.io (.notText f)))
  | some (.ok members, rest) =>
    match Handshake.ofMembers members with
    | .error e => some (.error (.json e))
    | .ok h =>
      match h.checkpoint path with
      | .error f => some (.error f)
      | .ok checkpoint => some (.ok (checkpoint, s.withLines rest))

-- ================================================================ calls

/-- What a call takes from lines: its result, unless they do not bring it;
what was worth telling; and the lines that are left. -/
structure Taken where
  result : Option (Except Failure Value)
  events : List Event
  rest : List Bytes

/-- Takes lines up to the one that ends the call with a given id. -/
def take (id : String) : List Bytes → Taken
  | [] => ⟨none, [], []⟩
  | line :: rest =>
    match judge id line with
    | .decide result => ⟨some result, [], rest⟩
    | .skip events =>
      let later := take id rest
      ⟨later.result, events ++ later.events, later.rest⟩

/-- Takes a number of lines, but not one that would end the call. -/
def takeSome (id : String) : Nat → List Bytes → Taken
  | 0, lines => ⟨none, [], lines⟩
  | _, [] => ⟨none, [], []⟩
  | n + 1, line :: rest =>
    match judge id line with
    | .decide _ => ⟨none, [], line :: rest⟩
    | .skip events =>
      let later := takeSome id n rest
      ⟨none, events ++ later.events, later.rest⟩

/-- What becomes of a call. -/
inductive Fate
  | awaited
  /-- It is given up before its turn. -/
  | droppedWaiting
  /-- It is given up when so many bytes of its request are written. -/
  | droppedWriting (bytes : Nat)
  /-- It is given up when it has taken so many lines. -/
  | droppedReading (lines : Nat)
  /-- The worker leaves when it has read so many bytes of the request, and
  the pipe has room for so many more. -/
  | leftMidway (bytes room : Nat)
  deriving DecidableEq, Repr

/-- The end of a call: its result, unless it was given up; what was worth
telling; and the session from then on. -/
structure Called where
  result : Option (Except Failure Value)
  events : List Event
  session : Session

/-- The id of the next call. -/
def nextId (s : Session) : String := s.ids s.calls

/-- The session after one more call has drawn its id. -/
def drawn (s : Session) : Session := { s with calls := s.calls + 1 }

/-- Waits for the reply to a request that has been written. There is none,
ever, if a worker that has not left stays silent. -/
def await (s : Session) (id : String) : Option Called :=
  let taken := take id s.output.lines
  let s := s.withLines taken.rest
  match taken.result with
  | some result => some ⟨some result, taken.events, s⟩
  | none =>
    if s.left then some ⟨some (.error .workerExited), taken.events, s⟩ else none

/-- A call that is awaited or given up, or in which the worker leaves. -/
def call (s : Session) (text : String) (params : Params) (fate : Fate) :
    Option Called :=
  let id := s.nextId
  let line := requestLine id text params
  let s := s.drawn
  let written := s.write line
  match fate with
  | .droppedWaiting => some ⟨none, [], s⟩
  | .droppedWriting bytes =>
    match s.write (line.take bytes) with
    | .error reason => some ⟨some (.error (.io reason)), [], s⟩
    | .ok s => some ⟨none, [], s⟩
  | .droppedReading lines =>
    match written with
    | .error reason => some ⟨some (.error (.io reason)), [], s⟩
    | .ok s =>
      let taken := takeSome id lines s.output.lines
      some ⟨none, taken.events, s.withLines taken.rest⟩
  | .awaited =>
    match written with
    | .error reason => some ⟨some (.error (.io reason)), [], s⟩
    | .ok s => s.await id
  | .leftMidway bytes room =>
    -- it never reads the end of the line, which would make it a whole one
    match s.write (line.dropLast.take bytes) with
    | .error reason => some ⟨some (.error (.io reason)), [], s⟩
    | .ok s =>
      if line.length ≤ bytes + room then s.hangUp.await id
      else some ⟨some (.error (.io .brokenPipe)), [], s.hangUp⟩

/-- A session restores texts, call by call. -/
def restore : Restorer Session := fun s text params =>
  match s.call text params .awaited with
  | some ⟨some result, events, s⟩ => some ⟨result, events, s⟩
  | _ => none

/-- A call: its text, its settings, and what becomes of it. -/
structure Call where
  text : String
  params : Params
  fate : Fate
  deriving DecidableEq, Repr

/-- The ends of calls made one after the other. -/
def callAll : Session → List Call → Option (List Called)
  | _, [] => some []
  | s, c :: rest => do
    let first ← s.call c.text c.params c.fate
    let others ← callAll first.session rest
    some (first :: others)

end Session

end Restoration.Worker
