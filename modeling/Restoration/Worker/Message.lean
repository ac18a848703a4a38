/-
The messages between the server and the worker, one line each.

A request is an object on a line of its own: the writer of JSON puts no
line feed into it, so the one at its end is the only one. Of what the
worker says only objects are messages; any other line is noise of the
libraries it is built on. The first message says whether the worker is
ready, and the others answer requests.
-/
import Restoration.Checkpoint.Record
import Restoration.Event
import Restoration.Params

namespace Restoration.Worker

open Json (Value)

-- ============================================================= requests

/-- The text of a request. -/
def requestText (id text : String) (params : Params) : String :=
  "\x7b\"id\":" ++ Json.stringOnto "" id ++ ",\"text\":" ++
    Json.stringOnto "" text ++ "," ++ params.writeMembers ++ "\x7d"

/-- The line of a request. -/
def requestLine (id text : String) (params : Params) : Bytes :=
  Utf8.encode (requestText id text params) ++ [10]

-- ================================================================ lines

/-- What a line of the worker is. -/
inductive Reading
  | noise
  | message (members : Json.Members)
  /-- The line is no text. -/
  | fault (f : Utf8.Fault)

/-- Reads a line. -/
def read (line : Bytes) : Reading :=
  match Utf8.decode line with
  | .error f => .fault f
  | .ok text =>
    match Json.readText text with
    | .ok (.object members) => .message members
    | _ => .noise

-- ============================================================ handshake

/-- The first message: whether the model is ready, its configuration, and
what went wrong if it is not. -/
structure Handshake where
  ready : Bool
  config : Value
  error : Option String

/-- The handshake that a message is. -/
def Handshake.ofMembers (members : Json.Members) :
    Except Json.Error Handshake := do
  let error ← Json.wantOptionalString (members.get? "error")
  match members.get? "ready" with
  | none => .error (.missingField "ready")
  | some v =>
    let ready ← Json.wantBool v
    .ok ⟨ready, (members.get? "model_config").getD .null, error⟩

/-- What a handshake makes of a checkpoint. -/
def Handshake.checkpoint (h : Handshake) (path : Path) :
    Except Failure Checkpoint :=
  if h.ready then Checkpoint.ofConfig path h.config
  else
    match h.error with
    | some words => .error (.checkpoint path (.stated words))
    | none => .error (.checkpoint path .notReady)

-- ============================================================== replies

/-- The answer to a request. The worker leaves out the id of a request that
it could not read. -/
structure Reply where
  id : Option String
  result : Option Value
  error : Option String

/-- A member that is there and not `null`. -/
def notNull : Option Value → Option Value
  | some .null => none
  | other => other

/-- The reply that a message is. -/
def Reply.ofMembers (members : Json.Members) : Except Json.Error Reply := do
  let error ← Json.wantOptionalString (members.get? "error")
  let id ← Json.wantOptionalString (members.get? "id")
  .ok ⟨id, notNull (members.get? "result"), error⟩

/-- Whether a reply is to be passed over by the call with a given id: it
answers another request, or says neither whom it answers nor what failed. -/
def Reply.isForeign (r : Reply) (id : String) : Bool :=
  match r.id with
  | some other => other != id
  | none => r.error.isNone

/-- What a reply tells when it is passed over: nothing, if a call that was
given up is the one it answers. -/
def Reply.remark (r : Reply) : List Event :=
  match r.id with
  | some _ => []
  | none => [.replyWithoutId]

/-- The result that a reply brings; an error outweighs a result. -/
def Reply.outcome (r : Reply) : Except Failure Value :=
  match r.error, r.result with
  | some words, _ => .error (.worker (.stated words))
  | none, some v => .ok v
  | none, none => .error (.worker .emptyReply)

/-- What a line means to the call with a given id. -/
inductive Verdict
  /-- The line is passed over. -/
  | skip (events : List Event)
  /-- The line ends the call. -/
  | decide (result : Except Failure Value)

/-- Judges a line. -/
def judge (id : String) (line : Bytes) : Verdict :=
  match read line with
  | .noise => .skip []
  | .fault f => .decide (.error (.io (.notText f)))
  | .message members =>
    match Reply.ofMembers members with
    | .error e => .skip [.malformedReply e]
    | .ok reply =>
      if reply.isForeign id then .skip reply.remark else .decide reply.outcome

end Restoration.Worker
