/-
The one route of the server, `POST /restore`. Every body of acceptable
length is answered with status 200 and a prediction, and a failure is a
prediction that says so. A request without text does not reach the
restorer.
-/
import Restoration.Prediction
import Restoration.Restorer

namespace Restoration.Route

open Json (Value)

-- ============================================================== request

/-- The text that a body asks to restore. Nothing, `null` and no member at
all mean the empty text. -/
def textOfBody (body : Bytes) : Except Failure String :=
  match Json.parse body with
  | .error e => .error (.json e)
  | .ok (.object members) =>
    match Json.wantOptionalString (Json.Members.get? "text" members) with
    | .error e => .error (.json e)
    | .ok text => .ok (text.getD "")
  | .ok other => .error (.badRequest (.notObject other))

/-- What a failure is answered with. -/
def failed (f : Failure) : String := "Error: " ++ f.message

-- =============================================================== answer

variable {σ : Type}

/-- An answer on its way: the prediction, what was worth telling, and the
state of the restorer. -/
structure Answered (σ : Type) where
  prediction : String
  events : List Event
  state : σ

/-- The answer for a failure, after what has been told. -/
def Answered.ofFailure (events : List Event) (f : Failure)
    (state : σ) : Answered σ :=
  ⟨failed f, events ++ [.restorationFailed f], state⟩

/-- The answer for a text. -/
def predict (restore : Restorer σ) (params : Params) (state : σ)
    (text : String) : Option (Answered σ) :=
  if text = "" then some ⟨"", [.received text, .emptyInput], state⟩
  else do
    let r ← restore state text params
    let events := [.received text, .inferenceStarted] ++ r.events
    match r.result with
    | .error f => some (.ofFailure events f r.state)
    | .ok result =>
      match Prediction.top result with
      | .error e => some (.ofFailure events (.json e) r.state)
      | .ok prediction =>
        some ⟨prediction, events ++ [.inferenceFinished prediction], r.state⟩

/-- The answer for a body. -/
def answer (restore : Restorer σ) (params : Params) (state : σ)
    (body : Bytes) : Option (Answered σ) :=
  match textOfBody body with
  | .error f => some (.ofFailure [] f state)
  | .ok text => predict restore params state text

-- ============================================================= response

/-- The path of the route. -/
def path : String := "/restore"

/-- The longest body that is read. -/
def bodyLimit : Nat := 2097152

/-- The path of a request without its query. -/
def pathOf (r : Http.Request) : String :=
  String.ofList (r.path.toList.takeWhile fun c => c ≠ '?' ∧ c ≠ '#')

/-- The response that carries a prediction. -/
def Answered.response (a : Answered σ) : Http.Response :=
  ⟨⟨200⟩, some Http.jsonType, none,
    Utf8.encode (Prediction.answer a.prediction).write⟩

/-- No such path. -/
def notFound : Http.Response := ⟨⟨404⟩, none, none, []⟩

/-- No such method on this path. -/
def methodNotAllowed : Http.Response := ⟨⟨405⟩, none, some "POST", []⟩

/-- A body that is too long. -/
def tooLarge : Http.Response :=
  ⟨⟨413⟩, some "text/plain; charset=utf-8", none,
    Utf8.encode "Failed to buffer the request body: length limit exceeded"⟩

/-- A response, what was worth telling, and the state of the restorer. -/
structure Responded (σ : Type) where
  response : Http.Response
  events : List Event
  state : σ

/-- The response to a request. -/
def respond (restore : Restorer σ) (params : Params) (state : σ)
    (r : Http.Request) :
    Option (Responded σ) :=
  if pathOf r ≠ path then some ⟨notFound, [], state⟩
  else if r.method ≠ "POST" then some ⟨methodNotAllowed, [], state⟩
  else if bodyLimit < r.body.length then some ⟨tooLarge, [], state⟩
  else (answer restore params state r.body).map fun a =>
    ⟨a.response, a.events, a.state⟩

/-- The responses to requests that come one after the other. -/
def respondAll (restore : Restorer σ) (params : Params) :
    σ → List Http.Request → Option (List (Responded σ))
  | _, [] => some []
  | state, r :: rest => do
    let first ← respond restore params state r
    let others ← respondAll restore params first.state rest
    some (first :: others)

end Restoration.Route
