/-
From a restoration result to one line of text. A result is a document, or
a text that holds one; its first prediction is the answer. An answer that
comes over the network is an object with a `prediction`, or bare text.
-/
import Restoration.Failure
import Restoration.Text.Blank

namespace Restoration.Prediction

open Json (Value)

/-- The answer where a result holds no prediction. -/
def noResult : String := "No result"

-- ============================================================== results

/-- The document of a result: a text is read as JSON, once. -/
def document : Value → Except Json.Error Value
  | .string s => Json.parseText s
  | v => .ok v

/-- The first of a document's predictions. -/
def first? (document : Value) : Option Value :=
  match document.get? "predictions" with
  | some (.array (v :: _)) => some v
  | _ => none

/-- The text of a prediction: a text is its own, an object's is its
`text`, and anything else is written as JSON. -/
def text (prediction : Value) : String :=
  match prediction with
  | .string s => s
  | .object members =>
    match Json.Members.get? "text" members with
    | some (.string s) => s
    | _ => prediction.write
  | _ => prediction.write

/-- The answer that a result gives. -/
def top (result : Value) : Except Json.Error String :=
  match document result with
  | .error e => .error e
  | .ok doc =>
    match first? doc with
    | some prediction => .ok (text prediction)
    | none => .ok noResult

-- ============================================================== answers

/-- The name of the one member of an answer. -/
def member : String := "prediction"

/-- The object that carries a prediction. -/
def answer (prediction : String) : Value :=
  .object [(member, .string prediction)]

/-- Whether a text is read as an object and not as bare text. -/
def looksLikeObject (s : String) : Bool := s.toList.head? == some '\x7b'

/-- The prediction in the body of an answer, white space around it not
counted. -/
def ofBody (body : String) : Except Failure String :=
  let body := Text.trim body
  if looksLikeObject body then
    match Json.parseText body with
    | .error e => .error (.json e)
    | .ok v =>
      match v.get? member with
      | some (.string s) => .ok s
      | some other => .ok other.write
      | none => .error (.client .noPrediction)
  else .ok body

end Restoration.Prediction
