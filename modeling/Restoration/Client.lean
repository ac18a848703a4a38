/-
A client of a server: it is told where the server is, asks for the
restoration of a text, and takes the prediction from the answer.

A text that does not start with one of the two schemes names a host. What
is asked is the neighbour `restore` of the server's URL, which for a URL
that ends in a slash lies below it. The answer is the last one, after all
redirections, and one that does not come in time is lost
(`Http.Loss.timedOut`).
-/
import Restoration.Http.Charset
import Restoration.Prediction
import Restoration.Url

namespace Restoration

/-- A client of the server at a URL. -/
structure Client where
  server : Url
  deriving DecidableEq, Repr

namespace Client

-- =============================================================== server

/-- The scheme at the start of a text, and the rest of the text. -/
def splitScheme (text : String) : Url.Scheme × String :=
  let cs := text.toList
  if "https://".toList.isPrefixOf cs then (.https, String.ofList (cs.drop 8))
  else if "http://".toList.isPrefixOf cs then (.http, String.ofList (cs.drop 7))
  else (.http, text)

/-- A client of the server that a text names. -/
def ofText (text : String) : Except Failure Client :=
  let (scheme, rest) := splitScheme text
  match Url.parse scheme ("//" ++ rest) with
  | .ok url => .ok ⟨url⟩
  | .error fault =>
    .error (.client (.invalidServerUrl (scheme.name ++ "://" ++ rest) fault))

/-- The URL that answers requests for a restoration. -/
def restoreUrl (c : Client) : Url := c.server.sibling "restore"

-- ============================================================== request

/-- The request for the restoration of a text. -/
def request (c : Client) (text : String) : Http.Request :=
  ⟨"POST", c.restoreUrl.writePath, some Http.jsonType,
    Utf8.encode (Json.Value.object [("text", .string text)]).write⟩

/-- The prediction in an answer. Messages name the URL without user and
password. -/
def prediction (c : Client) :
    Except Http.Loss Http.Response → Except Failure String
  | .error loss =>
    .error (.http (.unanswered c.restoreUrl.anonymous.write loss))
  | .ok response =>
    if response.status.isClientError || response.status.isServerError then
      .error (.http (.refused c.restoreUrl.anonymous.write response.status))
    else Prediction.ofBody response.text

/-- Asks for the restoration of a text. -/
def restore (c : Client)
    (send : Url → Http.Request → Except Http.Loss Http.Response)
    (text : String) :
    Except Failure String :=
  if c.restoreUrl.isSendable then
    c.prediction (send c.restoreUrl (c.request text))
  else .error (.http (.unsendable c.restoreUrl.anonymous.write))

end Client

end Restoration
