/-
What is worth telling while the program runs: each event has a level and a
wording. The log is the list of events, in order.
-/
import Restoration.Failure

namespace Restoration

/-- How much an event matters. -/
inductive Level
  | error
  | warn
  | info
  deriving DecidableEq, Repr

/-- The name of a level. -/
def Level.name : Level → String
  | .error => "ERROR"
  | .warn => "WARN"
  | .info => "INFO"

/-- An event. -/
inductive Event
  | skippingPreparation
  | installing (packages : List String)
  | cloning (repository : String) (directory : Path)
  | stepDone (step : String)
  | stepFailed (step detail : String)
  | findingCheckpoint (root : Path)
  | skippingDirectory (directory : Path) (reason : SystemError)
  | loadingCheckpoint (path : Path)
  | modelReady (name : String) (vocabularySize : Nat)
  | malformedReply (error : Json.Error)
  | replyWithoutId
  | listening (address : String)
  | received (text : String)
  | emptyInput
  | inferenceStarted
  | inferenceFinished (prediction : String)
  | restorationFailed (failure : Failure)
  | domainFailed (domain : String) (failure : Failure)
  | online (url : String)
  | onlineElsewhere (url : String)
  | tunnelUnavailable (failure : Failure)
  | tunnelFailed (failure : Failure)

namespace Event

/-- The level of an event. -/
def level : Event → Level
  | .restorationFailed _ | .domainFailed .. | .tunnelUnavailable _ |
    .tunnelFailed _ => .error
  | .stepFailed .. | .skippingDirectory .. | .malformedReply _ | .replyWithoutId
    | .emptyInput => .warn
  | _ => .info

/-- How many characters of a received text are shown. -/
def previewLength : Nat := 50

/-- The wording of an event. -/
def message : Event → String
  | .skippingPreparation => "Skipping package install and clone"
  | .installing packages => "Installing " ++ String.intercalate " " packages
  | .cloning repository directory =>
    s!"Cloning {repository} into {directory.display}"
  | .stepDone step => s!"{step} done"
  | .stepFailed step detail => s!"{step} failed ({detail}), continuing"
  | .findingCheckpoint root => s!"Finding checkpoint under {root.display}"
  | .skippingDirectory directory reason =>
    s!"Skipping unreadable directory {directory.display}: {reason.message}"
  | .loadingCheckpoint path => s!"Loading checkpoint {path.display}"
  | .modelReady name size =>
    s!"Model ready from {name} (vocab_char_size {size})"
  | .malformedReply error =>
    s!"Ignoring malformed worker message: {error.message}"
  | .replyWithoutId => "Ignoring worker reply without an id"
  | .listening address => s!"Listening on {address}"
  | .received text =>
    s!"Received input: {String.ofList (text.toList.take previewLength)}..."
  | .emptyInput => "Empty input received"
  | .inferenceStarted => "Inference started"
  | .inferenceFinished prediction =>
    s!"Inference finished, sending: {prediction}"
  | .restorationFailed failure => s!"Restoration failed: {failure.message}"
  | .domainFailed domain failure =>
    s!"Static domain {domain} failed: {failure.message}"
  | .online url => s!"Server online: {url}"
  | .onlineElsewhere url => s!"Fallback URL: {url}"
  | .tunnelUnavailable failure =>
    s!"Tunnel unavailable, serving locally only: {failure.message}"
  | .tunnelFailed failure =>
    s!"Fallback tunnel failed, serving locally only: {failure.message}"

end Event

end Restoration
