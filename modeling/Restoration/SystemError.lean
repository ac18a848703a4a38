/-
What the operating system can refuse, and what can be wrong with the data
handed to it or read from it.
-/
import Restoration.Text.Utf8

namespace Restoration

/-- A refusal of the operating system. -/
inductive SystemError
  | noEntry
  | argumentsTooLong
  | denied
  | busy
  | exists
  | notDirectory
  | isDirectory
  | invalidArgument
  | brokenPipe
  | nameTooLong
  | notEmpty
  | tooManyLinks
  | addressInUse
  | addressUnavailable
  | networkUnreachable
  | connectionRefused
  /-- A string with a zero byte cannot be handed over. -/
  | zeroByte
  /-- Bytes that were to be text are not. -/
  | notText (fault : Utf8.Fault)
  /-- A failure described in words of its own. -/
  | other (description : String)
  deriving DecidableEq, Repr

/-- The wording of a refusal, with its number where it has one. -/
def SystemError.message : SystemError → String
  | .noEntry => "No such file or directory (os error 2)"
  | .argumentsTooLong => "Argument list too long (os error 7)"
  | .denied => "Permission denied (os error 13)"
  | .busy => "Device or resource busy (os error 16)"
  | .exists => "File exists (os error 17)"
  | .notDirectory => "Not a directory (os error 20)"
  | .isDirectory => "Is a directory (os error 21)"
  | .invalidArgument => "Invalid argument (os error 22)"
  | .brokenPipe => "Broken pipe (os error 32)"
  | .nameTooLong => "File name too long (os error 36)"
  | .notEmpty => "Directory not empty (os error 39)"
  | .tooManyLinks => "Too many levels of symbolic links (os error 40)"
  | .addressInUse => "Address already in use (os error 98)"
  | .addressUnavailable => "Cannot assign requested address (os error 99)"
  | .networkUnreachable => "Network is unreachable (os error 101)"
  | .connectionRefused => "Connection refused (os error 111)"
  | .zeroByte => "nul byte found in provided data"
  | .notText fault => fault.message
  | .other description => description

end Restoration
