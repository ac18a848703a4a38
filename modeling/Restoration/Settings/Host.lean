/-
The address to listen on: a host and a port. In a text the last colon
stands between them, so that the host may hold colons of its own; what is
no port after it is dropped in favour of the default.
-/
import Restoration.Text.Integer

namespace Restoration

/-- A host and a port. -/
structure Host where
  name : String
  port : UInt16
  deriving DecidableEq, Repr

namespace Host

/-- The port where none is given. -/
def defaultPort : UInt16 := 8000

/-- Reads a port. -/
def readPort (s : String) : Option UInt16 :=
  match Text.readNatural 65535 s with
  | .ok n => some (UInt16.ofNat n)
  | .error _ => none

/-- Reads a host with or without a port. -/
def parse (value : String) : Host :=
  let backwards := value.toList.reverse
  match backwards.dropWhile (· ≠ ':') with
  | [] => ⟨value, defaultPort⟩
  | _ :: name =>
    let port := String.ofList (backwards.takeWhile (· ≠ ':')).reverse
    ⟨String.ofList name.reverse, (readPort port).getD defaultPort⟩

/-- The address as one text. -/
def address (h : Host) : String := s!"{h.name}:{h.port}"

end Host

end Restoration
