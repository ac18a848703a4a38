/-
Decoding settings, sent along with every text. The counts are 32-bit
naturals and the temperature is a single, which may be infinite or
undefined; JSON has no such numbers and writes `null` for them.
-/
import Restoration.Json.Writer

namespace Restoration

open Binary

/-- Decoding settings. -/
structure Params where
  beamWidth : UInt32
  temperature : Number single
  maxUnknownLength : UInt32
  deriving DecidableEq, Repr

namespace Params

/-- The temperature one. -/
def one : Number single := .ofCount false (single.ofDecimal 1 0)

/-- Five beams, temperature one, at most fifteen unknown characters. -/
def default : Params := ⟨5, one, 15⟩

/-- The JSON text of a temperature. -/
def writeTemperature : Number single → String
  | .finite x => x.write Json.singleLayout
  | .infinite _ => "null"
  | .undefined _ => "null"

/-- The settings as members of an object, in their fixed order. -/
def writeMembers (p : Params) : String :=
  "\"beam_width\":" ++ toString p.beamWidth ++
  ",\"temperature\":" ++ writeTemperature p.temperature ++
  ",\"unk_restoration_max_len\":" ++ toString p.maxUnknownLength

/-- The settings as an object. -/
def write (p : Params) : String := "\x7b" ++ p.writeMembers ++ "\x7d"

end Params

end Restoration
