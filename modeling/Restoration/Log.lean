/-
The log as lines of text. A variable of the environment tells how many of
the five customary levels are shown, by the name of the last one or by
their number; where it tells nothing, three are. No event has one of the
two levels that follow.

A message is shown as it is, but for the characters that a terminal would
take for orders.
-/
import Restoration.Environment
import Restoration.Event
import Restoration.Text.Blank
import Restoration.Text.Integer

namespace Restoration.Log

-- =============================================================== levels

/-- The five levels, the gravest first. -/
def levelNames : List String := ["error", "warn", "info", "debug", "trace"]

/-- The place of an event's level among the five, from one on. -/
def rank : Level → Nat
  | .error => 1
  | .warn => 2
  | .info => 3

/-- How many levels are shown where nothing tells it. -/
def defaultShown : Nat := 3

/-- The small form of ASCII capitals. -/
def lower (s : String) : String := s.map Char.toLower

/-- Reads how many levels are shown. -/
def readShown (s : String) : Option Nat :=
  match Text.readNatural 0xFFFFFFFFFFFFFFFF s with
  | .ok n => if 1 ≤ n ∧ n ≤ levelNames.length then some n else none
  | .error _ => (levelNames.idxOf? (lower s)).map (· + 1)

/-- How many levels an environment asks for. -/
def shown (e : Environment) : Nat :=
  ((e.text? "AENEAS_LOG").bind fun s =>
    readShown (Text.trim s)).getD defaultShown

-- ================================================================ lines

/-- Two hexadecimal digits. -/
def hexPair (n : Nat) : List Char :=
  [Nat.digitChar (n / 16), Nat.digitChar (n % 16)]

/-- The controls that are shown by their code. -/
def escaped : List Nat := [0x07, 0x08, 0x0C, 0x1B, 0x7F]

/-- A character of a message. -/
def showChar (c : Char) : List Char :=
  if escaped.contains c.toNat then '\\' :: 'x' :: hexPair c.toNat
  else if 0x80 ≤ c.toNat && c.toNat < 0xA0 then
    '\\' :: 'u' :: '\x7b' :: hexPair c.toNat ++ ['\x7d']
  else [c]

/-- A message as it is shown. -/
def showMessage (s : String) : String :=
  String.ofList (s.toList.flatMap showChar)

/-- The line for an event. -/
def line (e : Event) : String := s!"{e.level.name} {showMessage e.message}"

/-- The lines for the events of the levels that are shown. -/
def lines (shown : Nat) (events : List Event) : List String :=
  (events.filter (rank ·.level ≤ shown)).map line

end Restoration.Log
