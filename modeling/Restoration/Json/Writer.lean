/-
The compact text of a value: no spaces, members in the order of their
keys. In strings the quotation mark, the backslash and the control
characters below the space are escaped, five of them by a letter and the
others by four hexadecimal digits; everything else stands for itself.

Each function puts its text after what has been written, so that long
arrays need no stack; `write` is the text alone.
-/
import Restoration.Binary.Shortest
import Restoration.Json.Value

namespace Restoration.Json

open Binary

-- ============================================================== strings

/-- The hexadecimal digit of a number below sixteen. -/
def hexDigit (n : Nat) : Char := Nat.digitChar n

/-- How a character is written inside a string. -/
def escape (c : Char) : List Char :=
  if c = '"' then ['\\', '"']
  else if c = '\\' then ['\\', '\\']
  else if c.toNat < 0x20 then
    if c.toNat = 8 then ['\\', 'b']
    else if c.toNat = 9 then ['\\', 't']
    else if c.toNat = 10 then ['\\', 'n']
    else if c.toNat = 12 then ['\\', 'f']
    else if c.toNat = 13 then ['\\', 'r']
    else ['\\', 'u', '0', '0', hexDigit (c.toNat / 16), hexDigit (c.toNat % 16)]
  else [c]

/-- Puts characters after a text. -/
def pushAll (text : String) (cs : List Char) : String :=
  cs.foldl String.push text

/-- The characters of a string, escaped. -/
def escapeOnto (text : String) (cs : List Char) : String :=
  cs.foldl (fun t c => pushAll t (escape c)) text

/-- A string in quotation marks. -/
def stringOnto (text : String) (s : String) : String :=
  (escapeOnto (text.push '"') s.toList).push '"'

-- ============================================================== numbers

/-- Doubles are written without a power of ten when the first digit stands
between the fifth place after the point and the sixteenth before it. -/
def doubleLayout : Layout := ⟨-5, 15⟩

/-- Singles likewise, between the sixth place after the point and the
thirteenth before it. -/
def singleLayout : Layout := ⟨-6, 12⟩

/-- The text of a number. -/
def Number.write : Number → String
  | .integer i _ => toString i
  | .float x => x.write doubleLayout

-- =============================================================== values

mutual

/-- A value, after what has been written. -/
def Value.writeOnto (text : String) : Value → String
  | .null => text ++ "null"
  | .bool true => text ++ "true"
  | .bool false => text ++ "false"
  | .number n => text ++ n.write
  | .string s => stringOnto text s
  | .array items => (Value.itemsOnto (text.push '[') true items).push ']'
  | .object members =>
    (Value.membersOnto (text.push '\x7b') true members).push '\x7d'

/-- Items, separated by commas. -/
def Value.itemsOnto (text : String) (first : Bool) : List Value → String
  | [] => text
  | v :: rest =>
    Value.itemsOnto
      (v.writeOnto (if first then text else text.push ',')) false rest

/-- Members, separated by commas. -/
def Value.membersOnto (text : String) (first : Bool) :
    List (String × Value) → String
  | [] => text
  | (k, v) :: rest =>
    Value.membersOnto
      (v.writeOnto
        ((stringOnto (if first then text else text.push ',') k).push ':'))
      false rest

end

/-- The compact text of a value. -/
def Value.write (v : Value) : String := v.writeOnto ""

end Restoration.Json
