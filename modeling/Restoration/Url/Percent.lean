/-
Bytes written as a percent sign and two hexadecimal digits. Each part of a
URL has its own set of characters that are written so; whatever is not
printable ASCII always is.
-/
import Restoration.Text.Utf8

namespace Restoration.Url.Percent

-- =============================================================== writing

/-- A byte as a percent sign and two digits. -/
def escape (b : UInt8) : List Char :=
  ['%', (Nat.digitChar (b.toNat / 16)).toUpper,
    (Nat.digitChar (b.toNat % 16)).toUpper]

/-- Whether a character is printable ASCII. -/
def isPrintable (c : Char) : Bool := 0x20 ≤ c.toNat && c.toNat < 0x7F

/-- What is written for a character, where some printable ones are escaped
as well. -/
def encodeChar (escaped : List Char) (c : Char) : List Char :=
  if isPrintable c && !escaped.contains c then [c]
  else (Utf8.encode (String.singleton c)).flatMap escape

/-- What is written for characters. -/
def encode (escaped : List Char) (cs : List Char) : List Char :=
  cs.flatMap (encodeChar escaped)

/-- What is escaped in a path. -/
def inPath : List Char := " \"#<>?`\x7b\x7d".toList

/-- What is escaped in the name of a user and in a password. -/
def inUser : List Char := inPath ++ "/:;=@[\\]^|".toList

-- =============================================================== reading

/-- The value of a hexadecimal digit. -/
def digitValue? (b : UInt8) : Option UInt8 :=
  if 0x30 ≤ b && b ≤ 0x39 then some (b - 0x30)
  else if 0x61 ≤ b && b ≤ 0x66 then some (b - 0x57)
  else if 0x41 ≤ b && b ≤ 0x46 then some (b - 0x37)
  else none

/-- The bytes that a text stands for. A percent sign without two digits
stands for itself. -/
def decode : Bytes → Bytes
  | [] => []
  | 0x25 :: a :: b :: rest =>
    match digitValue? a, digitValue? b with
    | some x, some y => (x * 16 + y) :: decode rest
    | _, _ => 0x25 :: decode (a :: b :: rest)
  | b :: rest => b :: decode rest

end Restoration.Url.Percent
