/-
Why a text is not JSON, and where. A place counts lines from one and, on
its line, the bytes up to and including the one that was refused.
-/
namespace Restoration.Json

/-- A place in a text: the line, and the bytes taken on it. -/
structure Position where
  line : Nat
  column : Nat
  deriving DecidableEq, Repr

namespace Position

/-- Before the first byte. -/
def start : Position := ⟨1, 0⟩

/-- After one more byte; a line feed ends the line. -/
def next (p : Position) (b : UInt8) : Position :=
  if b = 10 then ⟨p.line + 1, 0⟩ else ⟨p.line, p.column + 1⟩

end Position

/-- What is wrong with a text. -/
inductive Cause
  | endInList
  | endInObject
  | endInString
  | endInValue
  | expectedColon
  | expectedListEnd
  | expectedObjectEnd
  | expectedWord
  | expectedValue
  | invalidEscape
  | invalidNumber
  | numberOutOfRange
  /-- A string holds bytes that are no text; they begin so many bytes
  before the one that shows it. -/
  | invalidCodePoint (back : Nat)
  | controlCharacter
  | keyNotString
  | loneSurrogate
  | unfinishedPair
  | trailingComma
  | trailingCharacters
  | tooDeep
  deriving DecidableEq, Repr

/-- The wording of a cause. -/
def Cause.message : Cause → String
  | .endInList => "EOF while parsing a list"
  | .endInObject => "EOF while parsing an object"
  | .endInString => "EOF while parsing a string"
  | .endInValue => "EOF while parsing a value"
  | .expectedColon => "expected `:`"
  | .expectedListEnd => "expected `,` or `]`"
  | .expectedObjectEnd => "expected `,` or `\x7d`"
  | .expectedWord => "expected ident"
  | .expectedValue => "expected value"
  | .invalidEscape => "invalid escape"
  | .invalidNumber => "invalid number"
  | .numberOutOfRange => "number out of range"
  | .invalidCodePoint _ => "invalid unicode code point"
  | .controlCharacter =>
    "control character (\\u0000-\\u001F) found while parsing a string"
  | .keyNotString => "key must be a string"
  | .loneSurrogate => "lone leading surrogate in hex escape"
  | .unfinishedPair => "unexpected end of hex escape"
  | .trailingComma => "trailing comma"
  | .trailingCharacters => "trailing characters"
  | .tooDeep => "recursion limit exceeded"

/-- A text that is not JSON. -/
structure Fault where
  cause : Cause
  place : Position
  deriving DecidableEq, Repr

/-- The fault of a text whose byte at a place is refused. -/
def Fault.ofCause (cause : Cause) (place : Position) : Fault :=
  match cause with
  | .invalidCodePoint back => ⟨cause, ⟨place.line, place.column - back⟩⟩
  | _ => ⟨cause, place⟩

/-- How a fault is reported. -/
def Fault.message (f : Fault) : String :=
  s!"{f.cause.message} at line {f.place.line} column {f.place.column}"

end Restoration.Json
