/-
Reading JSON, one byte at a time. The machine holds the brackets that are
open, innermost first, each with what it has gathered, and a mode: what it
is in the middle of. A byte moves it on or is refused, and the end of the
text is accepted or refused by the mode. Since the machine only ever looks
at the byte before it, reading a text in two parts is reading it whole.

Of the members with one key the last counts. A string may spell a
character beyond the basic plane as a pair of escapes, and may not hold
half of a pair. At most 127 brackets may be open at once.
-/
import Restoration.Json.Numeral
import Restoration.Text.Utf8

namespace Restoration.Json

-- ============================================================== strings

/-- What a string is in the middle of. -/
inductive Phase
  | plain
  /-- A backslash has been read. -/
  | escaped
  /-- Hexadecimal digits are being read: how many there are, and their
  value while all of them have been digits. `leading` is the first half of
  a pair whose second half this is. -/
  | hex (leading : Option Nat) (count : Nat) (value : Option Nat)
  /-- The first half of a pair has been read, and a backslash is due. -/
  | paired (leading : Nat)
  /-- The first half of a pair and a backslash have been read. -/
  | pairedEscaped (leading : Nat)
  deriving DecidableEq, Repr

/-- A string that is being read: the text up to the last escape, and the
bytes since, last one first. -/
structure Scan where
  text : String
  run : Bytes
  phase : Phase
  deriving DecidableEq, Repr

namespace Scan

/-- After the opening quotation mark. -/
def start : Scan := ⟨"", [], .plain⟩

/-- The value of a hexadecimal digit. -/
def hexValue? (b : UInt8) : Option Nat :=
  if 0x30 ≤ b && b ≤ 0x39 then some (b.toNat - 0x30)
  else if 0x61 ≤ b && b ≤ 0x66 then some (b.toNat - 0x57)
  else if 0x41 ≤ b && b ≤ 0x46 then some (b.toNat - 0x37)
  else none

/-- Adds a byte. -/
def push (s : Scan) (b : UInt8) : Scan := ⟨s.text, b :: s.run, .plain⟩

/-- Adds the character with a given code point. -/
def pushPoint (s : Scan) (n : Nat) : Scan :=
  ⟨s.text.push (Char.ofNat n), s.run, .plain⟩

/-- Puts the bytes since the last escape into the text, if they are one. A
fault in them lies before the byte that ends them. -/
def settle (s : Scan) : Except Cause Scan :=
  match Utf8.decode s.run.reverse with
  | .ok text => .ok ⟨s.text ++ text, [], s.phase⟩
  | .error fault => .error (.invalidCodePoint (s.run.length - fault.index))

/-- Whether a code unit is the first half of a pair. -/
def isLeading (n : Nat) : Bool := 0xD800 ≤ n && n ≤ 0xDBFF

/-- Whether a code unit is the second half of a pair. -/
def isTrailing (n : Nat) : Bool := 0xDC00 ≤ n && n ≤ 0xDFFF

/-- Adds what four hexadecimal digits stand for. -/
def pushUnit (s : Scan) (leading : Option Nat)
    (unit : Nat) : Except Cause Scan :=
  match leading with
  | none =>
    if isTrailing unit then .error .loneSurrogate
    else if isLeading unit then .ok ⟨s.text, s.run, .paired unit⟩
    else .ok (s.pushPoint unit)
  | some first =>
    if isTrailing unit then
      .ok (s.pushPoint ((first - 0xD800) * 1024 + (unit - 0xDC00) + 0x10000))
    else .error .loneSurrogate

/-- The code point that a letter after a backslash stands for. -/
def letter? (b : UInt8) : Option Nat :=
  if b = 0x22 then some 0x22
  else if b = 0x5C then some 0x5C
  else if b = 0x2F then some 0x2F
  else if b = 0x62 then some 8
  else if b = 0x66 then some 12
  else if b = 0x6E then some 10
  else if b = 0x72 then some 13
  else if b = 0x74 then some 9
  else none

/-- Takes a byte that is not the closing quotation mark. -/
def step (s : Scan) (b : UInt8) : Except Cause Scan :=
  match s.phase with
  | .plain =>
    if b = 0x5C then s.settle.map fun s => ⟨s.text, s.run, .escaped⟩
    else if b < 0x20 then .error .controlCharacter
    else .ok (s.push b)
  | .escaped =>
    if b = 0x75 then .ok ⟨s.text, s.run, .hex none 0 (some 0)⟩
    else
      match letter? b with
      | some point => .ok (s.pushPoint point)
      | none => .error .invalidEscape
  | .hex leading count value =>
    let value := do some ((← value) * 16 + (← hexValue? b))
    if count < 3 then .ok ⟨s.text, s.run, .hex leading (count + 1) value⟩
    else
      match value with
      | some unit => s.pushUnit leading unit
      | none => .error .invalidEscape
  | .paired leading =>
    if b = 0x5C then .ok ⟨s.text, s.run, .pairedEscaped leading⟩
    else .error .unfinishedPair
  | .pairedEscaped leading =>
    if b = 0x75 then .ok ⟨s.text, s.run, .hex (some leading) 0 (some 0)⟩
    else .error .unfinishedPair

/-- Whether a byte closes the string. -/
def closes (s : Scan) (b : UInt8) : Bool := s.phase == .plain && b == 0x22

/-- The text of a string that has been closed. -/
def finish (s : Scan) : Except Cause String := s.settle.map Scan.text

end Scan

-- ============================================================== machine

/-- A bracket that is open, with what it has gathered: the items, last one
first, or the members and the key whose value is being read. -/
inductive Frame
  | array (items : List Value)
  | object (members : Members) (key : String)
  deriving Repr

/-- What the machine is in the middle of. -/
inductive Mode
  /-- A value is due. -/
  | value
  /-- After an opening square bracket. -/
  | firstItem
  /-- After a comma between items. -/
  | nextItem (items : List Value)
  /-- After an opening brace. -/
  | firstKey
  /-- After a comma between members. -/
  | nextKey (members : Members)
  /-- Inside a key. -/
  | key (members : Members) (scan : Scan)
  /-- A key has been read. -/
  | colon (members : Members) (name : String)
  /-- Inside a string. -/
  | string (scan : Scan)
  /-- Inside `null`, `true` or `false`: the bytes that are due. -/
  | word (due : Bytes) (value : Value)
  /-- Inside a number. -/
  | number (numeral : Numeral)
  /-- A value is complete. -/
  | after (value : Value)
  deriving Repr

/-- A mode and the brackets that are open. -/
abbrev Step := Mode × List Frame

/-- The four bytes that may stand between tokens. -/
def isSpace (b : UInt8) : Bool :=
  b == 0x20 || b == 0x0A || b == 0x09 || b == 0x0D

/-- How many brackets may be open at once. -/
def depthLimit : Nat := 127

/-- The first byte of a value. -/
def begin? (frames : List Frame) (b : UInt8) : Except Cause Step :=
  if b = 0x6E then .ok (.word [0x75, 0x6C, 0x6C] .null, frames)
  else if b = 0x74 then .ok (.word [0x72, 0x75, 0x65] (.bool true), frames)
  else if b = 0x66 then
    .ok (.word [0x61, 0x6C, 0x73, 0x65] (.bool false), frames)
  else if b = 0x22 then .ok (.string .start, frames)
  else if b = 0x2D then .ok (.number .minus, frames)
  else if b = 0x30 then .ok (.number (.zero false), frames)
  else if b = 0x5B then
    if frames.length < depthLimit then .ok (.firstItem, frames)
    else .error .tooDeep
  else if b = 0x7B then
    if frames.length < depthLimit then .ok (.firstKey, frames)
    else .error .tooDeep
  else
    match Numeral.digit? b with
    | some d => .ok (.number (.digits false d), frames)
    | none => .error .expectedValue

/-- A byte after a complete value: space, a separator, or the bracket that
closes the innermost open one. -/
def follow (value : Value) (frames : List Frame)
    (b : UInt8) : Except Cause Step :=
  if isSpace b then .ok (.after value, frames)
  else
    match frames with
    | [] => .error .trailingCharacters
    | .array items :: rest =>
      if b = 0x2C then .ok (.nextItem (value :: items), rest)
      else if b = 0x5D then .ok (.after (.array (value :: items).reverse), rest)
      else .error .expectedListEnd
    | .object members key :: rest =>
      if b = 0x2C then .ok (.nextKey (members.insert key value), rest)
      else if b = 0x7D then
        .ok (.after (.object (members.insert key value)), rest)
      else .error .expectedObjectEnd

/-- A byte in any mode but a number's. -/
def Mode.step (mode : Mode) (frames : List Frame)
    (b : UInt8) : Except Cause Step :=
  match mode with
  | .value => if isSpace b then .ok (.value, frames) else begin? frames b
  | .firstItem =>
    if isSpace b then .ok (.firstItem, frames)
    else if b = 0x5D then .ok (.after (.array []), frames)
    else begin? (.array [] :: frames) b
  | .nextItem items =>
    if isSpace b then .ok (.nextItem items, frames)
    else if b = 0x5D then .error .trailingComma
    else begin? (.array items :: frames) b
  | .firstKey =>
    if isSpace b then .ok (.firstKey, frames)
    else if b = 0x7D then .ok (.after (.object []), frames)
    else if b = 0x22 then .ok (.key [] .start, frames)
    else .error .keyNotString
  | .nextKey members =>
    if isSpace b then .ok (.nextKey members, frames)
    else if b = 0x7D then .error .trailingComma
    else if b = 0x22 then .ok (.key members .start, frames)
    else .error .keyNotString
  | .key members scan =>
    if scan.closes b then
      scan.finish.map fun name => (.colon members name, frames)
    else (scan.step b).map fun scan => (.key members scan, frames)
  | .colon members name =>
    if isSpace b then .ok (.colon members name, frames)
    else if b = 0x3A then .ok (.value, .object members name :: frames)
    else .error .expectedColon
  | .string scan =>
    if scan.closes b then
      scan.finish.map fun text => (.after (.string text), frames)
    else (scan.step b).map fun scan => (.string scan, frames)
  | .word due v =>
    match due with
    | [] => follow v frames b
    | c :: rest =>
      if b = c then
        .ok (if rest.isEmpty then .after v else .word rest v, frames)
      else .error .expectedWord
  | .number numeral => .ok (.number numeral, frames)
  | .after v => follow v frames b

/-- The machine: its mode, the open brackets and the place it has reached. -/
structure Machine where
  mode : Mode
  frames : List Frame
  place : Position
  deriving Repr

namespace Machine

/-- Before a text. -/
def start : Machine := ⟨.value, [], .start⟩

/-- Puts the machine, or its refusal, at a place. -/
def located (place : Position) : Except Cause Step → Except Fault Machine
  | .ok (mode, frames) => .ok ⟨mode, frames, place⟩
  | .error cause => .error (.ofCause cause place)

/-- Takes a byte. A number shows its end only by the byte after it, so
that byte is taken twice: it ends the number, and then follows a value. A
number that is out of range is refused before that byte. -/
def step (m : Machine) (b : UInt8) : Except Fault Machine :=
  let place := m.place.next b
  match m.mode with
  | .number numeral =>
    match numeral.step b with
    | .error cause => .error ⟨cause, place⟩
    | .ok (some numeral) => .ok ⟨.number numeral, m.frames, place⟩
    | .ok none =>
      match numeral.finish? with
      | some (.ok n) => located place (follow (.number n) m.frames b)
      | some (.error cause) => .error ⟨cause, m.place⟩
      | none => .error ⟨.invalidNumber, place⟩
  | mode => located place (mode.step m.frames b)

/-- Takes bytes in order, up to the first that is refused. -/
def run (m : Machine) : Bytes → Except Fault Machine
  | [] => .ok m
  | b :: rest =>
    match m.step b with
    | .ok m => run m rest
    | .error fault => .error fault

/-- The end of the text after a complete value. -/
def settle (value : Value) : List Frame → Except Cause Value
  | [] => .ok value
  | .array _ :: _ => .error .endInList
  | .object .. :: _ => .error .endInObject

/-- The end of the text. -/
def finish (m : Machine) : Except Fault Value :=
  let outcome : Except Cause Value :=
    match m.mode with
    | .value => .error .endInValue
    | .firstItem => .error .endInList
    | .nextItem _ => .error .endInValue
    | .firstKey => .error .endInObject
    | .nextKey _ => .error .endInValue
    | .key .. => .error .endInString
    | .colon .. => .error .endInObject
    | .string _ => .error .endInString
    | .word .. => .error .endInValue
    | .number numeral =>
      match numeral.finish? with
      | some (.ok n) => settle (.number n) m.frames
      | some (.error cause) => .error cause
      | none => .error .endInValue
    | .after value => settle value m.frames
  match outcome with
  | .ok value => .ok value
  | .error cause => .error ⟨cause, m.place⟩

end Machine

-- ============================================================== reading

/-- Reads a byte string as one JSON value. -/
def read (b : Bytes) : Except Fault Value :=
  match Machine.start.run b with
  | .ok m => m.finish
  | .error fault => .error fault

/-- Reads a text as one JSON value. -/
def readText (s : String) : Except Fault Value := read (Utf8.encode s)

end Restoration.Json
