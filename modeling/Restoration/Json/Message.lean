/-
A message with one field that matters, a string. It is an object that has
the field once, whatever else it has, or a list of just that string.

Whatever else there is gets passed over. Brackets, commas and numerals
have to be in order there, but nobody asks how many brackets are open, how
great a number is, or what the bytes of a string stand for.
-/
import Restoration.Json.Reader

namespace Restoration.Json

-- ======================================================== passing strings

/-- What a string that is passed over is in the middle of. -/
inductive Passing
  | plain
  /-- A backslash has been read. -/
  | escaped
  /-- So many hexadecimal digits have been read. -/
  | hex (count : Nat)
  deriving DecidableEq, Repr

namespace Passing

/-- Takes a byte that is not the closing quotation mark. -/
def step (p : Passing) (b : UInt8) : Option Passing :=
  match p with
  | .plain =>
    if b = 0x5C then some .escaped else if b < 0x20 then none else some .plain
  | .escaped =>
    if b = 0x75 then some (.hex 0)
    else if (Scan.letter? b).isSome then some .plain else none
  | .hex count =>
    if (Scan.hexValue? b).isNone then none
    else if count < 3 then some (.hex (count + 1)) else some .plain

/-- Whether a byte closes the string. -/
def closes (p : Passing) (b : UInt8) : Bool := p == .plain && b == 0x22

end Passing

-- ========================================================= passing values

/-- A bracket that is open. -/
inductive Bracket
  | square
  | brace
  deriving DecidableEq, Repr

/-- What is being passed over. -/
inductive Skip
  /-- A value is due. -/
  | value
  /-- After an opening square bracket. -/
  | firstItem
  /-- After an opening brace. -/
  | firstKey
  /-- After a comma between members. -/
  | nextKey
  /-- Inside a key. -/
  | key (p : Passing)
  /-- A key has been read. -/
  | colon
  /-- Inside a string. -/
  | string (p : Passing)
  /-- Inside `null`, `true` or `false`: the bytes that are due. -/
  | word (due : Bytes)
  /-- Inside a number. -/
  | number (numeral : Numeral)
  /-- A value is complete. -/
  | after
  deriving DecidableEq, Repr

namespace Skip

/-- What is being passed over, and the brackets that are open in it. -/
abbrev Step := Skip × List Bracket

/-- The first byte of a value. -/
def begin? (brackets : List Bracket) (b : UInt8) : Option Step :=
  if b = 0x6E then some (.word [0x75, 0x6C, 0x6C], brackets)
  else if b = 0x74 then some (.word [0x72, 0x75, 0x65], brackets)
  else if b = 0x66 then some (.word [0x61, 0x6C, 0x73, 0x65], brackets)
  else if b = 0x22 then some (.string .plain, brackets)
  else if b = 0x2D then some (.number .minus, brackets)
  else if b = 0x30 then some (.number (.zero false), brackets)
  else if b = 0x5B then some (.firstItem, .square :: brackets)
  else if b = 0x7B then some (.firstKey, .brace :: brackets)
  else (Numeral.digit? b).map fun d => (.number (.digits false d), brackets)

/-- A byte after a value inside brackets. -/
def follow (brackets : List Bracket) (b : UInt8) : Option Step :=
  match brackets with
  | [] => none
  | .square :: rest =>
    if b = 0x2C then some (.value, brackets)
    else if b = 0x5D then some (.after, rest) else none
  | .brace :: rest =>
    if b = 0x2C then some (.nextKey, brackets)
    else if b = 0x7D then some (.after, rest) else none

/-- A byte of a numeral, or after it (`some none`). The numeral may be out
of range. -/
def figure (numeral : Numeral) (b : UInt8) : Option (Option Numeral) :=
  match numeral.step b with
  | .ok (some numeral) => some (some numeral)
  | .ok none => if numeral.finish?.isSome then some none else none
  | .error .numberOutOfRange => some (some (.vanished false))
  | .error _ => none

/-- Takes a byte. A byte that ends a number is taken as one after it. -/
def step (s : Skip) (brackets : List Bracket) (b : UInt8) : Option Step :=
  match s with
  | .value => if isSpace b then some (.value, brackets) else begin? brackets b
  | .firstItem =>
    if isSpace b then some (.firstItem, brackets)
    else if b = 0x5D then some (.after, brackets.tail)
    else begin? brackets b
  | .firstKey =>
    if isSpace b then some (.firstKey, brackets)
    else if b = 0x7D then some (.after, brackets.tail)
    else if b = 0x22 then some (.key .plain, brackets)
    else none
  | .nextKey =>
    if isSpace b then some (.nextKey, brackets)
    else if b = 0x22 then some (.key .plain, brackets)
    else none
  | .key p =>
    if p.closes b then some (.colon, brackets)
    else (p.step b).map fun p => (.key p, brackets)
  | .colon =>
    if isSpace b then some (.colon, brackets)
    else if b = 0x3A then some (.value, brackets) else none
  | .string p =>
    if p.closes b then some (.after, brackets)
    else (p.step b).map fun p => (.string p, brackets)
  | .word due =>
    match due with
    | [] => none
    | c :: rest =>
      if b = c then some (if rest.isEmpty then .after else .word rest, brackets)
      else none
  | .number numeral =>
    match figure numeral b with
    | none => none
    | some none =>
      if isSpace b then some (.after, brackets) else follow brackets b
    | some (some numeral) => some (.number numeral, brackets)
  | .after => if isSpace b then some (.after, brackets) else follow brackets b

/-- Whether a byte comes after the whole value. -/
def isOver (s : Skip) (brackets : List Bracket) (b : UInt8) : Bool :=
  brackets.isEmpty &&
    match s with
    | .after => true
    | .number numeral => figure numeral b == some none
    | _ => false

end Skip

-- ================================================================ message

/-- What a message is in the middle of. `found` is the string that
matters, if it has come. -/
inductive Message
  /-- The first bracket is due. -/
  | opening
  /-- After an opening square bracket. -/
  | onlyItem
  /-- Inside the string of a list. -/
  | item (scan : Scan)
  /-- After the string of a list. -/
  | afterItem (text : String)
  /-- After the opening brace. -/
  | firstField
  /-- After a comma between fields. -/
  | nextField (found : Option String)
  /-- Inside the name of a field. -/
  | name (found : Option String) (scan : Scan)
  /-- The name of a field has been read. -/
  | colon (found : Option String) (wanted : Bool)
  /-- The string that matters is due. -/
  | due
  /-- Inside the string that matters. -/
  | string (scan : Scan)
  /-- Passing over the value of another field. -/
  | other (found : Option String) (skip : Skip) (brackets : List Bracket)
  /-- After the closing bracket. -/
  | closed (found : Option String)
  deriving DecidableEq, Repr

namespace Message

/-- A byte after a field. -/
def afterField (found : Option String) (b : UInt8) : Option Message :=
  if isSpace b then some (.other found .after [])
  else if b = 0x2C then some (.nextField found)
  else if b = 0x7D then some (.closed found)
  else none

/-- The end of the name of a field. The one that matters may not come
twice. -/
def named (field : String) (found : Option String)
    (name : String) : Option Message :=
  if name ≠ field then some (.colon found false)
  else if found.isSome then none
  else some (.colon none true)

/-- Takes a byte. -/
def step (field : String) (m : Message) (b : UInt8) : Option Message :=
  match m with
  | .opening =>
    if isSpace b then some .opening
    else if b = 0x5B then some .onlyItem
    else if b = 0x7B then some .firstField
    else none
  | .onlyItem =>
    if isSpace b then some .onlyItem
    else if b = 0x22 then some (.item .start) else none
  | .item scan =>
    if scan.closes b then scan.finish.toOption.map .afterItem
    else (scan.step b).toOption.map .item
  | .afterItem s =>
    if isSpace b then some (.afterItem s)
    else if b = 0x5D then some (.closed (some s)) else none
  | .firstField =>
    if isSpace b then some .firstField
    else if b = 0x7D then some (.closed none)
    else if b = 0x22 then some (.name none .start)
    else none
  | .nextField found =>
    if isSpace b then some (.nextField found)
    else if b = 0x22 then some (.name found .start)
    else none
  | .name found scan =>
    if scan.closes b then scan.finish.toOption.bind (named field found)
    else (scan.step b).toOption.map (.name found)
  | .colon found wanted =>
    if isSpace b then some (.colon found wanted)
    else if b = 0x3A then some (if wanted then .due else .other found .value [])
    else none
  | .due =>
    if isSpace b then some .due
    else if b = 0x22 then some (.string .start) else none
  | .string scan =>
    if scan.closes b then
      scan.finish.toOption.map fun s => .other (some s) .after []
    else (scan.step b).toOption.map .string
  | .other found skip brackets =>
    if skip.isOver brackets b then afterField found b
    else (skip.step brackets b).map fun (skip, brackets) =>
      .other found skip brackets
  | .closed found => if isSpace b then some (.closed found) else none

/-- The string of a message that is complete. -/
def finish : Message → Option String
  | .closed found => found
  | _ => none

end Message

/-- The string of a message with one field that matters. -/
def message? (field : String) (b : Bytes) : Option String :=
  (b.foldlM (Message.step field) .opening).bind Message.finish

end Restoration.Json
