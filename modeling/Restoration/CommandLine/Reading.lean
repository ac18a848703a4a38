/-
Reading the arguments of a command, one after another. An option that
takes a value may have it behind an equals sign, and behind its letter
without one; otherwise the next argument is the value, unless it starts
with a hyphen. Behind a lone pair of hyphens everything is a word.

A value that stands in an argument of its own is looked at late: when the
next option or word is taken, or at the end. So an argument that does not
belong there is reported first.
-/
import Restoration.CommandLine.Misuse
import Restoration.Text.Utf8

namespace Restoration.CommandLine

-- =============================================================== results

/-- The value of an item that was given. -/
inductive Value
  | on
  | text (s : String)
  | port (n : UInt16)
  deriving DecidableEq, Repr

/-- What was given. -/
abbrev Given := List (Item × Value)

namespace Given

/-- Whether an item was given. -/
def has (g : Given) (i : Item) : Bool := (g.lookup i).isSome

/-- The text that was given. -/
def text? (g : Given) (i : Item) : Option String :=
  match g.lookup i with
  | some (.text s) => some s
  | _ => none

/-- The port that was given. -/
def port? (g : Given) (i : Item) : Option UInt16 :=
  match g.lookup i with
  | some (.port n) => some n
  | _ => none

end Given

/-- What help is asked about. -/
inductive Topic
  | all
  | verb (v : Verb)
  | help
  deriving DecidableEq, Repr

/-- Why a command line gives no command. -/
inductive Ending
  | help (topic : Topic)
  | version
  | nothing
  | misuse (fault : Misuse)
  deriving DecidableEq, Repr

-- ================================================================ shapes

/-- What an argument looks like. -/
inductive Shape
  /-- A lone pair of hyphens. -/
  | divider
  | named (name : Bytes) (value : Option Bytes)
  | lettered (rest : Bytes)
  | word
  deriving DecidableEq, Repr

/-- The byte of a hyphen. -/
def hyphen : UInt8 := 0x2D

/-- The byte of an equals sign. -/
def equalsSign : UInt8 := 0x3D

/-- What an argument looks like. A lone hyphen is a word. -/
def shape : Bytes → Shape
  | [] => .word
  | [_] => .word
  | [0x2D, 0x2D] => .divider
  | 0x2D :: 0x2D :: rest =>
    .named (rest.takeWhile (· ≠ equalsSign))
      (match rest.dropWhile (· ≠ equalsSign) with
        | [] => none
        | _ :: value => some value)
  | a :: rest => if a = hyphen then .lettered rest else .word

/-- The character at the start of bytes, if there is one. -/
def firstChar? (b : Bytes) : Option Char :=
  match Utf8.pieces (b.take 4) with
  | .char c :: _ => some c
  | _ => none

/-- The value that stands behind a letter. -/
def behindLetter : Bytes → Option Bytes
  | [] => none
  | b :: rest => if b = equalsSign then some rest else some (b :: rest)

/-- The option with a name, and the value in the same argument. -/
def findNamed (options : List Item) (name : Bytes) (value : Option Bytes) :
    Except Misuse (Item × Option Bytes) :=
  match options.find? (Utf8.encode ·.name = name) with
  | some item => .ok (item, value)
  | none => .error (.unexpected ("--" ++ Utf8.lossy name))

/-- The option with the letter at the start of bytes, and the value in the
same argument. -/
def findLettered (options : List Item) (rest : Bytes) :
    Except Misuse (Item × Option Bytes) :=
  match firstChar? rest with
  | none => .error (.unexpected ("-" ++ Utf8.lossy rest))
  | some c =>
    match options.find? (·.letter? = some c) with
    | none => .error (.unexpected ("-" ++ String.singleton c))
    | some item =>
      .ok (item, if item.takesValue then
        behindLetter (rest.drop c.utf8Size) else none)

-- ================================================================ values

/-- Reads a port. -/
def readPort (item : Item) (s : String) : Except Misuse UInt16 :=
  match Text.readInteger 0x7FFFFFFFFFFFFFFF s with
  | .error fault => .error (.invalidPort item s (.notInteger fault))
  | .ok n =>
    if 0 ≤ n ∧ n ≤ 65535 then .ok (UInt16.ofNat n.toNat)
    else .error (.invalidPort item s (.outOfBounds n))

/-- Reads the value of an item. -/
def readValue (item : Item) (b : Bytes) : Except Misuse Value :=
  match Utf8.decode? b with
  | none => .error .notText
  | some s =>
    if item = .port then (readPort item s).map .port else .ok (.text s)

/-- Takes an item with the values that were found for it. -/
def take (given : Given) (item : Item)
    (values : List Bytes) : Except Misuse Given :=
  match item.takesValue, values with
  | true, [] => .error (.noValue item)
  | true, value :: _ =>
    if given.has item then .error (.repeated item)
    else (readValue item value).map fun v => (item, v) :: given
  | false, _ =>
    if given.has item then .error (.repeated item)
    else .ok ((item, .on) :: given)

-- =============================================================== reading

/-- How far the reading is: what was given, the item that waits to be taken
with the value that was found for it, how many words there have been, and
whether only words follow. -/
structure Reading where
  given : Given
  waiting : Option (Item × List Bytes)
  words : Nat
  onlyWords : Bool
  deriving DecidableEq, Repr

namespace Reading

/-- Nothing has been read. -/
def start : Reading := ⟨[], none, 0, false⟩

/-- Takes the item that waits. -/
def settle (r : Reading) : Except Misuse Reading :=
  match r.waiting with
  | none => .ok r
  | some (item, values) =>
    (take r.given item values).map fun given =>
      { r with given := given, waiting := none }

/-- Reads an option, once it is known which one it is. -/
def readOption (verb : Verb) (r : Reading)
    (found : Except Misuse (Item × Option Bytes)) :
    Except Ending Reading := do
  let (item, value) ← found.mapError .misuse
  match item.takesValue, value with
  | true, some v =>
    let r ← r.settle.mapError .misuse
    let given ← (take r.given item [v]).mapError .misuse
    .ok { r with given := given }
  | true, none =>
    let r ← r.settle.mapError .misuse
    .ok { r with waiting := some (item, []) }
  | false, some v => .error (.misuse (.unexpectedValue item (Utf8.lossy v)))
  | false, none =>
    let r ← r.settle.mapError .misuse
    if item = .help then .error (.help (.verb verb))
    else
      let given ← (take r.given item []).mapError .misuse
      .ok { r with given := given }

/-- Reads a word. -/
def readWord (verb : Verb) (r : Reading) (b : Bytes) : Except Ending Reading :=
  match verb.words[r.words]? with
  | none => .error (.misuse (.unexpected (Utf8.lossy b)))
  | some item => do
    let r ← r.settle.mapError .misuse
    .ok { r with waiting := some (item, [b]), words := r.words + 1 }

/-- Reads an argument. -/
def readArgument (verb : Verb) (r : Reading) (b : Bytes) :
    Except Ending Reading :=
  if r.onlyWords then r.readWord verb b
  else
    match shape b, r.waiting with
    | .divider, _ => .ok { r with onlyWords := true }
    | .word, some (item, []) => .ok { r with waiting := some (item, [b]) }
    | .word, _ => r.readWord verb b
    | .named name value, _ =>
      r.readOption verb (findNamed verb.options name value)
    | .lettered rest, _ => r.readOption verb (findLettered verb.options rest)

/-- What was given, when there are no more arguments. -/
def finish (verb : Verb) (r : Reading) : Except Ending Given := do
  let r ← r.settle.mapError .misuse
  match verb.words.filter (!r.given.has ·) with
  | [] => .ok r.given
  | missing => .error (.misuse (.missing missing))

end Reading

/-- What is given to a command. -/
def readArguments (verb : Verb)
    (arguments : List Bytes) : Except Ending Given := do
  let r ← arguments.foldlM (Reading.readArgument verb) .start
  r.finish verb

-- ============================================================== commands

/-- The command that asks for help. -/
def helpName : String := "help"

/-- What the command for help is asked about. -/
def readTopic : List Bytes → Except Ending Topic
  | [] => .ok .all
  | word :: rest =>
    let name := Utf8.lossy word
    let topic :=
      match Verb.ofName? name with
      | some verb => some (.verb verb)
      | none => if name = helpName then some .help else none
    match topic, rest with
    | none, _ => .error (.misuse (.unknownCommand name))
    | some topic, [] => .ok topic
    | some _, next :: _ => .error (.misuse (.unknownCommand (Utf8.lossy next)))

/-- What comes of an option that stands before a command. There is none that
a command could follow. -/
def topEnding : Except Misuse (Item × Option Bytes) → Ending
  | .error fault => .misuse fault
  | .ok (item, some value) => .misuse (.unexpectedValue item (Utf8.lossy value))
  | .ok (item, none) => if item = .version then .version else .help .all

/-- Reads a command line: the command, and what is given to it. -/
def read (onlyWords : Bool) : List Bytes → Except Ending (Verb × Given)
  | [] => .error .nothing
  | word :: rest =>
    let name := Utf8.lossy word
    let verb? := Verb.ofName? name
    if onlyWords then
      .error
        (.misuse (if verb?.isSome || name = helpName then .unexpected name
          else .unknownCommand name))
    else
      match verb?, shape word with
      | some verb, _ => (readArguments verb rest).map fun given => (verb, given)
      | none, .divider => read true rest
      | none, .word =>
        if name = helpName then
          (readTopic rest).bind fun topic => .error (.help topic)
        else .error (.misuse (.unknownCommand name))
      | none, .named name value =>
        .error (topEnding (findNamed topOptions name value))
      | none, .lettered rest =>
        .error (topEnding (findLettered topOptions rest))

end Restoration.CommandLine
