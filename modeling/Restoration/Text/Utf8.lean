/-
Byte strings and their reading as UTF-8. Everything that crosses a pipe, a
file name or a request body is a byte string; text is what a byte string
means once its encoding has been checked.

The reading is one pass that cuts the bytes into pieces: a character, a
fault (the longest start of an encoding that its next byte rules out) or a
cut (the bytes end inside an encoding). Strict reading wants characters
only and reports the first other piece by its place; lossy reading writes
the replacement character for every piece that is not one.

The pass keeps its answer in an accumulator, so that bodies of some
megabytes need no stack.
-/
namespace Restoration

/-- A byte string. -/
abbrev Bytes := List UInt8

namespace Utf8

-- ============================================================ encoding

/-- The bytes that a text is sent as. -/
def encode (s : String) : Bytes := s.toUTF8.toList

-- ============================================================= pieces

/-- What the reading finds, from left to right. -/
inductive Piece
  /-- A whole encoding. -/
  | char (c : Char)
  /-- Bytes that start no character: as many as an encoding could have had. -/
  | fault (length : Nat)
  /-- The bytes end inside an encoding. -/
  | cut
  deriving DecidableEq, Repr

/-- What a first byte announces: how many bytes follow it, and between
which bounds the second one lies. -/
inductive Lead
  | one
  | two
  | three (low high : UInt8)
  | four (low high : UInt8)
  | none
  deriving DecidableEq, Repr

/-- Overlong forms, surrogates and values above U+10FFFF are ruled out by
the bounds of the second byte. -/
def lead (b : UInt8) : Lead :=
  if b < 0x80 then .one
  else if b < 0xC2 then .none
  else if b < 0xE0 then .two
  else if b = 0xE0 then .three 0xA0 0xBF
  else if b = 0xED then .three 0x80 0x9F
  else if b < 0xF0 then .three 0x80 0xBF
  else if b = 0xF0 then .four 0x90 0xBF
  else if b < 0xF4 then .four 0x80 0xBF
  else if b = 0xF4 then .four 0x80 0x8F
  else .none

/-- Whether a byte continues an encoding. -/
def continues (b : UInt8) : Bool := 0x80 ≤ b && b ≤ 0xBF

/-- The six bits that a continuing byte carries. -/
def payload (b : UInt8) : Nat := b.toNat % 64

/-- The pieces of a byte string, put before those found so far. -/
def piecesOnto (found : List Piece) : Bytes → List Piece
  | [] => found.reverse
  | a :: rest =>
    match lead a with
    | .one => piecesOnto (.char (Char.ofNat a.toNat) :: found) rest
    | .none => piecesOnto (.fault 1 :: found) rest
    | .two =>
      match rest with
      | [] => (.cut :: found).reverse
      | b :: rest₂ =>
        if continues b then
          piecesOnto
            (.char (Char.ofNat (a.toNat % 32 * 64 + payload b)) :: found) rest₂
        else piecesOnto (.fault 1 :: found) (b :: rest₂)
    | .three low high =>
      match rest with
      | [] => (.cut :: found).reverse
      | b :: rest₂ =>
        if low ≤ b && b ≤ high then
          match rest₂ with
          | [] => (.cut :: found).reverse
          | c :: rest₃ =>
            if continues c then
              piecesOnto
                (.char (Char.ofNat
                  ((a.toNat % 16 * 64 + payload b) * 64 + payload c)) :: found)
                rest₃
            else piecesOnto (.fault 2 :: found) (c :: rest₃)
        else piecesOnto (.fault 1 :: found) (b :: rest₂)
    | .four low high =>
      match rest with
      | [] => (.cut :: found).reverse
      | b :: rest₂ =>
        if low ≤ b && b ≤ high then
          match rest₂ with
          | [] => (.cut :: found).reverse
          | c :: rest₃ =>
            if continues c then
              match rest₃ with
              | [] => (.cut :: found).reverse
              | d :: rest₄ =>
                if continues d then
                  piecesOnto
                    (.char (Char.ofNat
                      (((a.toNat % 8 * 64 + payload b) * 64 + payload c) * 64 +
                        payload d)) :: found) rest₄
                else piecesOnto (.fault 3 :: found) (d :: rest₄)
            else piecesOnto (.fault 2 :: found) (c :: rest₃)
        else piecesOnto (.fault 1 :: found) (b :: rest₂)

/-- The pieces of a byte string, in order. -/
def pieces (b : Bytes) : List Piece := piecesOnto [] b

-- ============================================================= reading

/-- The first place where bytes are no text: its index and, unless the
bytes merely end there, the length of the fault. -/
structure Fault where
  index : Nat
  length : Option Nat
  deriving DecidableEq, Repr

/-- How a fault is reported. -/
def Fault.message (f : Fault) : String :=
  match f.length with
  | some n => s!"invalid utf-8 sequence of {n} bytes from index {f.index}"
  | none => s!"incomplete utf-8 byte sequence from index {f.index}"

/-- The text of pieces that are all characters, or the first that is not. -/
def ofPieces (index : Nat) (text : List Char) : List Piece → Except Fault String
  | [] => .ok (String.ofList text.reverse)
  | .char c :: rest => ofPieces (index + c.utf8Size) (c :: text) rest
  | .fault n :: _ => .error ⟨index, some n⟩
  | .cut :: _ => .error ⟨index, none⟩

/-- Strict reading: the text, or the first fault. -/
def decode (b : Bytes) : Except Fault String := ofPieces 0 [] (pieces b)

/-- Strict reading where the reason for a refusal is not wanted. -/
def decode? (b : Bytes) : Option String := (decode b).toOption

/-- The replacement character. -/
def replacement : Char := Char.ofNat 0xFFFD

/-- Lossy reading: whatever is no character becomes the replacement
character. -/
def lossy (b : Bytes) : String :=
  String.ofList <| (pieces b).map fun
    | .char c => c
    | .fault _ => replacement
    | .cut => replacement

end Utf8

end Restoration
