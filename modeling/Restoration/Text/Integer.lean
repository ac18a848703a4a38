/-
Reading integers from settings and arguments: an optional sign and ASCII
digits. The digits are taken from the left, and the first one that is no
digit or takes the value out of bounds is what is reported.
-/
import Restoration.Binary.Literal

namespace Restoration.Text

/-- Why a text is no integer within the bounds. -/
inductive IntegerFault
  | empty
  | invalidDigit
  | tooLarge
  | tooSmall
  deriving DecidableEq, Repr

/-- The wording of a fault. -/
def IntegerFault.message : IntegerFault → String
  | .empty => "cannot parse integer from empty string"
  | .invalidDigit => "invalid digit found in string"
  | .tooLarge => "number too large to fit in target type"
  | .tooSmall => "number too small to fit in target type"

/-- The value of digits that continue `value`, up to a bound that must not
be passed. -/
def digitsWithin (bound : Nat) (passed : IntegerFault) (value : Nat) :
    List Char → Except IntegerFault Nat
  | [] => .ok value
  | c :: rest =>
    if Binary.isDigit c then
      let value := value * 10 + Binary.digitValue c
      if value ≤ bound then digitsWithin bound passed value rest
      else .error passed
    else .error .invalidDigit

/-- Digits, of which there must be some. -/
def someDigitsWithin (bound : Nat) (passed : IntegerFault) :
    List Char → Except IntegerFault Nat
  | [] => .error .invalidDigit
  | cs => digitsWithin bound passed 0 cs

/-- Reads a natural number up to a bound; a plus sign may stand before it. -/
def readNatural (bound : Nat) (s : String) : Except IntegerFault Nat :=
  match s.toList with
  | [] => .error .empty
  | '+' :: rest => someDigitsWithin bound .tooLarge rest
  | cs => someDigitsWithin bound .tooLarge cs

/-- Reads an integer from `-(bound + 1)` up to `bound`. -/
def readInteger (bound : Nat) (s : String) : Except IntegerFault Int :=
  match s.toList with
  | [] => .error .empty
  | '-' :: rest => (someDigitsWithin (bound + 1) .tooSmall rest).map
    fun (n : Nat) => -(n : Int)
  | '+' :: rest =>
    (someDigitsWithin bound .tooLarge rest).map fun (n : Nat) => (n : Int)
  | cs => (someDigitsWithin bound .tooLarge cs).map fun (n : Nat) => (n : Int)

end Restoration.Text
