/-
What can be wrong with a command line.
-/
import Restoration.CommandLine.Item
import Restoration.Text.Integer

namespace Restoration.CommandLine

/-- Why a value is no port. -/
inductive PortFault
  | notInteger (fault : Text.IntegerFault)
  | outOfBounds (n : Int)
  deriving DecidableEq, Repr

/-- The wording of a port fault. -/
def PortFault.message : PortFault → String
  | .notInteger fault => fault.message
  | .outOfBounds n => s!"{n} is not in 0..=65535"

/-- What is wrong with a command line. -/
inductive Misuse
  | unknownCommand (word : String)
  | unexpected (argument : String)
  | unexpectedValue (item : Item) (value : String)
  | invalidPort (item : Item) (value : String) (fault : PortFault)
  | noValue (item : Item)
  | repeated (item : Item)
  | missing (items : List Item)
  | notText
  deriving DecidableEq, Repr

/-- The wording of a misuse. -/
def Misuse.message : Misuse → String
  | .unknownCommand word => s!"unrecognized subcommand '{word}'"
  | .unexpected argument => s!"unexpected argument '{argument}' found"
  | .unexpectedValue item value =>
    s!"unexpected value '{value}' for '{item.display}' found; " ++
      "no more were expected"
  | .invalidPort item value fault =>
    s!"invalid value '{value}' for '{item.display}': {fault.message}"
  | .noValue item =>
    s!"a value is required for '{item.display}' but none was supplied"
  | .repeated item =>
    s!"the argument '{item.display}' cannot be used multiple times"
  | .missing items =>
    String.intercalate "\n"
      ("the following required arguments were not provided:" :: items.map
        fun i => "  " ++ i.display)
  | .notText => "invalid UTF-8 was detected in one or more arguments"

end Restoration.CommandLine
