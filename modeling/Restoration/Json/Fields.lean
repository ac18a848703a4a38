/-
Taking the fields of a message from an object. A field is looked at in the
order of the keys, as the object keeps its members, so of two fields of
the wrong type the one with the lesser key is reported; a field that is
missing is reported when all that are there have been looked at.
-/
import Restoration.Json.Reader
import Restoration.Json.Writer
import Restoration.Text.Quoted

namespace Restoration.Json

-- =============================================================== errors

/-- Why a text or a value is not what was wanted. -/
inductive Error
  /-- The text is not JSON. -/
  | malformed (fault : Fault)
  /-- A value has the wrong type. -/
  | wrongType (found : Value) (expected : String)
  /-- A field is missing. -/
  | missingField (name : String)
  deriving Repr

/-- What a value is called in a message. -/
def Value.describe : Value → String
  | .null => "null"
  | .bool b => s!"boolean `{b}`"
  | .number n =>
    match n with
    | .integer i _ => s!"integer `{i}`"
    | .float x => s!"floating point `{x.write doubleLayout}`"
  | .string s => s!"string {Text.quote s}"
  | .array _ => "sequence"
  | .object _ => "map"

/-- The wording of an error. -/
def Error.message : Error → String
  | .malformed fault => fault.message
  | .wrongType found expected =>
    s!"invalid type: {found.describe}, expected {expected}"
  | .missingField name => s!"missing field `{name}`"

-- =============================================================== fields

/-- A string. -/
def wantString : Value → Except Error String
  | .string s => .ok s
  | v => .error (.wrongType v "a string")

/-- A string, where `null` and nothing at all mean the same. -/
def wantOptionalString : Option Value → Except Error (Option String)
  | none => .ok none
  | some .null => .ok none
  | some v => (wantString v).map some

/-- A boolean. -/
def wantBool : Value → Except Error Bool
  | .bool b => .ok b
  | v => .error (.wrongType v "a boolean")

/-- Reads a byte string as JSON. -/
def parse (b : Bytes) : Except Error Value :=
  match read b with
  | .ok v => .ok v
  | .error fault => .error (.malformed fault)

/-- Reads a text as JSON. -/
def parseText (s : String) : Except Error Value := parse (Utf8.encode s)

end Restoration.Json
