/-
JSON values. An object keeps its members in the order of their keys, one
member a key, so that two objects with the same members are equal and are
written alike. A number is an integer where it was written as one and fits
in 64 bits, signed or unsigned, and a finite double otherwise.
-/
import Restoration.Binary.Format

namespace Restoration.Json

open Binary

-- ============================================================== numbers

/-- Whether an integer fits in 64 bits, signed or unsigned. -/
def fits (i : Int) : Bool := -0x8000000000000000 ≤ i && i < 0x10000000000000000

/-- A JSON number. -/
inductive Number
  | integer (value : Int) (inRange : fits value = true)
  | float (value : Finite double)
  deriving DecidableEq, Repr

-- =============================================================== values

/-- A JSON value. -/
inductive Value
  | null
  | bool (b : Bool)
  | number (n : Number)
  | string (s : String)
  | array (items : List Value)
  | object (members : List (String × Value))
  deriving Inhabited, Repr

/-- The members of an object. -/
abbrev Members := List (String × Value)

-- ============================================================== members

namespace Members

/-- Puts a member in its place; a member with the same key gives way. -/
def insert (key : String) (value : Value) : Members → Members
  | [] => [(key, value)]
  | (k, v) :: rest =>
    if key < k then (key, value) :: (k, v) :: rest
    else if key = k then (key, value) :: rest
    else (k, v) :: insert key value rest

/-- The value of a member. -/
def get? (key : String) : Members → Option Value
  | [] => none
  | (k, v) :: rest => if k = key then some v else get? key rest

/-- Members in the order of their keys, the last of equal keys winning. -/
def ofList (members : List (String × Value)) : Members :=
  members.foldl (fun ms kv => insert kv.1 kv.2 ms) []

end Members

namespace Value

/-- The value of a member of an object; other values have none. -/
def get? (key : String) : Value → Option Value
  | .object members => Members.get? key members
  | _ => none

/-- An object from its members in any order. -/
def ofMembers (members : List (String × Value)) : Value :=
  .object (Members.ofList members)

/-- A natural number of at most 64 bits; a greater one does not occur. -/
def ofNat (n : Nat) : Value :=
  if h : fits n = true then .number (.integer n h) else .null

/-- The natural number of at most 64 bits that a value is. -/
def natural? : Value → Option Nat
  | .number (.integer i _) => if 0 ≤ i then some i.toNat else none
  | _ => none

end Value

end Restoration.Json
