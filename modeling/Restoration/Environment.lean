/-
The environment of the program: named byte strings. A variable whose value
is no text counts as unset wherever a text is wanted.
-/
import Restoration.Path

namespace Restoration

/-- Named byte strings, and the home directory of the account, which holds
where no variable names one. -/
structure Environment where
  bindings : List (String × Bytes)
  accountHome : Option Path
  deriving DecidableEq, Repr

namespace Environment

/-- The value of a variable. -/
def bytes? (e : Environment) (name : String) : Option Bytes :=
  e.bindings.lookup name

/-- The value of a variable as text. -/
def text? (e : Environment) (name : String) : Option String :=
  (e.bytes? name).bind Utf8.decode?

/-- The home directory; an empty variable names none. -/
def home (e : Environment) : Option Path :=
  match e.bytes? "HOME" with
  | some (b :: rest) => some ⟨b :: rest⟩
  | _ => e.accountHome

/-- The directory of configuration files, which has to be named by an
absolute path; otherwise `.config` in the home directory. -/
def configDirectory (e : Environment) : Option Path :=
  match (e.bytes? "XDG_CONFIG_HOME").map Path.mk with
  | some p =>
    if p.isAbsolute then some p else e.home.map (·.join (.ofString ".config"))
  | none => e.home.map (·.join (.ofString ".config"))

/-- The directory of temporary files. -/
def temporaryDirectory (e : Environment) : Path :=
  match e.bytes? "TMPDIR" with
  | some b => ⟨b⟩
  | none => .ofString "/tmp"

/-- Sets variables; a variable that has a value loses it. -/
def set (e : Environment) (bindings : List (String × Bytes)) : Environment :=
  ⟨bindings ++ e.bindings.filter (fun kv => (bindings.lookup kv.1).isNone),
    e.accountHome⟩

end Environment

end Restoration
