/-
The settings, each taken from a variable of the environment or from a
default. A number that does not read counts as not given. A path that
starts with `~/` is taken below the home directory.
-/
import Restoration.Checkpoint.Matcher
import Restoration.Environment
import Restoration.Params
import Restoration.Settings.Host
import Restoration.Text.Blank

namespace Restoration

-- ================================================================ paths

/-- A path in which `~/` stands for the home directory, if there is one. -/
def expandHome (home : Option Path) (path : String) : Path :=
  match path.toList, home with
  | '~' :: '/' :: rest, some home => home.join (.ofString (String.ofList rest))
  | _, _ => .ofString path

-- ============================================================= settings

/-- The settings of the tunnel agent. -/
structure TunnelSettings where
  token : Option String
  domain : Option String
  program : String
  deriving DecidableEq, Repr

/-- The settings of the server. -/
structure Settings where
  host : Host
  inputDirectory : Path
  matcher : Matcher
  repository : String
  checkout : Path
  python : String
  packages : List String
  params : Params
  tunnel : TunnelSettings
  deriving DecidableEq, Repr

namespace Settings

/-- Reads a 32-bit natural number. -/
def readCount (s : String) : Option UInt32 :=
  match Text.readNatural 4294967295 s with
  | .ok n => some (UInt32.ofNat n)
  | .error _ => none

/-- The settings that named texts give. -/
def ofLookup (home : Option Path)
    (lookup : String → Option String) : Settings :=
  let given := fun (name default : String) => (lookup name).getD default
  let nonEmpty := fun (name : String) => (lookup name).filter (· ≠ "")
  { host := .parse (given "AENEAS_HOST" "0.0.0.0")
    inputDirectory := expandHome home (given "AENEAS_INPUT_DIR" "/kaggle/input")
    matcher :=
      { marker := given "AENEAS_CHECKPOINT_MARKER" Matcher.default.marker
        extension := given "AENEAS_CHECKPOINT_EXT" Matcher.default.extension
        exclusion :=
        given "AENEAS_CHECKPOINT_EXCLUDE" Matcher.default.exclusion }
    repository :=
    given "AENEAS_REPO_URL"
      "https://github.com/google-deepmind/predictingthepast.git"
    checkout := expandHome home (given "AENEAS_REPO_DIR" "predictingthepast")
    python := given "AENEAS_PYTHON" "python3"
    packages := Text.words (given "AENEAS_PIP_PACKAGES" "dm-haiku optax")
    params :=
      { beamWidth :=
          ((lookup "AENEAS_BEAM_WIDTH").bind readCount).getD
            Params.default.beamWidth
        temperature :=
          ((lookup "AENEAS_TEMPERATURE").bind (Binary.read Binary.single)).getD
            Params.default.temperature
        maxUnknownLength :=
          ((lookup "AENEAS_UNK_MAX_LEN").bind readCount).getD
            Params.default.maxUnknownLength }
    tunnel :=
      { token := nonEmpty "NGROK_AUTHTOKEN"
        domain := nonEmpty "NGROK_DOMAIN"
        program := given "NGROK_BIN" "ngrok" } }

/-- The settings that the environment gives. -/
def ofEnvironment (e : Environment) : Settings := ofLookup e.home e.text?

end Settings

/-- The server that is asked where none is named. -/
def Environment.serverUrl (e : Environment) : String :=
  (e.text? "AENEAS_URL").getD s!"http://localhost:{Host.defaultPort}"

end Restoration
