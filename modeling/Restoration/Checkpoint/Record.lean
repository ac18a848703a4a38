/-
A checkpoint: the file and the model configuration that the worker read
from it. The configuration has to be a mapping that holds the size of the
vocabulary.
-/
import Restoration.Failure

namespace Restoration

/-- A checkpoint that has been loaded. -/
structure Checkpoint where
  path : Path
  config : Json.Members
  vocabularySize : Nat

namespace Checkpoint

/-- The checkpoint of a file and a configuration. -/
def ofConfig (path : Path) (config : Json.Value) : Except Failure Checkpoint :=
  match config with
  | .object members =>
    match (Json.Members.get? "vocab_char_size" members).bind
        Json.Value.natural? with
    | some size => .ok ⟨path, members, size⟩
    | none => .error (.checkpoint path .noVocabularySize)
  | other => .error (.checkpoint path (.notMapping other))

/-- The name of the file, or the whole path if it does not end in a name. -/
def name (c : Checkpoint) : String :=
  match c.path.fileName with
  | some name => Utf8.lossy name
  | none => c.path.display

end Checkpoint

end Restoration
