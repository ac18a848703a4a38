/-
Which file names belong to a checkpoint: the marker occurs in the name in
any letter case, the name ends in a point and the extension, and the
exclusion, unless it is empty, does not occur.
-/
import Restoration.Text.Case

namespace Restoration

namespace Text

/-- Whether one text starts another. -/
def occursFirst : List Char → List Char → Bool
  | [], _ => true
  | _ :: _, [] => false
  | a :: part, b :: whole => a == b && occursFirst part whole

/-- Whether a text occurs in another one. -/
def occurs (part : List Char) : List Char → Bool
  | [] => occursFirst part []
  | c :: rest => occursFirst part (c :: rest) || occurs part rest

end Text

/-- A rule for file names. -/
structure Matcher where
  /-- Occurs in any letter case. -/
  marker : String
  extension : String
  /-- Does not occur, letter case counting. -/
  exclusion : String
  deriving DecidableEq, Repr

namespace Matcher

/-- The checkpoint of the model, and not its embeddings. -/
def default : Matcher := ⟨"aeneas", "pkl", "emb"⟩

/-- Whether a file name belongs to a checkpoint. -/
def accepts (m : Matcher) (name : String) : Bool :=
  Text.occurs (Text.lower m.marker).toList (Text.lower name).toList &&
  Text.occursFirst ('.' :: m.extension.toList).reverse name.toList.reverse &&
  (m.exclusion == "" || !Text.occurs m.exclusion.toList name.toList)

end Matcher

end Restoration
