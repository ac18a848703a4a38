/-
What restores a text: a machine that is given one text after another. Its
answer to a text is a result document, a failure, or nothing for ever,
when whatever it relies on stays silent.
-/
import Restoration.Event
import Restoration.Params

namespace Restoration

/-- The end of one call: the result, what was worth telling meanwhile, and
the state for the next call. -/
structure Restored (σ : Type) where
  result : Except Failure Json.Value
  events : List Event
  state : σ

/-- A restorer with states in `σ`. A call that never ends has no answer. -/
abbrev Restorer (σ : Type) := σ → String → Params → Option (Restored σ)

end Restoration
