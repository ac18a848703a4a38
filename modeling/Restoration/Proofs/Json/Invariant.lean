/-
What the reader of JSON keeps from byte to byte.

The machine takes a byte in a mode, between the brackets that are open. Only a
number shows its end by the byte behind it, and that byte makes two moves. So
what each move keeps (`Kept`) is kept by the machine (`Kept.step`) and by a
whole text (`Kept.run`).
-/
import Restoration.Json.Reader

namespace Restoration.Json

/-- What every move of the machine keeps. -/
structure Kept (I : Step → Prop) : Prop where
  move {mode : Mode} {frames : List Frame} {b : UInt8} {s : Step} :
    I (mode, frames) → mode.step frames b = .ok s → I s
  /-- A number goes on. -/
  figure {numeral : Numeral} {frames : List Frame} (next : Numeral) :
    I (.number numeral, frames) → I (.number next, frames)
  /-- Something follows a number. -/
  follow {numeral : Numeral} {n : Number} {frames : List Frame} {b : UInt8}
    {s : Step} :
    I (.number numeral, frames) → follow (.number n) frames b = .ok s → I s

variable {I : Step → Prop} {m m' : Machine}

/-- What is kept whatever an outcome is. -/
theorem of_map_eq_ok {α : Type} {outcome : Except Cause α}
    {next : α → Step} {s : Step} (hstep : outcome.map next = .ok s)
    (h : ∀ a, I (next a)) : I s := by
  cases outcome with
  | error cause => cases hstep
  | ok a =>
      cases hstep
      exact h a

/-- A byte keeps it. -/
theorem Kept.step (hI : Kept I) {b : UInt8} (h : I (m.mode, m.frames))
    (hstep : m.step b = .ok m') :
    I (m'.mode, m'.frames) := by
  have hlocated {place : Position} {outcome : Except Cause Step}
      (houtcome : ∀ s, outcome = .ok s → I s)
      (heq : Machine.located place outcome = .ok m') :
      I (m'.mode, m'.frames) := by
    cases outcome with
    | error cause => cases heq
    | ok s =>
        cases heq
        exact houtcome s rfl
  obtain ⟨mode, frames, place⟩ := m
  unfold Machine.step at hstep
  dsimp only at h hstep
  split at hstep
  case h_1 numeral =>
    split at hstep
    · cases hstep
    · cases hstep
      exact hI.figure _ h
    · split at hstep
      · exact hlocated (fun s hs => hI.follow h hs) hstep
      · cases hstep
      · cases hstep
  case h_2 => exact hlocated (fun s hs => hI.move h hs) hstep

/-- A whole text keeps it. -/
theorem Kept.run (hI : Kept I) {bytes : Bytes} (h : I (m.mode, m.frames))
    (hrun : m.run bytes = .ok m') : I (m'.mode, m'.frames) := by
  induction bytes generalizing m with
  | nil =>
      cases hrun
      exact h
  | cons b bytes ih =>
      rw [Machine.run] at hrun
      split at hrun
      · next m₁ hstep => exact ih (hI.step h hstep) hrun
      · cases hrun

end Restoration.Json
