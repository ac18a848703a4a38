/-
The temperature of a request, from the environment to the worker.

A setting is read as the nearest single, so the texts that read as no finite
number are the words for infinity and for an undefined number, and the
decimals from half a step above the greatest finite single on
(`read_exceeds_iff`). Such a text counts as given: the temperature is taken
from it, and since JSON has no number for it, every request holds a `null`
in its place. All other texts and none bring a number.
-/
import Restoration.Proofs.Binary.Rounding
import Restoration.Proofs.Worker.Wire
import Restoration.Settings

namespace Restoration

open Binary

namespace Binary

-- ============================================================== literals

/-- A literal without its sign. -/
def unsigned (s : String) : List Char :=
  match s.toList with
  | '-' :: rest => rest
  | '+' :: rest => rest
  | cs => cs

/-- An unsigned literal of a number that no finite single is near to: a
decimal from 2 ^ 128 - 2 ^ 103 on, or a word. -/
def ExceedsSingle (cs : List Char) : Prop :=
  match readDecimal cs with
  | some (digits, power) =>
    (2 ^ 25 - 1) * 2 ^ 103 * 10 ^ (-power).toNat ≤ digits * 10 ^ power.toNat
  | none => String.ofList (cs.map lowerAscii) ∈ ["inf", "infinity", "nan"]

theorem Number.isFinite_ofCount {f : Format} (negative : Bool) (count : Nat) :
    (Number.ofCount negative count : Number f).isFinite = true ↔
      count < f.infinity := by
  unfold Number.ofCount
  split
  case isTrue h => exact ⟨fun _ => h, fun _ => rfl⟩
  case isFalse h => exact iff_of_false Bool.false_ne_true h

theorem readUnsigned_exceeds_iff (negative : Bool) (cs : List Char) :
    (∃ x, readUnsigned single negative cs = some x ∧ x.isFinite = false) ↔
      ExceedsSingle cs := by
  unfold readUnsigned ExceedsSingle
  cases readDecimal cs with
  | some decimal =>
      obtain ⟨digits, power⟩ := decimal
      dsimp only
      rw [← Format.single_infinity_le_ofDecimal_iff, ← Nat.not_lt,
        ← Number.isFinite_ofCount negative, Bool.not_eq_true]
      simp only [Option.some.injEq, exists_eq_left']
  | none =>
      simp only [List.mem_cons, List.not_mem_nil, or_false]
      generalize String.ofList (cs.map lowerAscii) = word
      by_cases hinf : word = "inf" ∨ word = "infinity"
      · rw [if_pos hinf]
        exact ⟨fun _ => hinf.imp_right Or.inl, fun _ => ⟨_, rfl, rfl⟩⟩
      · rw [if_neg hinf]
        by_cases hnan : word = "nan"
        · rw [if_pos hnan]
          exact ⟨fun _ => Or.inr (Or.inr hnan), fun _ => ⟨_, rfl, rfl⟩⟩
        · rw [if_neg hnan]
          constructor
          · rintro ⟨x, hx, -⟩
            cases hx
          · intro hword
            rcases hword with h | h | h
            · exact absurd (Or.inl h) hinf
            · exact absurd (Or.inr h) hinf
            · exact absurd h hnan

/-- A text reads as a number that is not finite if it is such a literal,
with a sign or without one. -/
theorem read_exceeds_iff (s : String) :
    (∃ x, read single s = some x ∧ x.isFinite = false) ↔
      ExceedsSingle (unsigned s) := by
  unfold read
  split
  · next rest hminus =>
    rw [unsigned, hminus]
    exact readUnsigned_exceeds_iff true rest
  · next rest hplus =>
    rw [unsigned, hplus]
    exact readUnsigned_exceeds_iff false rest
  · next hminus hplus =>
    unfold unsigned
    split
    · next rest h => exact absurd h (hminus rest)
    · next rest h => exact absurd h (hplus rest)
    · exact readUnsigned_exceeds_iff false s.toList

end Binary

namespace Settings

-- ============================================================== settings

variable (home : Option Path) (lookup : String → Option String)

/-- The temperature that the environment gives is finite unless it gives one
of these texts. -/
theorem isFinite_temperature :
    (ofLookup home lookup).params.temperature.isFinite = false
      ↔ ∃ s, lookup "AENEAS_TEMPERATURE" = some s ∧
        ExceedsSingle (unsigned s) := by
  have hdefault : Params.default.temperature.isFinite = true := by decide
  have htemperature : (ofLookup home lookup).params.temperature
      = ((lookup "AENEAS_TEMPERATURE").bind (read single)).getD
        Params.default.temperature := rfl
  rw [htemperature]
  cases lookup "AENEAS_TEMPERATURE" with
  | none => simp [hdefault]
  | some s =>
      simp only [Option.bind_some, Option.some.injEq, exists_eq_left',
        ← read_exceeds_iff]
      cases read single s with
      | none => simp [hdefault]
      | some x => simp

/-- What a request says about the temperature: it is a number, unless the
environment gives a text that exceeds the singles, which is sent as `null`.
-/
theorem read_request_ofLookup (id text : String) :
    ∃ line temperature,
      Worker.requestLine id text (ofLookup home lookup).params = line ++ [10]
      ∧ Json.read line = .ok (.object
        (Worker.requestMembers id text (ofLookup home lookup).params
          temperature))
      ∧ ((∃ n, temperature = .number n)
        ↔ ∀ s, lookup "AENEAS_TEMPERATURE" = some s →
          ¬ ExceedsSingle (unsigned s))
      ∧ (temperature = .null
        ↔ ∃ s, lookup "AENEAS_TEMPERATURE" = some s ∧
          ExceedsSingle (unsigned s)) := by
  obtain ⟨temperature, hread, htemperature⟩ :=
    Worker.read_request id text (ofLookup home lookup).params
  refine ⟨_, temperature, Worker.requestLine_eq id text _, hread, ?_⟩
  rw [htemperature.number_iff, htemperature.null_iff, isFinite_temperature,
    ← not_iff_not, Bool.not_eq_true, isFinite_temperature]
  refine ⟨?_, Iff.rfl⟩
  simp only [not_forall, not_not, exists_prop]

/-- An environment that gives nothing but an infinite temperature. -/
def infiniteTemperature (name : String) : Option String :=
  if name = "AENEAS_TEMPERATURE" then some "inf" else none

/-- The worker reads `null` then. -/
theorem read_request_infinite :
    ∃ members : Json.Members,
      Json.read
        (Worker.request "a" "x" (ofLookup none infiniteTemperature).params)
          = .ok (.object members)
        ∧ members.get? "temperature" = some .null := by
  obtain ⟨temperature, hread, htemperature⟩ :=
    Worker.read_request "a" "x" (ofLookup none infiniteTemperature).params
  have hinfinite :
      (ofLookup none infiniteTemperature).params.temperature.isFinite
        = false := by
    with_unfolding_all rfl
  obtain rfl := htemperature.null_iff.mpr hinfinite
  exact ⟨_, hread, rfl⟩

end Settings

end Restoration
