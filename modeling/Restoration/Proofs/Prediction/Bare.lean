/-
Answers that are no objects.

An answer is taken for an object if it begins with a brace, and as it stands
if it does not. A text that begins with a brace is read as an object or not at
all: once the brace is open, either it is still the outermost bracket, or the
object that it opened is complete (`InObject`). Every move of the reader keeps
this (`kept_inObject`), and what is read in the end is that object
(`isObject_of_read`). So an answer that is no object comes out as it stands
exactly if it does not begin with a brace, and if it does, all that comes of it
is the complaint of the reader (`ofBody_bare_iff`).
-/
import Restoration.Prediction
import Restoration.Proofs.Json.Invariant
import Restoration.Proofs.Text.Encoding

namespace Restoration

namespace Json

-- =============================================================== objects

/-- The outermost of the open brackets is a brace. -/
inductive OnObject : List Frame → Prop
  | outermost (members : Members) (key : String) :
      OnObject [.object members key]
  | inside {frames : List Frame} (frame : Frame) (h : OnObject frames) :
      OnObject (frame :: frames)

/-- A state in the object that a text is, or behind it. -/
inductive InObject : Step → Prop
  | firstKey : InObject (.firstKey, [])
  | nextKey (members : Members) : InObject (.nextKey members, [])
  | key (members : Members) (scan : Scan) : InObject (.key members scan, [])
  | colon (members : Members) (name : String) :
      InObject (.colon members name, [])
  | after (members : Members) : InObject (.after (.object members), [])
  | value (mode : Mode) {frames : List Frame} (h : OnObject frames) :
      InObject (mode, frames)

variable {frames : List Frame} {b : UInt8} {s : Step}

theorem begin?_inObject (h : OnObject frames)
    (hstep : begin? frames b = .ok s) : InObject s := by
  -- the first byte of a value closes no bracket
  have hframes : s.2 = frames := by
    unfold begin? at hstep
    repeat' split at hstep
    all_goals cases hstep
    all_goals rfl
  obtain ⟨mode, frames'⟩ := s
  cases hframes
  exact .value mode h

theorem follow_inObject {v : Value} (h : OnObject frames)
    (hstep : follow v frames b = .ok s) :
    InObject s := by
  unfold follow at hstep
  split at hstep
  · cases hstep
    exact .value _ h
  cases h with
  | outermost members key =>
      dsimp only at hstep
      split at hstep
      · cases hstep
        exact .nextKey _
      split at hstep
      · cases hstep
        exact .after _
      · cases hstep
  | inside frame h =>
      cases frame <;> dsimp only at hstep <;> split at hstep
      · cases hstep
        exact .value _ h
      · split at hstep
        · cases hstep
          exact .value _ h
        · cases hstep
      · cases hstep
        exact .value _ h
      · split at hstep
        · cases hstep
          exact .value _ h
        · cases hstep

/-- A byte in any mode but a number's, while a brace is the outermost
bracket. -/
theorem Mode.step_onObject {mode : Mode} (h : OnObject frames)
    (hstep : mode.step frames b = .ok s) : InObject s := by
  unfold Mode.step at hstep
  cases mode with
  | value =>
      dsimp only at hstep
      split at hstep
      · cases hstep
        exact .value _ h
      · exact begin?_inObject h hstep
  | firstItem =>
      dsimp only at hstep
      split at hstep
      · cases hstep
        exact .value _ h
      split at hstep
      · cases hstep
        exact .value _ h
      · exact begin?_inObject (.inside _ h) hstep
  | nextItem items =>
      dsimp only at hstep
      split at hstep
      · cases hstep
        exact .value _ h
      split at hstep
      · cases hstep
      · exact begin?_inObject (.inside _ h) hstep
  | firstKey | nextKey members =>
      dsimp only at hstep
      split at hstep
      · cases hstep
        exact .value _ h
      split at hstep
      · cases hstep <;> exact .value _ h
      split at hstep
      · cases hstep
        exact .value _ h
      · cases hstep
  | key members scan | string scan =>
      dsimp only at hstep
      split at hstep
      · exact of_map_eq_ok hstep fun _ => .value _ h
      · exact of_map_eq_ok hstep fun _ => .value _ h
  | colon members name =>
      dsimp only at hstep
      split at hstep
      · cases hstep
        exact .value _ h
      split at hstep
      · cases hstep
        exact .value _ (.inside _ h)
      · cases hstep
  | word due v =>
      cases due with
      | nil => exact follow_inObject h hstep
      | cons c due =>
          dsimp only at hstep
          split at hstep
          · cases hstep
            exact .value _ h
          · cases hstep
  | number numeral =>
      cases hstep
      exact .value _ h
  | after v => exact follow_inObject h hstep

/-- A byte in any mode but a number's. -/
theorem Mode.step_inObject {mode : Mode} (h : InObject (mode, frames))
    (hstep : mode.step frames b = .ok s) : InObject s := by
  cases h with
  | value _ h => exact Mode.step_onObject h hstep
  | firstKey | nextKey members =>
      unfold Mode.step at hstep
      dsimp only at hstep
      split at hstep
      · cases hstep
        constructor
      split at hstep
      · cases hstep <;> exact .after _
      split at hstep
      · cases hstep
        exact .key _ _
      · cases hstep
  | key members scan =>
      unfold Mode.step at hstep
      dsimp only at hstep
      split at hstep
      · exact of_map_eq_ok hstep fun name => .colon members name
      · exact of_map_eq_ok hstep fun scan => .key members scan
  | colon members name =>
      unfold Mode.step at hstep
      dsimp only at hstep
      split at hstep
      · cases hstep
        exact .colon members name
      split at hstep
      · cases hstep
        exact .value _ (.outermost members name)
      · cases hstep
  | after members =>
      unfold Mode.step follow at hstep
      dsimp only at hstep
      split at hstep
      · cases hstep
        exact .after members
      · cases hstep

theorem kept_inObject : Kept InObject where
  move h hstep := Mode.step_inObject h hstep
  figure next h := by
    cases h with
    | value _ hopen => exact .value _ hopen
  follow h hstep := by
    cases h with
    | value _ hopen => exact follow_inObject hopen hstep

namespace Machine

/-- No text ends while a bracket is open, so at its end the object is
complete. -/
theorem finish_inObject {m : Machine} {v : Value}
    (h : InObject (m.mode, m.frames)) (hfinish : m.finish = .ok v) :
    ∃ members, v = .object members := by
  obtain ⟨mode, frames, place⟩ := m
  cases h with
  | firstKey | nextKey | key | colon => cases hfinish
  | after members =>
      cases hfinish
      exact ⟨members, rfl⟩
  | value _ hopen =>
      have hsettle (w : Value) : ∃ cause, settle w frames = .error cause := by
        cases hopen with
        | outermost => exact ⟨_, rfl⟩
        | inside frame => cases frame <;> exact ⟨_, rfl⟩
      unfold finish at hfinish
      cases mode with
      | value | firstItem | nextItem | firstKey | nextKey | key | colon |
          string | word =>
          cases hfinish
      | after w =>
          obtain ⟨cause, hcause⟩ := hsettle w
          simp only [hcause] at hfinish
          cases hfinish
      | number numeral =>
          dsimp only at hfinish
          cases hnumber : numeral.finish? with
          | none => rw [hnumber] at hfinish; cases hfinish
          | some outcome =>
              cases outcome with
              | error cause => rw [hnumber] at hfinish; cases hfinish
              | ok n =>
                  obtain ⟨cause, hcause⟩ := hsettle (.number n)
                  simp only [hnumber, hcause] at hfinish
                  cases hfinish

end Machine

/-- A text that begins with a brace is read as an object or not at all. -/
theorem isObject_of_read {bytes : Bytes} {v : Value}
    (h : read (0x7B :: bytes) = .ok v) :
    ∃ members, v = .object members := by
  unfold read at h
  split at h
  · next m hrun =>
    have hopen : Machine.start.step 0x7B = .ok ⟨.firstKey, [], ⟨1, 1⟩⟩ := rfl
    rw [Machine.run, hopen] at hrun
    exact Machine.finish_inObject (kept_inObject.run .firstKey hrun) h
  · cases h

end Json

namespace Prediction

-- ================================================================ bodies

theorem looksLikeObject_iff {s : String} :
    looksLikeObject s = true ↔ ∃ rest, s.toList = '\x7b' :: rest := by
  unfold looksLikeObject
  rw [beq_iff_eq, List.head?_eq_some_iff]

/-- What looks like an object is one, or it is not read. -/
theorem isObject_of_parseText {s : String} {v : Json.Value}
    (hs : looksLikeObject s = true) (h : Json.parseText s = .ok v) :
    ∃ members, v = .object members := by
  obtain ⟨rest, hrest⟩ := looksLikeObject_iff.mp hs
  have hbytes : Utf8.encode s = 0x7B :: rest.flatMap String.utf8EncodeChar := by
    rw [Utf8.encode_eq_flatMap, hrest, List.flatMap_cons]
    rfl
  unfold Json.parseText Json.parse at h
  rw [hbytes] at h
  split at h
  · next w hread =>
    cases h
    exact Json.isObject_of_read hread
  · cases h

/-- An answer that is no object comes out as it stands, white space around
it not counted, if and only if it does not begin with a brace. If it does,
it is refused with the complaint of the reader. -/
theorem ofBody_bare_iff (body : String)
    (h : ∀ members, Json.parseText (Text.trim body) ≠ .ok (.object members)) :
    (ofBody body = .ok (Text.trim body) ↔
      (Text.trim body).toList.head? ≠ some '\x7b') ∧
      ((Text.trim body).toList.head? = some '\x7b' →
        ∃ e, Json.parseText (Text.trim body) = .error e ∧
          ofBody body = .error (.json e)) := by
  have hbrace : looksLikeObject (Text.trim body) = true ↔
      (Text.trim body).toList.head? = some '\x7b' := by
    rw [looksLikeObject, beq_iff_eq]
  have hrefused (hs : (Text.trim body).toList.head? = some '\x7b') :
      ∃ e, Json.parseText (Text.trim body) = .error e ∧
        ofBody body = .error (.json e) := by
    cases hparse : Json.parseText (Text.trim body) with
    | ok v =>
        obtain ⟨members, rfl⟩ := isObject_of_parseText (hbrace.mpr hs) hparse
        exact absurd hparse (h members)
    | error e =>
        refine ⟨e, rfl, ?_⟩
        simp only [ofBody, if_pos (hbrace.mpr hs), hparse]
  refine ⟨⟨fun hbody hs => ?_, fun hs => ?_⟩, hrefused⟩
  · obtain ⟨e, -, herror⟩ := hrefused hs
    rw [herror] at hbody
    cases hbody
  · simp only [ofBody, if_neg (mt hbrace.mp hs)]

/-- Brackets and braces elsewhere in an answer do no harm. -/
theorem ofBody_bare_bracketed :
    (∀ members, Json.parseText (Text.trim " [d]is \x7bman\x7dibus\n")
      ≠ .ok (.object members)) ∧
    ofBody " [d]is \x7bman\x7dibus\n" = .ok "[d]is \x7bman\x7dibus" := by
  have htrim : Text.trim " [d]is \x7bman\x7dibus\n"
      = "[d]is \x7bman\x7dibus" := by
    with_unfolding_all rfl
  have hparse : (Json.parseText "[d]is \x7bman\x7dibus").toOption.isNone
      = true := by
    with_unfolding_all rfl
  have hnone (members : Json.Members) :
      Json.parseText (Text.trim " [d]is \x7bman\x7dibus\n")
        ≠ .ok (.object members) := by
    rw [htrim]
    intro h
    rw [h] at hparse
    cases hparse
  have hbare := (ofBody_bare_iff " [d]is \x7bman\x7dibus\n" hnone).1
  rw [htrim] at hbare
  exact ⟨hnone, hbare.mpr (by decide)⟩

/-- An answer in which an editor has deleted its first letter. -/
theorem ofBody_deleted :
    (∀ members,
      Json.parseText (Text.trim "\x7bd\x7dis manibus")
        ≠ .ok (.object members)) ∧
      ofBody "\x7bd\x7dis manibus"
        = .error (.json (.malformed ⟨.keyNotString, ⟨1, 2⟩⟩)) := by
  have htrim : Text.trim "\x7bd\x7dis manibus" = "\x7bd\x7dis manibus" := by
    with_unfolding_all rfl
  have hparse : Json.parseText "\x7bd\x7dis manibus" =
      .error (.malformed ⟨.keyNotString, ⟨1, 2⟩⟩) := by
    with_unfolding_all rfl
  refine ⟨fun members => by rw [htrim, hparse]; exact nofun, ?_⟩
  have hbrace : looksLikeObject "\x7bd\x7dis manibus" = true := by decide
  rw [ofBody, htrim, if_pos hbrace, hparse]

end Prediction

end Restoration
