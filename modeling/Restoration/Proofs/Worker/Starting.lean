/-
The start of a worker: what is attempted, and when it succeeds.

The worker program is written to a file first, so an attempt to start it is
made exactly where that file can be had (`scriptAttempt?`), whatever comes
of the attempt. The start succeeds exactly if the first message of the
worker says that it is ready and brings the configuration of a model
(`SaysReady`).
-/
import Restoration.Proofs.Worker.Calls
import Restoration.Worker.Start

namespace Restoration.Worker

variable {w : World} {files : Files} {python : String} {checkout path : Path}

-- ============================================================= handshake

/-- The first message of a worker says that it is ready, and its
configuration is that of a model; this is the checkpoint, and the session
from then on. -/
def Session.SaysReady (s : Session) (path : Path) (checkpoint : Checkpoint)
    (t : Session) : Prop :=
  ∃ members rest hello, firstMessage s.unread = some (.ok members, rest)
    ∧ Handshake.ofMembers members = .ok hello ∧ hello.ready = true
    ∧ Checkpoint.ofConfig path hello.config = .ok checkpoint ∧
    t = s.withLines rest

/-- The worker's own word decides whether it has a checkpoint. -/
theorem Handshake.checkpoint_eq_ok_iff {h : Handshake}
    {checkpoint : Checkpoint} :
    h.checkpoint path = .ok checkpoint ↔
      h.ready = true ∧ Checkpoint.ofConfig path h.config = .ok checkpoint := by
  unfold Handshake.checkpoint
  cases h.ready with
  | true => simp
  | false => cases h.error <;> simp

/-- A handshake succeeds only with a worker that says it is ready. -/
theorem Session.handshake_eq_ok_iff {s t : Session} {checkpoint : Checkpoint} :
    s.handshake path = some (.ok (checkpoint, t)) ↔
      s.SaysReady path checkpoint t := by
  unfold Session.handshake SaysReady unread
  constructor
  · intro h
    split at h
    · split at h <;> cases h
    · cases h
    · rename_i members rest hfirst
      split at h
      · cases h
      · rename_i hello hhello
        split at h
        · cases h
        · rename_i found hfound
          cases h
          obtain ⟨hready, hconfig⟩ := Handshake.checkpoint_eq_ok_iff.mp hfound
          exact ⟨members, rest, hello, hfirst, hhello, hready, hconfig, rfl⟩
  · rintro ⟨members, rest, hello, hfirst, hhello, hready, hconfig, rfl⟩
    have hcheckpoint := Handshake.checkpoint_eq_ok_iff.mpr ⟨hready, hconfig⟩
    rw [hfirst]
    dsimp only
    rw [hhello]
    dsimp only
    rw [hcheckpoint]

-- =============================================================== attempt

variable (w files python checkout path) in
/-- The attempt to start the worker program, unless it cannot be written
down. -/
def scriptAttempt? : Option Attempt :=
  match files.put w.environment.temporaryDirectory (scriptName w)
    (.file script false) with
  | .error _ => none
  | .ok files =>
    some
      (w.attempt files (loading (scriptCommand w files python checkout) path))

/-- The worker is started on the script, once that is written down. -/
theorem scriptAttempt?_eq_some {a : Attempt} :
    scriptAttempt? w files python checkout path = some a ↔
      ∃ scripted,
        files.put w.environment.temporaryDirectory (scriptName w)
          (.file script false) = .ok scripted
        ∧ a = w.attempt scripted
          (loading (scriptCommand w scripted python checkout) path) := by
  unfold scriptAttempt?
  split
  case h_1 reason hput => simp [hput]
  case h_2 scripted hput => simp [hput, eq_comm]

/-- The worker that an attempt starts is ready. -/
def GetsReady (w : World) (a : Attempt) (path : Path) (ready : Ready) : Prop :=
  ∃ image, a.image = .ok image ∧
    (Session.start (w.converse (w.launch a image)) w.names.calls).SaysReady path
      ready.checkpoint ready.session

/-- A worker that is attempted is found and answers, or the start fails. -/
theorem start_cases {command : Command} {st : Start}
    (h : start w files command path = some st) :
    st.attempt = w.attempt files (loading command path) ∧
      ∀ ready, st.result = .ok ready → GetsReady w st.attempt path ready := by
  unfold start at h
  dsimp only at h
  split at h
  · cases h
    exact ⟨rfl, fun ready hready => nomatch hready⟩
  · rename_i image himage
    split at h
    · cases h
    · cases h
      exact ⟨rfl, fun ready hready => nomatch hready⟩
    · rename_i checkpoint session hhandshake
      cases h
      refine ⟨rfl, fun ready hready => ?_⟩
      cases hready
      exact ⟨image, himage, Session.handshake_eq_ok_iff.mp hhandshake⟩

/-- A start that ends has made that attempt, and is a success only if the
worker got ready. -/
theorem startScript_cases {st : ScriptStart}
    (h : startScript w files python checkout path = some st) :
    st.attempt = scriptAttempt? w files python checkout path ∧
      ∀ ready, st.result = .ok ready → ∃ a, st.attempt = some a ∧
        GetsReady w a path ready := by
  unfold startScript at h
  split at h
  case h_1 reason hput =>
    cases h
    refine ⟨?_, fun ready hready => nomatch hready⟩
    simp [scriptAttempt?, hput]
  case h_2 scripted hput =>
    have hattempt : scriptAttempt? w files python checkout path
        = some (w.attempt scripted
            (loading (scriptCommand w scripted python checkout) path)) :=
      scriptAttempt?_eq_some.mpr ⟨scripted, hput, rfl⟩
    rw [hattempt]
    split at h
    · cases h
    · rename_i attempt ready hstart
      obtain ⟨rfl, hready⟩ := start_cases hstart
      cases h
      refine ⟨rfl, fun ready' hready' => ?_⟩
      cases hready'
      exact ⟨_, rfl, hready ready rfl⟩
    · rename_i attempt f hstart
      obtain ⟨rfl, -⟩ := start_cases hstart
      cases h
      exact ⟨rfl, fun ready hready => nomatch hready⟩

end Restoration.Worker
