/-
What the first message of a worker decides.

A start waits for the first line that is an object, and that line alone
decides it (`verdict`). Either it announces a model (`Announces`), or there
is a reason against it (`Refusal`), and never both: each of these says what
the verdict is (`Announces.verdict_eq`, `Refusal.verdict_eq`), and there is
always one of them (`announces_or_refused`). So a start succeeds exactly if
there is a first message and it announces a model, and a start that fails
has the one reason there is, in these words (`start_decides`).
-/
import Restoration.Proofs.Text.Decoding
import Restoration.Proofs.Worker.Alike

namespace Restoration

open Json (Value)

/-- The natural numbers of at most 64 bits are read from themselves only. -/
theorem Json.Value.natural?_eq_some_iff {v : Value} {n : Nat} :
    v.natural? = some n ↔ n < 0x10000000000000000 ∧ v = .ofNat n := by
  constructor
  · intro h
    unfold Value.natural? at h
    split at h
    case h_2 => cases h
    case h_1 i hfits =>
        split at h
        case isFalse => cases h
        case isTrue hle =>
            injection h with h
            have hi : i = (n : Int) := by
              rw [← h]; exact (Int.toNat_of_nonneg hle).symm
            subst hi
            have hlt : n < 0x10000000000000000 := by
              unfold Json.fits at hfits
              simp only [Bool.and_eq_true, decide_eq_true_eq] at hfits
              omega
            refine ⟨hlt, ?_⟩
            unfold Value.ofNat
            rw [dif_pos hfits]
  · intro h
    obtain ⟨hlt, hv⟩ := h
    have hfits : Json.fits n = true := by
      unfold Json.fits
      simp only [Bool.and_eq_true, decide_eq_true_eq]
      omega
    rw [hv]
    unfold Value.ofNat
    rw [dif_pos hfits]
    unfold Value.natural?
    dsimp only
    rw [if_pos (Int.natCast_nonneg n), Int.toNat_natCast]

namespace Worker

variable {members : Json.Members} {path : Path} {lines rest : List Bytes}

-- ========================================================= first message

/-- Of lines, the first that is an object has the given members; these are
the lines after it. -/
def FirstMessage (lines : List Bytes) (members : Json.Members)
    (rest : List Bytes) : Prop :=
  ∃ front line, lines = front ++ line :: rest
    ∧ (∀ l ∈ front, ∀ members, ¬ IsMessage l members) ∧ IsMessage line members

/-- The first message is read if every line is text. -/
theorem FirstMessage.eq (h : FirstMessage lines members rest)
    (htext : ∀ l ∈ lines, ∃ text, Utf8.decode l = .ok text) :
    Session.firstMessage lines = some (.ok members, rest) := by
  obtain ⟨front, line, rfl, hfront, hline⟩ := h
  induction front with
  | nil =>
      rw [List.nil_append, Session.firstMessage, read_eq_message_iff.mpr hline]
  | cons l front ih =>
      obtain ⟨hl, hothers⟩ := List.forall_mem_cons.mp htext
      obtain ⟨hnot, hnots⟩ := List.forall_mem_cons.mp hfront
      rw [List.cons_append, Session.firstMessage,
        read_eq_noise_iff.mpr ⟨hl, hnot⟩]
      exact ih hothers hnots

/-- There is none to be read where no line is one. -/
theorem firstMessage_eq_none
    (htext : ∀ l ∈ lines, ∃ text, Utf8.decode l = .ok text)
    (h : ∀ l ∈ lines, ∀ members, ¬ IsMessage l members) :
    Session.firstMessage lines = none := by
  induction lines with
  | nil => rfl
  | cons l lines ih =>
      obtain ⟨hl, hothers⟩ := List.forall_mem_cons.mp htext
      obtain ⟨hnot, hnots⟩ := List.forall_mem_cons.mp h
      rw [Session.firstMessage, read_eq_noise_iff.mpr ⟨hl, hnot⟩]
      exact ih hothers hnots

/-- Lines hold a first message or no message at all. -/
theorem firstMessage_or_none (lines : List Bytes) :
    (∃ members rest, FirstMessage lines members rest)
      ∨ ∀ l ∈ lines, ∀ members, ¬ IsMessage l members := by
  induction lines with
  | nil => exact .inr fun l hl => absurd hl List.not_mem_nil
  | cons line lines ih =>
      by_cases hline : ∃ members, IsMessage line members
      · obtain ⟨members, hline⟩ := hline
        exact .inl ⟨members, lines, [], line, rfl,
          fun l hl => absurd hl List.not_mem_nil, hline⟩
      · have hnot : ∀ members, ¬ IsMessage line members := not_exists.mp hline
        rcases ih with
          ⟨members, rest, front, first, rfl, hfront, hfirst⟩ | hnone
        · exact .inl ⟨members, rest, line :: front, first, rfl,
            List.forall_mem_cons.mpr ⟨hnot, hfront⟩, hfirst⟩
        · exact .inr (List.forall_mem_cons.mpr ⟨hnot, hnone⟩)

-- ========================================================= announcements

/-- A message announces a model with the given configuration and size of
vocabulary. -/
structure Announces (members config : Json.Members) (size : Nat) : Prop where
  ready : members.get? "ready" = some (.bool true)
  error : IsTextOrNothing (members.get? "error")
  mapping : members.get? "model_config" = some (.object config)
  lt : size < 0x10000000000000000
  vocabulary : config.get? "vocab_char_size" = some (.ofNat size)

/-- Why a message is no handshake: a member that it needs has the wrong
type or is missing. -/
inductive Misread (members : Json.Members) : Json.Error → Prop
  | error {v : Value} (h : members.get? "error" = some v)
      (hform : ¬ IsTextOrNothing (members.get? "error")) :
      Misread members (.wrongType v "a string")
  | unsaid (herror : IsTextOrNothing (members.get? "error"))
      (h : members.get? "ready" = none) :
      Misread members (.missingField "ready")
  | ready {v : Value} (herror : IsTextOrNothing (members.get? "error"))
      (h : members.get? "ready" = some v) (hform : ∀ b, v ≠ .bool b) :
      Misread members (.wrongType v "a boolean")

/-- The words of a failure that is about a checkpoint. -/
def about (path : Path) (words : String) : String :=
  s!"checkpoint {path.display}: {words}"

/-- Why the start of a worker with this first message fails, and in what
words. -/
inductive Refusal (path : Path) (members : Json.Members) :
    Failure → String → Prop
  | misread {e : Json.Error} (h : Misread members e) :
      Refusal path members (.json e) e.message
  /-- It is not ready and tells why. -/
  | stated {words : String} (hready : members.get? "ready" = some (.bool false))
      (herror : members.get? "error" = some (.string words)) :
      Refusal path members (.checkpoint path (.stated words)) (about path words)
  | notReady (hready : members.get? "ready" = some (.bool false))
      (herror : IsNothing (members.get? "error")) :
      Refusal path members (.checkpoint path .notReady)
        (about path "worker not ready")
  | notMapping {found : Value}
      (hready : members.get? "ready" = some (.bool true))
      (herror : IsTextOrNothing (members.get? "error"))
      (hfound : (members.get? "model_config").getD .null = found)
      (hform : ∀ config, found ≠ .object config) :
      Refusal path members (.checkpoint path (.notMapping found))
        (about path s!"model_config is not a mapping: {found.write}")
  | noSize {config : Json.Members}
      (hready : members.get? "ready" = some (.bool true))
      (herror : IsTextOrNothing (members.get? "error"))
      (hconfig : members.get? "model_config" = some (.object config))
      (hform : ∀ size < 0x10000000000000000,
        config.get? "vocab_char_size" ≠ some (.ofNat size)) :
      Refusal path members (.checkpoint path .noVocabularySize)
        (about path "model_config has no vocab_char_size")

-- ============================================================== verdicts

/-- What is made of the first message. -/
def verdict (path : Path) (members : Json.Members) :
    Except Failure Checkpoint :=
  match Handshake.ofMembers members with
  | .error e => .error (.json e)
  | .ok h => h.checkpoint path

/-- A message that says whether it is ready is a handshake. -/
theorem Handshake.ofMembers_of_ready {ready : Bool}
    (herror : IsTextOrNothing (members.get? "error"))
    (hready : members.get? "ready" = some (.bool ready)) :
    Handshake.ofMembers members
      = .ok ⟨ready, (members.get? "model_config").getD .null,
      text? (members.get? "error")⟩ := by
  unfold Handshake.ofMembers
  rw [wantOptionalString_eq_ok herror, hready]
  rfl

/-- Members that misread as a handshake are an error. -/
theorem Misread.ofMembers_eq {e : Json.Error} (h : Misread members e) :
    Handshake.ofMembers members = .error e := by
  unfold Handshake.ofMembers
  cases h with
  | @error v h hform =>
      rw [wantOptionalString_eq_error_iff.mpr ⟨v, h, hform, rfl⟩]
      rfl
  | unsaid herror h =>
      rw [wantOptionalString_eq_ok herror, h]
      rfl
  | @ready v herror h hform =>
      rw [wantOptionalString_eq_ok herror, h]
      cases v with
      | bool b => exact absurd rfl (hform b)
      | null => rfl
      | number _ => rfl
      | string _ => rfl
      | array _ => rfl
      | object _ => rfl

/-- An announcement is accepted with what it announces. -/
theorem Announces.verdict_eq {config : Json.Members} {size : Nat}
    (h : Announces members config size) (path : Path) :
    verdict path members = .ok ⟨path, config, size⟩ := by
  unfold verdict
  rw [Handshake.ofMembers_of_ready h.error h.ready, h.mapping]
  show Checkpoint.ofConfig path (.object config) = _
  unfold Checkpoint.ofConfig
  dsimp only
  rw [h.vocabulary, Option.bind_some,
    Value.natural?_eq_some_iff.mpr ⟨h.lt, rfl⟩]

/-- A refusal fails with what it says. -/
theorem Refusal.verdict_eq {f : Failure} {words : String}
    (h : Refusal path members f words) :
    verdict path members = .error f := by
  unfold verdict
  cases h with
  | misread h => rw [h.ofMembers_eq]
  | stated hready herror =>
      rw [Handshake.ofMembers_of_ready (.inr ⟨_, herror⟩) hready, herror]
      rfl
  | notReady hready herror =>
      rw [Handshake.ofMembers_of_ready (.inl herror) hready]
      rcases herror with herror | herror <;> rw [herror] <;> rfl
  | @notMapping found hready herror hfound hform =>
      rw [Handshake.ofMembers_of_ready herror hready, hfound]
      show Checkpoint.ofConfig path found = _
      cases found with
      | object config => exact absurd rfl (hform config)
      | null => rfl
      | bool _ => rfl
      | number _ => rfl
      | string _ => rfl
      | array _ => rfl
  | @noSize config hready herror hconfig hform =>
      rw [Handshake.ofMembers_of_ready herror hready, hconfig]
      show Checkpoint.ofConfig path (.object config) = _
      have hnone :
          (config.get? "vocab_char_size").bind Value.natural? = none := by
        rw [Option.bind_eq_none_iff]
        intro v hv
        rw [Option.eq_none_iff_forall_ne_some]
        intro size hsize
        obtain ⟨hlt, hnumber⟩ := Value.natural?_eq_some_iff.mp hsize
        rw [hnumber] at hv
        exact hform size hlt hv
      unfold Checkpoint.ofConfig
      dsimp only
      rw [hnone]

/-- The words of a refusal are those of its failure. -/
theorem Refusal.message_eq {f : Failure} {words : String}
    (h : Refusal path members f words) :
    f.message = words := by
  cases h <;> rfl

/-- There is no message without a verdict. -/
theorem announces_or_refused (path : Path) (members : Json.Members) :
    (∃ config size, Announces members config size) ∨
    ∃ f words, Refusal path members f words := by
  by_cases herror : IsTextOrNothing (members.get? "error")
  case neg =>
    cases h : members.get? "error" with
    | none => exact absurd (.inl (.inl h)) herror
    | some v => exact .inr ⟨_, _, .misread (.error h herror)⟩
  case pos =>
    rcases hready : members.get? "ready" with - | v
    · exact .inr ⟨_, _, .misread (.unsaid herror hready)⟩
    · by_cases hbool : ∃ b, v = .bool b
      case neg =>
        exact .inr ⟨_, _, .misread (.ready herror hready (not_exists.mp hbool))⟩
      case pos =>
        obtain ⟨b, rfl⟩ := hbool
        cases b with
        | false =>
            rcases herror with herror | ⟨words, herror⟩
            · exact .inr ⟨_, _, .notReady hready herror⟩
            · exact .inr ⟨_, _, .stated hready herror⟩
        | true =>
            by_cases hmapping : ∃ config,
              members.get? "model_config" = some (.object config)
            case neg =>
              refine .inr
                ⟨_, _, .notMapping hready herror rfl fun config hobject => ?_⟩
              cases hmodel : members.get? "model_config" with
              | none =>
                  rw [hmodel] at hobject
                  cases hobject
              | some v =>
                  rw [hmodel] at hobject
                  exact hmapping ⟨config, hmodel.trans (congrArg some hobject)⟩
            case pos =>
              obtain ⟨config, hconfig⟩ := hmapping
              by_cases hsize : ∃ size < 0x10000000000000000,
                  Json.Members.get? "vocab_char_size" config
                    = some (Value.ofNat size)
              · obtain ⟨size, hlt, hsize⟩ := hsize
                exact .inl ⟨config, size, hready, herror, hconfig, hlt, hsize⟩
              · refine .inr
                  ⟨_, _, .noSize hready herror hconfig fun size hlt h => ?_⟩
                exact hsize ⟨size, hlt, h⟩

-- ============================================================= handshake

namespace Session

variable {s t : Session} {checkpoint : Checkpoint} {f : Failure}
  {words : String}

/-- The worker has said no message, and it has left or not. -/
structure Silent (s : Session) (left : Bool) : Prop where
  left : s.left = left
  noise : ∀ l ∈ s.unread, ∀ members, ¬ IsMessage l members

/-- The first message announces a model: this is the checkpoint, and in the
session from then on the lines after that message are unread. -/
def Accepts (s : Session) (path : Path) (checkpoint : Checkpoint)
    (t : Session) : Prop :=
  ∃ members rest config size, FirstMessage s.unread members rest
    ∧ Announces members config size ∧ checkpoint = ⟨path, config, size⟩ ∧
    t = s.withLines rest

/-- Why there is no checkpoint, and in what words. -/
inductive Refuses (s : Session) (path : Path) : Failure → String → Prop
  | exited (h : s.Silent true) : Refuses s path .workerExited "worker exited"
  | message {members : Json.Members} {rest : List Bytes} {f : Failure}
      {words : String}
      (h : FirstMessage s.unread members rest)
      (hrefusal : Refusal path members f words) :
      Refuses s path f words

/-- With a first message, a handshake is the verdict on it. -/
theorem handshake_of_message
    (htext : ∀ l ∈ s.unread, ∃ text, Utf8.decode l = .ok text)
    (h : FirstMessage s.unread members rest) (path : Path) :
    s.handshake path
      = some ((verdict path members).map fun c => (c, s.withLines rest)) := by
  have hfirst : firstMessage s.output.lines = some (.ok members, rest) :=
    h.eq htext
  unfold handshake verdict
  rw [hfirst]
  dsimp only
  cases Handshake.ofMembers members with
  | error e => rfl
  | ok hello =>
      dsimp only
      cases hello.checkpoint path <;> rfl

/-- A silent worker fails the handshake when it leaves, and keeps it waiting
otherwise. -/
theorem Silent.handshake_eq
    (htext : ∀ l ∈ s.unread, ∃ text, Utf8.decode l = .ok text) {left : Bool}
    (h : s.Silent left) (path : Path) :
    s.handshake path = if left then some (.error .workerExited) else none := by
  have hfirst : firstMessage s.output.lines = none :=
    firstMessage_eq_none htext h.noise
  unfold handshake
  rw [hfirst]
  dsimp only
  rw [h.left]

/-- An accepted handshake gives the checkpoint and leaves the later lines
unread. -/
theorem Accepts.handshake_eq
    (htext : ∀ l ∈ s.unread, ∃ text, Utf8.decode l = .ok text)
    (h : s.Accepts path checkpoint t) :
    s.handshake path = some (.ok (checkpoint, t)) := by
  obtain ⟨members, rest, config, size, hfirst, hannounces, rfl, rfl⟩ := h
  rw [handshake_of_message htext hfirst, hannounces.verdict_eq]
  rfl

/-- A refused one gives the failure. -/
theorem Refuses.handshake_eq
    (htext : ∀ l ∈ s.unread, ∃ text, Utf8.decode l = .ok text)
    (h : s.Refuses path f words) : s.handshake path = some (.error f) := by
  cases h with
  | exited h => exact h.handshake_eq htext path
  | message hfirst hrefusal =>
      rw [handshake_of_message htext hfirst, hrefusal.verdict_eq]
      rfl

/-- Whatever a worker has said, it is one of the three. -/
theorem silent_or_accepts_or_refuses (s : Session) (path : Path) :
    s.Silent false ∨ (∃ checkpoint t, s.Accepts path checkpoint t)
      ∨ ∃ f, s.Refuses path f f.message := by
  rcases firstMessage_or_none s.unread with ⟨members, rest, hfirst⟩ | hnone
  · rcases announces_or_refused path members with
      ⟨config, size, hannounces⟩ | ⟨f, words, hrefusal⟩
    · exact .inr
        (.inl ⟨_, _, members, rest, config, size, hfirst, hannounces, rfl, rfl⟩)
    · obtain rfl := hrefusal.message_eq
      exact .inr (.inr ⟨f, .message hfirst hrefusal⟩)
  · cases hleft : s.left with
    | false => exact .inl ⟨hleft, hnone⟩
    | true => exact .inr (.inr ⟨_, .exited ⟨hleft, hnone⟩⟩)

/-- The first message decides a handshake: there is no end to it while
there is none, and otherwise it succeeds or fails by what is in it. -/
theorem handshake_decided
    (htext : ∀ l ∈ s.unread, ∃ text, Utf8.decode l = .ok text) (path : Path) :
    (s.handshake path = none ↔ s.Silent false)
      ∧ (∀ checkpoint t, s.handshake path = some (.ok (checkpoint, t))
        ↔ s.Accepts path checkpoint t)
      ∧ ∀ f, s.handshake path = some (.error f) ↔
        s.Refuses path f f.message := by
  refine ⟨⟨fun h => ?_, fun h => h.handshake_eq htext path⟩,
    fun checkpoint t => ⟨fun h => ?_, fun h => h.handshake_eq htext⟩,
    fun f => ⟨fun h => ?_, fun h => h.handshake_eq htext⟩⟩
  all_goals
    rcases silent_or_accepts_or_refuses s path with
      hsilent | ⟨found, t', haccepts⟩ | ⟨f', hrefuses⟩
  · exact hsilent
  · rw [haccepts.handshake_eq htext] at h
    cases h
  · rw [hrefuses.handshake_eq htext] at h
    cases h
  · rw [hsilent.handshake_eq htext] at h
    cases h
  · rw [haccepts.handshake_eq htext] at h
    cases h
    exact haccepts
  · rw [hrefuses.handshake_eq htext] at h
    cases h
  · rw [hsilent.handshake_eq htext] at h
    cases h
  · rw [haccepts.handshake_eq htext] at h
    cases h
  · rw [hrefuses.handshake_eq htext] at h
    cases h
    exact hrefuses

end Session

-- ================================================================ start

variable {w : World} {files : Files} {command : Command} {image : Bytes}

/-- The session with a program that an attempt has started. -/
def greeted (w : World) (a : Attempt) (image : Bytes) : Session :=
  Session.start (w.converse (w.launch a image)) w.names.calls

/-- The start of a program that is found is a handshake with it. -/
theorem start_eq_handshake
    (himage : (w.attempt files (loading command path)).image = .ok image) :
    (start w files command path).map Start.result
      = ((greeted w (w.attempt files (loading command path)) image).handshake
        path).map (Except.map fun found => ⟨found.1, found.2⟩) := by
  unfold start greeted
  dsimp only
  rw [himage]
  dsimp only
  split
  case h_1 hnone =>
      rw [hnone]
      rfl
  case h_2 f hfails =>
      rw [hfails]
      rfl
  case h_3 checkpoint session hready =>
      rw [hready]
      rfl

/-- The first message decides the start of a program. There is no end to
the start while the program says none and does not leave. It succeeds
exactly if that message is there, says that the worker is ready, and brings
the configuration of a model: then the checkpoint has that path, that
configuration and that size, and the lines after the message are unread.
And it fails exactly if there is a reason, and with that reason. -/
theorem start_decides {a : Attempt}
    (hattempt : w.attempt files (loading command path) = a)
    (himage : a.image = .ok image)
    (htext : ∀ l ∈ (greeted w a image).unread,
      ∃ text, Utf8.decode l = .ok text) :
    (start w files command path = none ↔ (greeted w a image).Silent false)
      ∧ (∀ ready,
        (start w files command path).map Start.result = some (.ok ready)
        ↔ ∃ members rest config size,
          FirstMessage (greeted w a image).unread members rest
          ∧ Announces members config size
          ∧ ready = ⟨⟨path, config, size⟩, (greeted w a image).withLines rest⟩)
      ∧ ∀ f, (start w files command path).map Start.result = some (.error f)
        ↔ (greeted w a image).Refuses path f f.message := by
  subst hattempt
  obtain ⟨hnone, hok, herror⟩ := Session.handshake_decided htext path
  have hstart := start_eq_handshake himage
  refine ⟨?_, fun ready => ?_, fun f => ?_⟩
  · rw [← hnone, ← Option.map_eq_none_iff (f := Start.result), hstart,
      Option.map_eq_none_iff]
  · rw [hstart, Option.map_eq_some_iff]
    constructor
    · intro h
      obtain ⟨result, hresult, hmap⟩ := h
      cases result with
      | error f => cases hmap
      | ok found =>
          obtain ⟨checkpoint, t⟩ := found
          obtain ⟨members, rest, config, size, hfirst, hannounces, rfl, rfl⟩ :=
            (hok checkpoint t).mp hresult
          cases hmap
          exact ⟨members, rest, config, size, hfirst, hannounces, rfl⟩
    · intro h
      obtain ⟨members, rest, config, size, hfirst, hannounces, rfl⟩ := h
      exact ⟨_, (hok _ _).mpr
        ⟨members, rest, config, size, hfirst, hannounces, rfl, rfl⟩, rfl⟩
  · rw [hstart, Option.map_eq_some_iff, ← herror]
    constructor
    · intro h
      obtain ⟨result, hresult, hmap⟩ := h
      cases result with
      | error f' =>
          cases hmap
          exact hresult
      | ok found => cases hmap
    · exact fun h => ⟨_, h, rfl⟩

/-- The world in which the worker says some lines. -/
def sayingWorld (lines : List Bytes) : World :=
  { readyWorld with converse := fun _ => .script lines [] }

/-- The attempt to start it. -/
def sayingAttempt (lines : List Bytes) : Attempt :=
  (sayingWorld lines).attempt readyFiles
    (loading ⟨"/w", [], []⟩ (Path.ofString "m"))

/-- The worker of the examples can be started. -/
theorem sayingAttempt_image (lines : List Bytes) :
    (sayingAttempt lines).image = .ok [] := by
  with_unfolding_all rfl

/-- What a worker says that is ready, and what one says that is not. -/
def readyLines : List Bytes :=
  [Utf8.encode "loading", readyLine, Utf8.encode "50%"]

def notReadyLines : List Bytes :=
  [Utf8.encode "loading",
    Utf8.encode "\x7b\"ready\":false,\"error\":\"no weights\"\x7d"]

/-- It says the lines it is given. -/
theorem sayingWorld_unread :
    (greeted (sayingWorld readyLines) (sayingAttempt readyLines) []).unread
      = readyLines
      ∧ (greeted (sayingWorld notReadyLines)
        (sayingAttempt notReadyLines) []).unread = notReadyLines :=
  ⟨by with_unfolding_all rfl, by with_unfolding_all rfl⟩

/-- Noise does not decide: a start succeeds by the line after it and leaves
the next one unread, or fails in the words of the worker. -/
theorem start_decides_saying :
    (∃ ready, (start (sayingWorld readyLines) readyFiles ⟨"/w", [], []⟩
          (Path.ofString "m")).map Start.result = some (.ok ready)
        ∧ ready.checkpoint = readyCheckpoint ∧
        ready.session.unread = [Utf8.encode "50%"])
      ∧ (start (sayingWorld notReadyLines) readyFiles ⟨"/w", [], []⟩
          (Path.ofString "m")).map Start.result
        = some (.error
            (.checkpoint (Path.ofString "m") (.stated "no weights"))) := by
  have hnoise : ∀ l ∈ [Utf8.encode "loading"],
      ∀ members, ¬ IsMessage l members :=
    List.forall_mem_singleton.mpr
      (read_eq_noise_iff.mp (by with_unfolding_all rfl)).2
  obtain ⟨hready, hnotReady⟩ := sayingWorld_unread
  constructor
  · obtain ⟨-, hok, -⟩ := start_decides (w := sayingWorld readyLines)
      (show _ = sayingAttempt readyLines from rfl) (sayingAttempt_image _)
      (by rw [hready]; simp [readyLines, readyLine, Utf8.decode_encode])
    have hfirst : FirstMessage readyLines
        [("model_config", .object readyCheckpoint.config),
          ("ready", .bool true)]
        [Utf8.encode "50%"] :=
      ⟨_, readyLine, rfl, hnoise,
        read_eq_message_iff.mp (by with_unfolding_all rfl)⟩
    refine ⟨_, (hok _).mpr
      ⟨_, _, readyCheckpoint.config, 34, hready.symm ▸ hfirst, ?_, rfl⟩,
      rfl, rfl⟩
    exact ⟨rfl, .inl (.inl rfl), rfl, by decide, by with_unfolding_all rfl⟩
  · obtain ⟨-, -, herror⟩ := start_decides (w := sayingWorld notReadyLines)
      (show _ = sayingAttempt notReadyLines from rfl) (sayingAttempt_image _)
      (by rw [hnotReady]; simp [notReadyLines, Utf8.decode_encode])
    have hfirst : FirstMessage notReadyLines
        [("error", .string "no weights"), ("ready", .bool false)] [] :=
      ⟨_, _, rfl, hnoise, read_eq_message_iff.mp (by with_unfolding_all rfl)⟩
    exact (herror _).mpr (.message (hnotReady.symm ▸ hfirst) (.stated rfl rfl))

end Worker

end Restoration
