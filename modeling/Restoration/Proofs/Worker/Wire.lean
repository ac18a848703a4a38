/-
What a worker reads. A request is followed through the reader of JSON member
by member: each key and its value lead to the comma behind them
(`moves_member`), and the five members end up in the order of their keys
(`read_request`). Only a temperature may be lost on the way.

The invariant of a run is that no request has been begun, unless the worker
has left in the middle of one: then the next one is read as it is, whatever
its text, or is refused as a whole because the worker has left
(`call_heard`). So in a run in which no call is given up in
the middle of its request, what the worker has read are the requests that
reached it (`callAll_delivered`).
-/
import Restoration.Proofs.Json.Numerals
import Restoration.Proofs.Worker.Isolation

namespace Restoration

open Json (Value Moves Ends Due Machine)

/-- Whether a number is finite. -/
def Binary.Number.isFinite {f : Binary.Format} : Binary.Number f → Bool
  | .finite _ => true
  | .infinite _ => false
  | .undefined _ => false

namespace Worker

-- ============================================================== settings

/-- What a temperature is on the wire: a number, or `null` if it is not
finite. -/
def IsTemperature (t : Binary.Number Binary.single) (v : Value) : Prop :=
  if t.isFinite then ∃ n, v = .number n else v = .null

theorem IsTemperature.number_iff {t : Binary.Number Binary.single} {v : Value}
    (h : IsTemperature t v) : (∃ n, v = .number n) ↔ t.isFinite = true := by
  unfold IsTemperature at h
  by_cases hfinite : t.isFinite = true
  · rw [if_pos hfinite] at h
    exact ⟨fun _ => hfinite, fun _ => h⟩
  · rw [if_neg hfinite] at h
    refine ⟨?_, fun h => absurd h hfinite⟩
    rintro ⟨n, hn⟩
    rw [h] at hn
    cases hn

theorem IsTemperature.null_iff {t : Binary.Number Binary.single} {v : Value}
    (h : IsTemperature t v) : v = .null ↔ t.isFinite = false := by
  rw [← Bool.not_eq_true, ← h.number_iff]
  constructor
  · rintro rfl ⟨n, hn⟩
    cases hn
  · intro hnone
    unfold IsTemperature at h
    split at h
    · exact absurd h hnone
    · exact h

theorem moves_temperature {s : Json.Step} {frames : List Json.Frame}
    (h : Due s frames) (t : Binary.Number Binary.single) :
    ∃ mode v, Moves s (Utf8.encode (Params.writeTemperature t)) (mode, frames) ∧
      Ends v mode ∧ IsTemperature t v := by
  have hnull : Moves s (Utf8.encode "null") (.after .null, frames) :=
    h.word rfl rfl (by decide) rfl
  cases t with
  | finite x =>
      obtain ⟨mode, n, hmoves, hends⟩ := Json.moves_single h x
      exact ⟨mode, .number n, hmoves, hends, n, rfl⟩
  | infinite _ => exact ⟨_, _, hnull, .after, rfl⟩
  | undefined _ => exact ⟨_, _, hnull, .after, rfl⟩

theorem moves_count {s : Json.Step} {frames : List Json.Frame}
    (h : Due s frames) (n : UInt32) :
    ∃ mode, Moves s (Utf8.encode (toString n)) (mode, frames) ∧
      Ends (.ofNat n.toNat) mode := by
  have hfits : Json.fits n.toNat = true := by
    have := n.toNat_lt
    simp only [Json.fits, Bool.and_eq_true, decide_eq_true_eq]
    omega
  obtain ⟨mode, hmoves, hends⟩ := Json.moves_integer h n.toNat hfits
  rw [Value.ofNat, dif_pos hfits]
  exact ⟨mode, hmoves, hends⟩

-- ============================================================== requests

/-- The members of a request, in the order of their keys. -/
def requestMembers (id text : String) (params : Params)
    (temperature : Value) : Json.Members :=
  [("beam_width", .ofNat params.beamWidth.toNat), ("id", .string id),
    ("temperature", temperature), ("text", .string text),
    ("unk_restoration_max_len", .ofNat params.maxUnknownLength.toNat)]

/-- The bytes of a request: its keys and values, one behind the other. -/
theorem request_eq (id text : String) (params : Params) :
    request id text params = 0x7B :: (Json.quoted "id" ++ [0x3A])
      ++ (Json.quoted id ++ 0x2C :: (Json.quoted "text" ++ [0x3A]))
      ++ (Json.quoted text ++ 0x2C :: (Json.quoted "beam_width" ++ [0x3A]))
      ++ (Utf8.encode (toString params.beamWidth)
        ++ 0x2C :: (Json.quoted "temperature" ++ [0x3A]))
      ++ (Utf8.encode (Params.writeTemperature params.temperature)
        ++ 0x2C :: (Json.quoted "unk_restoration_max_len" ++ [0x3A]))
      ++ (Utf8.encode (toString params.maxUnknownLength) ++ [0x7D]) := by
  have hmarks : Utf8.encode "\x7b\"id\":" = 0x7B :: (Json.quoted "id" ++ [0x3A])
      ∧ Utf8.encode ",\"text\":" = 0x2C :: (Json.quoted "text" ++ [0x3A])
      ∧ Utf8.encode "," = [0x2C]
      ∧ Utf8.encode "\"beam_width\":" = Json.quoted "beam_width" ++ [0x3A]
      ∧ Utf8.encode ",\"temperature\":"
        = 0x2C :: (Json.quoted "temperature" ++ [0x3A])
      ∧ Utf8.encode ",\"unk_restoration_max_len\":"
        = 0x2C :: (Json.quoted "unk_restoration_max_len" ++ [0x3A])
      ∧ Utf8.encode "\x7d" = [0x7D] ∧ Utf8.encode "" = [] := by
    simp only [Utf8.encode_eq_flatMap]
    decide +kernel
  obtain ⟨hid, htext, hcomma, hbeams, htemperature, hlongest, hclose, hempty⟩ :=
    hmarks
  unfold request requestText Params.writeMembers
  simp only [Utf8.encode_append, Json.encode_stringOnto, hid, htext, hcomma,
    hbeams, htemperature, hlongest, hclose, hempty, List.append_assoc,
    List.nil_append, List.cons_append]

/-- A value and the comma behind it lead from one key to the next. -/
theorem moves_member {s : Json.Step} {before value : Bytes}
    {found : Json.Members} {key : String} {frames : List Json.Frame}
    {mode : Json.Mode} {v : Value}
    (hbefore : Moves s before (.value, .object found key :: frames))
    (hvalue : Moves (.value, .object found key :: frames) value
      (mode, .object found key :: frames))
    (hends : Ends v mode) (name : String) :
    Moves s (before ++ (value ++ 0x2C :: (Json.quoted name ++ [0x3A])))
      (.value, .object (found.insert key v) name :: frames) := by
  have hcomma : Moves (mode, .object found key :: frames) [0x2C]
      (.nextKey (found.insert key v), frames) := hends.follow (by decide) rfl
  have hquote : Moves (.nextKey (found.insert key v), frames) [0x22]
      (.key (found.insert key v) .start, frames) := .byte nofun rfl
  exact hbefore.trans (hvalue.trans (hcomma.cons (Json.moves_key hquote name)))

/-- The members of a request end up in the order of their keys. -/
theorem requestMembers_eq (id text : String) (params : Params)
    (temperature : Value) :
    Json.Members.insert "unk_restoration_max_len"
      (.ofNat params.maxUnknownLength.toNat)
      (Json.Members.insert "temperature" temperature
        (Json.Members.insert "beam_width" (.ofNat params.beamWidth.toNat)
          (Json.Members.insert "text" (.string text)
            (Json.Members.insert "id" (.string id) []))))
      = requestMembers id text params temperature := by
  with_unfolding_all rfl

/-- A request is read as an object with these members. -/
theorem read_request (id text : String) (params : Params) :
    ∃ temperature, Json.read (request id text params)
        = .ok (.object (requestMembers id text params temperature))
      ∧ IsTemperature params.temperature temperature := by
  have hquote : Moves (.firstKey, []) [0x22] (.key [] .start, []) :=
    .byte (fun _ h => by cases h) rfl
  have hopen :=
    ((Json.due_value []).openObject (by decide)).cons
      (Json.moves_key hquote "id")
  have hmoves :=
    moves_member hopen (Json.moves_string (Json.due_value _) id) .after "text"
  have hmoves := moves_member hmoves (Json.moves_string (Json.due_value _) text)
    .after "beam_width"
  obtain ⟨_, hvalue, hends⟩ := moves_count (Json.due_value _) params.beamWidth
  have hmoves := moves_member hmoves hvalue hends "temperature"
  obtain ⟨_, temperature, hvalue, hends, htemp⟩ :=
    moves_temperature (Json.due_value _) params.temperature
  have hmoves := moves_member hmoves hvalue hends "unk_restoration_max_len"
  obtain ⟨_, hvalue, hends⟩ :=
    moves_count (Json.due_value _) params.maxUnknownLength
  have hmoves :=
    hmoves.trans (hvalue.trans (hends.follow (b := 0x7D) (by decide) rfl))
  rw [requestMembers_eq id text params temperature] at hmoves
  refine ⟨temperature, ?_, htemp⟩
  obtain ⟨place, hrun⟩ := hmoves .start []
  rw [List.append_nil] at hrun
  have hread : Machine.start.run (request id text params)
      = .ok ⟨.after (.object (requestMembers id text params temperature)), [],
        place⟩ := by
    rw [request_eq]
    exact hrun
  rw [Json.read, hread]
  rfl

-- ============================================================== delivery

namespace Session

variable {s : Session} {c : Call} {called : Called}

/-- Whether the worker had left when the request of a call was written. -/
def Called.refused (called : Called) : Bool :=
  match called.result with
  | some (.error (.io .brokenPipe)) => true
  | _ => false

/-- No line of the worker is taken for the refusal of a request. -/
theorem take_not_refused (id : String) (lines : List Bytes) :
    (take id lines).result ≠ some (.error (.io .brokenPipe)) := by
  induction lines with
  | nil => nofun
  | cons line lines ih =>
      rw [take]
      split
      case h_2 => exact ih
      case h_1 result hjudge =>
        rintro ⟨⟩
        unfold judge at hjudge
        split at hjudge
        · cases hjudge
        · cases hjudge
        · split at hjudge
          · cases hjudge
          · next reply _ =>
            split at hjudge
            · cases hjudge
            · rw [Verdict.decide.injEq, Reply.outcome] at hjudge
              split at hjudge <;> cases hjudge

/-- A call whose request has been written waits for what the worker says. -/
theorem await_not_refused {id : String} (h : s.await id = some called) :
    called.refused = false ∧ called.session.heard = s.heard
      ∧ called.session.begun = s.begun := by
  have hnot := take_not_refused id s.output.lines
  unfold await at h
  dsimp only at h
  split at h
  · next result hresult =>
    cases h
    refine ⟨?_, rfl, rfl⟩
    rw [hresult] at hnot
    unfold Called.refused
    split
    · next hrefused => exact absurd hrefused hnot
    · rfl
  · split at h
    · cases h
      exact ⟨rfl, rfl, rfl⟩
    · cases h

/-- To a worker that has left nothing gets through. -/
theorem call_heard_of_left (hleft : s.left = true)
    (h : s.call c.text c.params c.fate = some called) :
    called.session.left = true ∧ called.session.heard = s.heard
      ∧ (called.refused = true ∨ c.asks s.nextId = []) := by
  rw [call_of_left hleft] at h
  cases h
  refine ⟨hleft, rfl, ?_⟩
  obtain ⟨text, params, fate⟩ := c
  cases fate with
  | droppedWaiting => exact .inr (Call.asks_of_not_reaches id)
  | awaited | droppedWriting | droppedReading | leftMidway => exact .inl rfl

/-- Of a request in the middle of which the worker leaves it has read no
line. -/
theorem call_heard_of_leftMidway (hleft : s.left = false) {text : String}
    {params : Params} {bytes room : Nat}
    (h : s.call text params (.leftMidway bytes room) = some called) :
    called.session.left = true ∧ called.session.heard = s.heard := by
  rw [call_leftMidway hleft] at h
  split at h
  · obtain ⟨_, -, hsession, -⟩ := await_takes h
    rw [hsession]
    exact ⟨rfl, rfl⟩
  · cases h
    exact ⟨rfl, rfl⟩

/-- To a worker that is there a request gets through as it is, if it is
written whole. -/
theorem call_heard_of_reading (hleft : s.left = false) (hbegun : s.begun = [])
    (htidy : c.Tidy s.nextId)
    (h : s.call c.text c.params c.fate = some called) :
    (called.session.left = false → called.session.begun = [])
      ∧ called.session.heard = s.heard ++ c.asks s.nextId
      ∧ (called.refused = false ∨ c.asks s.nextId = []) := by
  have hwrite := write_request hleft hbegun c.text c.params
  obtain ⟨text, params, fate⟩ := c
  cases fate with
  | droppedWaiting =>
      cases h
      rw [Call.asks_of_not_reaches id, List.append_nil]
      exact ⟨fun _ => hbegun, rfl, .inr rfl⟩
  | awaited =>
      unfold call at h
      dsimp only at h
      rw [hwrite] at h
      obtain ⟨hrefused, hheard, hbegun'⟩ := await_not_refused h
      have hreaches : Call.Reaches ⟨text, params, .awaited⟩ s.nextId := trivial
      rw [Call.asks_of_reaches hreaches]
      exact ⟨fun _ => hbegun', hheard, .inl hrefused⟩
  | droppedReading n =>
      unfold call at h
      dsimp only at h
      rw [hwrite] at h
      cases h
      have hreaches :
          Call.Reaches ⟨text, params, .droppedReading n⟩ s.nextId := trivial
      rw [Call.asks_of_reaches hreaches]
      exact ⟨fun _ => rfl, rfl, .inl rfl⟩
  | droppedWriting n =>
      unfold call at h
      dsimp only at h
      obtain rfl | hn := htidy n rfl
      · have hnothing : s.drawn.write [] = .ok s.drawn :=
          if_neg (show ¬ s.left = true by rw [hleft]; decide)
        rw [List.take_zero, hnothing] at h
        cases h
        rw [Call.asks_of_not_reaches (Nat.not_lt_zero _), List.append_nil]
        exact ⟨fun _ => hbegun, rfl, .inr rfl⟩
      · have hlength : (requestLine s.nextId text params).length ≤ n := by
          rw [requestLine_eq, List.length_append, List.length_singleton]
          exact hn
        rw [List.take_of_length_le hlength, hwrite] at h
        cases h
        have hreaches :
            Call.Reaches ⟨text, params, .droppedWriting n⟩ s.nextId := hn
        rw [Call.asks_of_reaches hreaches]
        exact ⟨fun _ => rfl, rfl, .inl rfl⟩
  | leftMidway n room =>
      obtain ⟨hgone, hheard⟩ := call_heard_of_leftMidway hleft h
      rw [Call.asks_of_not_reaches id, List.append_nil]
      refine ⟨fun hthere => ?_, hheard, .inr rfl⟩
      rw [hgone] at hthere
      cases hthere

/-- What the worker reads of a call with a given end. -/
def Called.brings (called : Called) (c : Call) (id : String) : List Bytes :=
  if called.refused then [] else c.asks id

/-- One call: the worker reads its request as it is, if it gets that far. -/
theorem call_heard (hbegun : s.left = false → s.begun = [])
    (htidy : c.Tidy s.nextId)
    (h : s.call c.text c.params c.fate = some called) :
    (called.session.left = false → called.session.begun = [])
      ∧ called.session.heard = s.heard ++ called.brings c s.nextId := by
  unfold Called.brings
  cases hleft : s.left with
  | false =>
      obtain ⟨hbegun', hheard, hrefused⟩ :=
        call_heard_of_reading hleft (hbegun hleft) htidy h
      refine ⟨hbegun', ?_⟩
      rw [hheard]
      rcases hrefused with hrefused | hnothing
      · rw [hrefused]
        rfl
      · rw [hnothing, ite_self]
  | true =>
      obtain ⟨hgone, hheard, hrefused⟩ := call_heard_of_left hleft h
      refine ⟨fun hthere => ?_, ?_⟩
      · rw [hgone] at hthere
        cases hthere
      · rw [hheard]
        rcases hrefused with hrefused | hnothing
        · rw [hrefused]
          exact (List.append_nil _).symm
        · rw [hnothing, ite_self, List.append_nil]

/-- The requests of the calls that reached the worker, in order, the first
call being the one with a given number. -/
def delivered (ids : Nat → String) : Nat → List Call → List Called → List Bytes
  | k, c :: calls, called :: ends =>
    called.brings c (ids k) ++ delivered ids (k + 1) calls ends
  | _, _, _ => []

/-- A run: the worker reads the requests that reach it, and nothing else. -/
theorem callAll_delivered {calls : List Call} {ends : List Called}
    (hbegun : s.left = false → s.begun = [])
    (htidy : ∀ i (c : Call), calls[i]? = some c → c.Tidy (s.ids (s.calls + i)))
    (h : s.callAll calls = some ends) :
    ((s.afterAll ends).left = false → (s.afterAll ends).begun = [])
      ∧ (s.afterAll ends).heard = s.heard ++
        delivered s.ids s.calls calls ends := by
  induction calls generalizing s ends with
  | nil =>
      cases h
      exact ⟨hbegun, (List.append_nil _).symm⟩
  | cons c calls ih =>
      obtain ⟨first, others, hfirst, hothers, rfl⟩ := callAll_cons.mp h
      obtain ⟨_, _, hgoes⟩ := call_goes hfirst
      obtain ⟨-, hids, hcalls, -⟩ := hgoes.frame
      obtain ⟨hbegun', hheard⟩ := call_heard hbegun (htidy 0 c rfl) hfirst
      have htidy' : ∀ i (c : Call), calls[i]? = some c →
          c.Tidy (first.session.ids (first.session.calls + i)) := by
        intro i c hi
        rw [hids, hcalls, Nat.add_assoc, Nat.add_comm 1 i]
        exact htidy (i + 1) c hi
      obtain ⟨hbegun'', hheard'⟩ := ih hbegun' htidy' hothers
      rw [afterAll_cons]
      refine ⟨hbegun'', ?_⟩
      rw [hheard', hheard, hids, hcalls, delivered, List.append_assoc]
      rfl

/-- A call that never ends waits for a reply: its request has been read. -/
theorem call_pending (hbegun : s.left = false → s.begun = [])
    (h : s.call c.text c.params c.fate = none) :
    ∃ waiting,
      s.drawn.write (requestLine s.nextId c.text c.params) = .ok waiting
        ∧ waiting.begun = []
        ∧ waiting.heard
          = s.heard ++ [request s.nextId c.text c.params] := by
  cases hleft : s.left with
  | false =>
      exact ⟨_, write_request hleft (hbegun hleft) c.text c.params, rfl, rfl⟩
  | true =>
      -- the worker is gone, so that the call would have ended
      rw [call_of_left hleft] at h
      cases h

/-- What a worker reads. The line of a request ends with its only line feed
and is an object of five members: the id of the call, the text, the settings.
As long as no call is given up in the middle of its request, the worker reads
the requests that reach it in order, and nothing else; a call that never ends
has brought its own. -/
theorem callAll_heard {peer : Peer} {ids : Nat → String} {path : Path}
    {checkpoint : Checkpoint}
    (hstart : (start peer ids).handshake path = some (.ok (checkpoint, s))) :
    (∀ id text params,
      ∃ line temperature, requestLine id text params = line ++ [10] ∧ 10 ∉ line
      ∧ Json.read line
        = .ok (.object (requestMembers id text params temperature))
      ∧ IsTemperature params.temperature temperature)
    ∧ ∀ calls ends, (∀ i (c : Call), calls[i]? = some c → c.Tidy (ids i)) →
      s.callAll calls = some ends →
        (s.afterAll ends).heard = delivered ids 0 calls ends
        ∧ ∀ c : Call, (s.afterAll ends).call c.text c.params c.fate = none →
          ∃ waiting,
            (s.afterAll ends).drawn.write
              (requestLine (ids calls.length) c.text c.params) = .ok waiting
            ∧ waiting.heard = delivered ids 0 calls ends
              ++ [request (ids calls.length) c.text c.params] := by
  constructor
  · intro id text params
    obtain ⟨temperature, hread, htemperature⟩ := read_request id text params
    exact ⟨_, temperature, requestLine_eq id text params,
      newline_not_mem_request id text params, hread, htemperature⟩
  · intro calls ends htidy h
    obtain ⟨hids, hzero⟩ := ids_handshake hstart
    obtain ⟨-, -, hs⟩ := handshake_takes hstart
    have hbegun : s.left = false → s.begun = [] := fun _ => by rw [hs]; rfl
    have hheard : s.heard = [] := by rw [hs]; rfl
    have htidy' : ∀ i (c : Call), calls[i]? = some c →
        c.Tidy (s.ids (s.calls + i)) := by
      intro i c hi
      rw [hids, hzero, Nat.zero_add]
      exact htidy i c hi
    obtain ⟨hbegun', hdelivered⟩ := callAll_delivered hbegun htidy' h
    have hid := nextId_afterAll h
    rw [hids, hzero, Nat.zero_add] at hid
    rw [hheard, hids, hzero, List.nil_append] at hdelivered
    refine ⟨hdelivered, fun c hpending => ?_⟩
    obtain ⟨waiting, hwrite, -, hwaiting⟩ := call_pending hbegun' hpending
    rw [hid] at hwrite hwaiting
    rw [hdelivered] at hwaiting
    exact ⟨waiting, hwrite, hwaiting⟩

/-- Calls of which one only reaches the worker, with a text of two lines. -/
def givenUpCalls : List Call :=
  [⟨"x", .default, .droppedWriting 0⟩,
    ⟨"\"a\"\n\\b", .default, .droppedReading 1⟩,
    ⟨"z", .default, .droppedWaiting⟩]

/-- The worker reads that text as it is. -/
theorem callAll_heard_givenUp :
    ∃ ends, lateSession.callAll givenUpCalls = some ends
      ∧ (lateSession.afterAll ends).heard
        = [request "a" "\"a\"\n\\b" .default] := by
  have htidy : ∀ i (c : Call), givenUpCalls[i]? = some c →
      c.Tidy (unaryIds i) := by
    intro i c hi
    obtain ⟨hlt, rfl⟩ := List.getElem?_eq_some_iff.mp hi
    have hlt : i < 3 := hlt
    match i, hlt with
    | 0, _ => exact fun n h => .inl (by cases h; rfl)
    | 1, _ => exact fun n h => (nomatch h)
    | 2, _ => exact fun n h => (nomatch h)
  obtain ⟨hheard, -⟩ :=
    (callAll_heard lateSession_handshake).2 givenUpCalls _ htidy rfl
  exact ⟨_, rfl, hheard⟩

end Session

end Worker

end Restoration
