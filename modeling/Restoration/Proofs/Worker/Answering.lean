/-
Sessions with a worker that answers.

Such a worker says one reply to each request that it reads: a line that
answers the call or, if the request could not be read, a complaint.
Whatever else it says is idle, that is, means nothing to this call nor to
any later one.

The invariant of a run is `Clear`: nothing is left over that could be
taken for a reply to a call to come, neither an unread line nor the start
of a request on its way in. An awaited call keeps it, since it reads up to
its reply. A call that is given up keeps it if it leaves a reply behind
that carries its id, or never got to the worker (`call_clear`). The
results of a run of such calls are then what the worker said to each of
them (`callAll_clear`).
-/
import Restoration.Proofs.Worker.Calls

namespace Restoration.Worker

open Json (Value)

variable {ids : Nat → String} {k : Nat} {line : Bytes} {members : Json.Members}

-- ============================================================ idle lines

/-- A line means nothing to the call with a given number nor to any later
one: it is text, does not complain, and answers earlier calls only. -/
structure Idle (ids : Nat → String) (k : Nat) (line : Bytes) : Prop where
  text : ∃ t, Utf8.decode line = .ok t
  silent : ∀ words members, ¬ Complains line words members
  early : ∀ j members, Answers line (ids j) members → j < k

/-- Noise is idle. -/
theorem Idle.of_noise (h : read line = .noise) : Idle ids k line := by
  obtain ⟨htext, hobject⟩ := read_eq_noise_iff.mp h
  exact ⟨htext, fun _ members hcomplains => hobject members hcomplains.message,
    fun _ members hanswers => absurd hanswers.message (hobject members)⟩

theorem Idle.passedOver (h : Idle ids k line) {j : Nat} (hj : k ≤ j) :
    PassedOver (ids j) line := by
  refine passedOver_iff.mpr ⟨h.text, fun members hanswers => ?_, h.silent⟩
  have := h.early j members hanswers
  omega

theorem Idle.succ (h : Idle ids k line) : Idle ids (k + 1) line :=
  ⟨h.text, h.silent,
    fun j members hj => Nat.lt_succ_of_lt (h.early j members hj)⟩

/-- A reply is idle once its call is over. -/
theorem Answers.idle (hids : Function.Injective ids)
    (h : Answers line (ids k) members) : Idle ids (k + 1) line := by
  obtain ⟨text, htext, -⟩ := h.message
  refine ⟨⟨text, htext⟩, fun _ _ => h.not_complains, fun j members' hj => ?_⟩
  rw [hids (hj.id_unique h)]
  exact Nat.lt_succ_self k

-- ============================================================ one reply

/-- A line is the reply to a call: it carries the call's id or complains. -/
def IsReply (line : Bytes) (id : String) (members : Json.Members) : Prop :=
  Answers line id members ∨ ∃ words, Complains line words members

/-- A reply ends its call with what it tells. -/
theorem IsReply.judge {id : String} (h : IsReply line id members) :
    judge id line = .decide (told members) := by
  rcases h with h | ⟨words, h⟩
  · exact h.judge
  · rw [h.judge, h.told_eq]

theorem IsReply.wellFormed {id : String} (h : IsReply line id members) :
    WellFormed members := by
  rcases h with h | ⟨words, h⟩
  · exact Answers.wellFormed h
  · exact h.wellFormed

/-- A reply with an id answers the call. -/
theorem IsReply.answers {id : String} (h : IsReply line id members)
    (hid : members.get? "id" = some (.string id)) :
    Answers line id members := by
  rcases h with h | ⟨words, h⟩
  · exact h
  · rcases h.id with hnone | hnull
    · rw [hid] at hnone
      cases hnone
    · rw [hid] at hnull
      cases hnull

/-- A worker says one reply to a call, in whole lines, and stays. -/
structure OneReply (r : Reaction) (ids : Nat → String) (k : Nat)
    (members : Json.Members) : Prop where
  stays : r.leaves = false
  lines : ∃ before line after,
    Output.none.append r.words = ⟨before ++ line :: after, []⟩
      ∧ IsReply line (ids k) members ∧ ∀ l ∈ before ++ after, Idle ids k l

namespace Session

variable {s : Session}

-- ======================================================== clear sessions

/-- Nothing is left over from the calls so far. -/
structure Clear (s : Session) : Prop where
  begun : s.begun = []
  start : s.output.start = []
  left : s.left = false
  idle : ∀ line ∈ s.unread, Idle s.ids s.calls line

/-- A call that does not get to the worker leaves nothing over. -/
theorem Clear.drawn (h : s.Clear) : s.drawn.Clear :=
  ⟨h.begun, h.start, h.left, fun line hline => (h.idle line hline).succ⟩

/-- What a worker that answers has said when it has read a line. -/
theorem Clear.hearing_output (h : s.Clear) (line : Bytes) {r : Reaction}
    (hr : s.peer.react (s.heard ++ [line]) = r) (hstays : r.leaves = false)
    {lines : List Bytes} (hlines : Output.none.append r.words = ⟨lines, []⟩) :
    (s.hearing line).output = ⟨s.unread ++ lines, []⟩
      ∧ (s.hearing line).left = false := by
  subst hr
  refine ⟨?_, hstays⟩
  have hcut :
      Output.cut [] (s.peer.react (s.heard ++ [line])).words = ⟨lines, []⟩ :=
    hlines
  show (if (s.peer.react (s.heard ++ [line])).leaves = true then _
    else s.output.append (s.peer.react (s.heard ++ [line])).words) = _
  rw [hstays, if_neg Bool.false_ne_true]
  unfold Output.append
  rw [h.start, hcut]
  rfl

/-- A request brings one reply, and everything unread beside it is idle. -/
theorem Clear.hearing (h : s.Clear)
    (hreply : OneReply (s.peer.react (s.heard ++ [line])) s.ids
      s.calls members) :
    ∃ front reply back, (s.drawn.hearing line).unread = front ++ reply :: back
      ∧ (s.drawn.hearing line).output.start = []
      ∧ (s.drawn.hearing line).left = false
      ∧ IsReply reply s.nextId members
      ∧ ∀ l ∈ front ++ back, Idle s.ids s.calls l := by
  obtain ⟨before, reply, after, hlines, hisReply, hidle⟩ := hreply.lines
  obtain ⟨houtput, hleft⟩ :=
    h.drawn.hearing_output line rfl hreply.stays hlines
  refine ⟨s.unread ++ before, reply, after, ?_, by rw [houtput], hleft,
    hisReply, ?_⟩
  · show (s.drawn.hearing line).output.lines = _
    rw [houtput, List.append_assoc]
    rfl
  · intro l hl
    rw [List.append_assoc, List.mem_append] at hl
    exact hl.elim (h.idle l) (hidle l)

/-- Once the request has been read, a reply with its id is nothing to the
calls to come. -/
theorem Clear.hearing_tagged (h : s.Clear) (hids : Function.Injective s.ids)
    (hreply : OneReply (s.peer.react (s.heard ++ [line])) s.ids s.calls members)
    (hid : members.get? "id" = some (.string s.nextId)) :
    (s.drawn.hearing line).Clear := by
  obtain ⟨front, reply, back, hunread, hstart, hleft, hisReply, hidle⟩ :=
    h.hearing hreply
  obtain ⟨hfront, hback⟩ := List.forall_mem_append.mp hidle
  have htagged : Idle s.ids (s.calls + 1) reply :=
    (hisReply.answers hid).idle hids
  refine ⟨rfl, hstart, hleft, ?_⟩
  rw [hunread]
  exact List.forall_mem_append.mpr ⟨fun l hl => (hfront l hl).succ,
    List.forall_mem_cons.mpr ⟨htagged, fun l hl => (hback l hl).succ⟩⟩

/-- Taking lines leaves nothing over. -/
theorem Clear.withLines (h : s.Clear) {taken rest : List Bytes}
    (hunread : s.unread = taken ++ rest) : (s.withLines rest).Clear := by
  refine ⟨h.begun, h.start, h.left, fun l hl => h.idle l ?_⟩
  rw [hunread]
  exact List.mem_append_right _ hl

-- ============================================================== one call

/-- The request of a call gets to the worker, which reads it to its end. -/
def Call.Reaches (c : Call) (id : String) : Prop :=
  match c.fate with
  | .awaited => True
  | .droppedWaiting => False
  | .droppedWriting n => (request id c.text c.params).length < n
  | .droppedReading _ => True
  | .leftMidway _ _ => False

instance (c : Call) (id : String) : Decidable (c.Reaches id) :=
  match c with
  | ⟨_, _, .awaited⟩ => isTrue trivial
  | ⟨_, _, .droppedWaiting⟩ => isFalse fun h => h
  | ⟨text, params, .droppedWriting n⟩ =>
    inferInstanceAs (Decidable ((request id text params).length < n))
  | ⟨_, _, .droppedReading _⟩ => isTrue trivial
  | ⟨_, _, .leftMidway _ _⟩ => isFalse fun h => h

/-- A call is not given up in the middle of its request. -/
def Call.Tidy (c : Call) (id : String) : Prop :=
  ∀ n, c.fate = .droppedWriting n →
    n = 0 ∨ (request id c.text c.params).length < n

/-- The worker does not leave in the middle of the request of a call. -/
def Call.Attended (c : Call) : Prop :=
  ∀ bytes room, c.fate ≠ .leftMidway bytes room

/-- A request that is written whole is read as it is, if none was begun
before. -/
theorem write_request (hleft : s.left = false) (hbegun : s.begun = [])
    (text : String) (params : Params) :
    s.drawn.write (requestLine s.nextId text params)
      = .ok (s.drawn.hearing (request s.nextId text params)) := by
  rw [write_requestLine (s := s.drawn) hleft, show s.drawn.begun = []
      from hbegun]
  rfl

/-- Whoever waits for the reply to a line that the worker has read gets it. -/
theorem Clear.await (h : s.Clear) {line : Bytes}
    (hreply : OneReply (s.peer.react (s.heard ++ [line])) s.ids
      s.calls members) :
    ∃ c, (s.drawn.hearing line).await s.nextId = some c
      ∧ c.result = some (told members) ∧ c.session.Clear
      ∧ c.session.heard = s.heard ++ [line] := by
  obtain ⟨front, reply, back, hunread, hstart, hleft, hisReply, hidle⟩ :=
    h.hearing hreply
  obtain ⟨hfront, hback⟩ := List.forall_mem_append.mp hidle
  have hskipped : ∀ l ∈ front, PassedOver s.nextId l := fun l hl =>
    (hfront l hl).passedOver (Nat.le_refl _)
  have htake := take_skipped hskipped (reply :: back)
  rw [take_decided hisReply.judge] at htake
  unfold Session.await
  dsimp only
  rw [show (s.drawn.hearing line).output.lines = _ from hunread, htake]
  exact ⟨_, rfl, rfl, ⟨rfl, hstart, hleft, fun l hl => (hback l hl).succ⟩, rfl⟩

/-- An awaited call returns what the worker's reply tells. -/
theorem call_awaited (h : s.Clear) {text : String} {params : Params}
    (hreply :
      OneReply (s.peer.react (s.heard ++ [request s.nextId text params]))
      s.ids s.calls members) :
    ∃ c, s.call text params .awaited = some c ∧ c.result = some (told members)
      ∧ c.session.Clear
      ∧ c.session.heard = s.heard ++ [request s.nextId text params] := by
  unfold call
  dsimp only
  rw [write_request h.left h.begun]
  exact h.await hreply

/-- A call that is given up once its request has been read leaves nothing
over if the worker's reply carries its id. -/
theorem call_droppedReading (h : s.Clear) (hids : Function.Injective s.ids)
    {text : String} {params : Params} (n : Nat)
    (hreply :
      OneReply (s.peer.react (s.heard ++ [request s.nextId text params]))
      s.ids s.calls members)
    (hid : members.get? "id" = some (.string s.nextId)) :
    ∃ c, s.call text params (.droppedReading n) = some c ∧ c.result = none
      ∧ c.session.Clear
      ∧ c.session.heard = s.heard ++ [request s.nextId text params] := by
  have hclear := h.hearing_tagged hids hreply hid
  obtain ⟨skipped, hlines, -⟩ := takeSome_skipped s.nextId n
    (s.drawn.hearing (request s.nextId text params)).output.lines
  unfold call
  dsimp only
  rw [write_request h.left h.begun]
  exact ⟨_, rfl, rfl, hclear.withLines hlines, rfl⟩

/-- So does a call that is given up while its request is being written, if
the last byte has gone. -/
theorem call_droppedWritten (h : s.Clear) (hids : Function.Injective s.ids)
    {text : String} {params : Params} {n : Nat}
    (hn : (request s.nextId text params).length < n)
    (hreply :
      OneReply (s.peer.react (s.heard ++ [request s.nextId text params]))
      s.ids s.calls members)
    (hid : members.get? "id" = some (.string s.nextId)) :
    ∃ c, s.call text params (.droppedWriting n) = some c ∧ c.result = none
      ∧ c.session.Clear
      ∧ c.session.heard = s.heard ++ [request s.nextId text params] := by
  have hlen : (requestLine s.nextId text params).length ≤ n := by
    rw [requestLine_eq, List.length_append, List.length_singleton]
    omega
  unfold call
  dsimp only
  rw [List.take_of_length_le hlen, write_request h.left h.begun]
  exact ⟨_, rfl, rfl, h.hearing_tagged hids hreply hid, rfl⟩

/-- And so does one of which nothing has been written. -/
theorem call_unwritten (h : s.Clear) (text : String) (params : Params)
    {fate : Fate} (hfate : fate = .droppedWaiting ∨ fate = .droppedWriting 0) :
    ∃ c, s.call text params fate = some c ∧ c.result = none
      ∧ c.session.Clear ∧ c.session.heard = s.heard := by
  have hnothing : s.drawn.write [] = .ok s.drawn := by
    unfold write
    rw [if_neg (by rw [show s.drawn.left = false from h.left]; decide)]
    rfl
  unfold call
  rcases hfate with rfl | rfl
  · exact ⟨_, rfl, rfl, h.drawn, rfl⟩
  · dsimp only
    rw [List.take_zero, hnothing]
    exact ⟨_, rfl, rfl, h.drawn, rfl⟩

/-- The lines that a call brings to the worker. -/
def Call.asks (c : Call) (id : String) : List Bytes :=
  if c.Reaches id then [request id c.text c.params] else []

theorem Call.asks_of_reaches {c : Call} {id : String} (h : c.Reaches id) :
    c.asks id = [request id c.text c.params] := if_pos h

theorem Call.asks_of_not_reaches {c : Call} {id : String}
    (h : ¬ c.Reaches id) : c.asks id = [] :=
  if_neg h

/-- One call of a run: it returns what the worker's reply tells, unless it
is given up, and leaves nothing over, unless a complaint about it is left
unread. -/
theorem call_clear (h : s.Clear) (hids : Function.Injective s.ids) {c : Call}
    (htidy : c.Tidy s.nextId) (hattended : c.Attended)
    (hreply : c.Reaches s.nextId →
      OneReply (s.peer.react (s.heard ++ c.asks s.nextId)) s.ids
        s.calls members)
    (htagged : c.fate ≠ .awaited → c.Reaches s.nextId →
      members.get? "id" = some (.string s.nextId)) :
    ∃ called, s.call c.text c.params c.fate = some called
      ∧ called.result
        = (if c.fate = .awaited then some (told members) else none)
      ∧ called.session.Clear
      ∧ called.session.heard = s.heard ++ c.asks s.nextId := by
  obtain ⟨text, params, fate⟩ := c
  cases fate with
  | awaited =>
      have hreaches : Call.Reaches ⟨text, params, .awaited⟩ s.nextId := trivial
      have hreply := hreply hreaches
      rw [Call.asks_of_reaches hreaches] at hreply ⊢
      rw [if_pos rfl]
      exact call_awaited h hreply
  | droppedReading n =>
      have hreaches : Call.Reaches ⟨text, params, .droppedReading n⟩ s.nextId :=
        trivial
      have hreply := hreply hreaches
      rw [Call.asks_of_reaches hreaches] at hreply ⊢
      rw [if_neg (by simp)]
      exact call_droppedReading h hids n hreply (htagged (by simp) hreaches)
  | droppedWaiting =>
      have hnot : ¬ Call.Reaches ⟨text, params, .droppedWaiting⟩ s.nextId := id
      rw [if_neg (by simp), Call.asks_of_not_reaches hnot, List.append_nil]
      exact call_unwritten h text params (Or.inl rfl)
  | droppedWriting n =>
      rw [if_neg (by simp)]
      by_cases hreaches :
        Call.Reaches ⟨text, params, .droppedWriting n⟩ s.nextId
      · have hreply := hreply hreaches
        rw [Call.asks_of_reaches hreaches] at hreply ⊢
        exact call_droppedWritten h hids hreaches hreply
          (htagged (by simp) hreaches)
      · obtain rfl | hn := htidy n rfl
        · rw [Call.asks_of_not_reaches hreaches, List.append_nil]
          exact call_unwritten h text params (Or.inr rfl)
        · exact absurd hn hreaches
  | leftMidway n room => exact absurd rfl (hattended n room)

-- ============================================================ many calls

/-- The lines that calls bring to the worker, the first of them being the
call with a given number. -/
def asked (ids : Nat → String) : Nat → List Call → List Bytes
  | _, [] => []
  | k, c :: calls => c.asks (ids k) ++ asked ids (k + 1) calls

/-- The worker says one reply to each request that it reads in a run. -/
def Answered (s : Session) (calls : List Call)
    (reply : Nat → Json.Members) : Prop :=
  ∀ i c, calls[i]? = some c → c.Reaches (s.ids (s.calls + i)) →
    OneReply
      (s.peer.react (s.heard ++ asked s.ids s.calls (calls.take (i + 1))))
      s.ids (s.calls + i) (reply (s.calls + i))

/-- The calls that are given up in a run leave no part of a request behind,
and no reply that does not carry their id; and the worker leaves in the
middle of none. -/
def Harmless (s : Session) (calls : List Call)
    (reply : Nat → Json.Members) : Prop :=
  ∀ i c, calls[i]? = some c → c.Tidy (s.ids (s.calls + i)) ∧ c.Attended
    ∧ (c.fate ≠ .awaited → c.Reaches (s.ids (s.calls + i)) →
      (reply (s.calls + i)).get? "id" = some (.string (s.ids (s.calls + i))))

/-- What the calls of a run return when each gets its own reply. -/
def results (s : Session) (calls : List Call) (reply : Nat → Json.Members) :
    List (Option (Except Failure Value)) :=
  calls.mapIdx fun i c =>
    if c.fate = .awaited then some (told (reply (s.calls + i))) else none

variable {reply : Nat → Json.Members} {c : Call} {calls : List Call}

/-- What calls in two parts bring to the worker. -/
theorem asked_append (ids : Nat → String) (k : Nat) (before after : List Call) :
    asked ids k (before ++ after)
      = asked ids k before ++ asked ids (k + before.length) after := by
  induction before generalizing k with
  | nil => rfl
  | cons c before ih =>
      rw [List.cons_append, asked, ih, asked, List.append_assoc,
        List.length_cons, Nat.add_assoc, Nat.add_comm 1]

/-- Calls that all reach the worker bring one line each. -/
theorem length_asked (ids : Nat → String) (h : ∀ c ∈ calls, ∀ id, c.Reaches id)
    (k : Nat) : (asked ids k calls).length = calls.length := by
  induction calls generalizing k with
  | nil => rfl
  | cons c calls ih =>
      obtain ⟨hc, hcalls⟩ := List.forall_mem_cons.mp h
      rw [asked, Call.asks_of_reaches (hc _), List.length_append, ih hcalls,
        List.length_singleton, List.length_cons, Nat.add_comm]

/-- The run after the first call. -/
theorem Answered.tail {s' : Session} (h : s.Answered (c :: calls) reply)
    (hpeer : s'.peer = s.peer) (hids : s'.ids = s.ids)
    (hcalls : s'.calls = s.calls + 1)
    (hheard : s'.heard = s.heard ++ c.asks s.nextId) :
    s'.Answered calls reply := by
  intro i c' hi hreaches
  have hk : s'.calls + i = s.calls + (i + 1) := by omega
  rw [hids, hk] at hreaches
  have hone := h (i + 1) c' hi hreaches
  rw [hpeer, hids, hk, hheard, hcalls, List.append_assoc]
  exact hone

theorem Harmless.tail {s' : Session} (h : s.Harmless (c :: calls) reply)
    (hids : s'.ids = s.ids) (hcalls : s'.calls = s.calls + 1) :
    s'.Harmless calls reply := by
  intro i c' hi
  have hk : s'.calls + i = s.calls + (i + 1) := by omega
  rw [hids, hk]
  exact h (i + 1) c' hi

/-- A worker that counts the lines that it reads answers calls that all
reach it. -/
theorem answered_of_length {n : Nat} (hheard : s.heard = [])
    (hzero : s.calls = 0) (hreply : ∀ k, k < n → ∀ heard, heard.length = k + 1 →
      OneReply (s.peer.react heard) s.ids k (reply k))
    (hn : calls.length ≤ n) (hreach : ∀ c ∈ calls, ∀ id, c.Reaches id) :
    s.Answered calls reply := by
  intro i c hi _
  obtain ⟨hlt, -⟩ := List.getElem?_eq_some_iff.mp hi
  have htake : ∀ c ∈ calls.take (i + 1), ∀ id, c.Reaches id := fun c hc =>
    hreach c (List.mem_of_mem_take hc)
  have hlength := length_asked s.ids htake 0
  rw [List.length_take, Nat.min_eq_left hlt] at hlength
  rw [hheard, hzero, List.nil_append, Nat.zero_add]
  exact hreply i (Nat.lt_of_lt_of_le hlt hn) _ hlength

/-- The first calls of a run that is answered are answered. -/
theorem Answered.left {more : List Call}
    (h : s.Answered (calls ++ more) reply) :
    s.Answered calls reply := by
  intro i c hi hreaches
  obtain ⟨hlt, -⟩ := List.getElem?_eq_some_iff.mp hi
  rw [← List.getElem?_append_left hlt] at hi
  have hone := h i c hi hreaches
  rwa [List.take_append_of_le_length (Nat.succ_le_of_lt hlt)] at hone

/-- The reply to the last call of a run. -/
theorem Answered.last (h : s.Answered (calls ++ [c]) reply)
    (hreaches : c.Reaches (s.ids (s.calls + calls.length))) :
    OneReply (s.peer.react (s.heard ++ asked s.ids s.calls calls
        ++ c.asks (s.ids (s.calls + calls.length))))
      s.ids (s.calls + calls.length) (reply (s.calls + calls.length)) := by
  have hone := h calls.length c List.getElem?_concat_length hreaches
  rw [List.take_of_length_le
      (by rw [List.length_append, List.length_singleton]),
    asked_append, asked, asked, List.append_nil, ← List.append_assoc] at hone
  exact hone

/-- A run of calls that leave nothing over: it comes to an end, and each
call returns what the reply to its own request tells. -/
theorem callAll_clear (h : s.Clear) (hids : Function.Injective s.ids)
    (hanswered : s.Answered calls reply) (hharmless : s.Harmless calls reply) :
    ∃ ends, s.callAll calls = some ends
      ∧ ends.map (·.result) = s.results calls reply
      ∧ (s.afterAll ends).Clear
      ∧ (s.afterAll ends).heard = s.heard ++ asked s.ids s.calls calls := by
  induction calls generalizing s with
  | nil => exact ⟨[], rfl, rfl, h, (List.append_nil _).symm⟩
  | cons c calls ih =>
      obtain ⟨htidy, hattended, htagged⟩ := hharmless 0 c rfl
      have hone : c.Reaches s.nextId →
          OneReply (s.peer.react (s.heard ++ c.asks s.nextId)) s.ids s.calls
            (reply s.calls) := by
        intro hreaches
        have hone := hanswered 0 c rfl hreaches
        rwa [List.take_succ_cons, List.take_zero, asked, asked, List.append_nil]
          at hone
      obtain ⟨first, hfirst, hresult, hclear, hheard⟩ :=
        call_clear h hids htidy hattended hone htagged
      obtain ⟨_, _, hgoes⟩ := call_goes hfirst
      obtain ⟨hpeer', hids', hcalls', -⟩ := hgoes.frame
      obtain ⟨others, hothers, hresults, hclear', hheard'⟩ :=
        ih hclear (hids' ▸ hids) (hanswered.tail hpeer' hids' hcalls' hheard)
          (hharmless.tail hids' hcalls')
      refine ⟨first :: others,
        callAll_cons.mpr ⟨first, others, hfirst, hothers, rfl⟩, ?_, ?_, ?_⟩
      · unfold results at hresults ⊢
        rw [List.map_cons, hresult, hresults, hcalls', List.mapIdx_cons]
        simp only [Nat.add_zero, Nat.add_assoc, Nat.add_comm 1]
      · rw [afterAll_cons]
        exact hclear'
      · rw [afterAll_cons, hheard', hheard, hids', hcalls', asked,
          List.append_assoc]
        rfl

end Session

end Restoration.Worker
