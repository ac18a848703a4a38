/-
Sessions with a worker that answers for a while and then leaves.

Such a session is known by how many more requests the worker reads
(`Serves`). It answers each of them but the last with one reply; at the
last it leaves, with last words that may be anything, and from then on
whatever is written to it is refused. It may also have left before the
first request, and then it reads none.

A call that is awaited counts this number down (`Serves.restore`), so the
calls of a run get their results by their place in it (`Gives`): the reply
to their own request, then once what is found in the last words, then the
refusal. What the worker said and nobody read does not come into it.
-/
import Restoration.Proofs.Worker.Answering

namespace Restoration.Worker

open Json (Value)

variable {id text : String} {params : Params}

-- ============================================================ last words

/-- The first of some lines that a call does not pass over. -/
def Stops (id : String) (lines : List Bytes) (line : Bytes) : Prop :=
  ∃ front back, lines = front ++ line :: back ∧ ∀ l ∈ front, PassedOver id l

/-- What the call at which a worker leaves finds in its last words. -/
inductive Last (id : String) (lines : List Bytes) : Except Failure Value → Prop
  /-- The reply to its own request. -/
  | reply {line : Bytes} {members : Json.Members} (hline : Stops id lines line)
      (h : Answers line id members) : Last id lines (told members)
  /-- An error that does not say whom it fails. -/
  | complaint {line : Bytes} {words : String} {members : Json.Members}
      (hline : Stops id lines line) (h : Complains line words members) :
      Last id lines (.error (.worker (.stated words)))
  /-- A line that is no text. -/
  | notText {line : Bytes} {f : Utf8.Fault} (hline : Stops id lines line)
      (h : Utf8.decode line = .error f) :
      Last id lines (.error (.io (.notText f)))
  /-- Nothing. -/
  | silent (h : ∀ l ∈ lines, PassedOver id l) :
      Last id lines (.error .workerExited)

namespace Session

variable {s : Session} {reply : Nat → Json.Members}

/-- What a call finds in the last words of a worker is one of these. -/
theorem last_take (id : String) (lines : List Bytes) :
    Last id lines ((take id lines).result.getD (.error .workerExited)) := by
  rcases take_cases id lines with
    ⟨hall, htake⟩ | ⟨front, line, back, result, hlines, hfront, hline, htake⟩
  · rw [htake]
    exact .silent hall
  · have hstops : Stops id lines line := ⟨front, back, hlines, hfront⟩
    rw [htake]
    show Last id lines result
    rcases judge_cases id line with ⟨f, h⟩ | ⟨members, h⟩ | ⟨words, members, h⟩
      | ⟨events, h⟩
    · rw [judge_of_fault h] at hline
      injection hline with hline
      exact hline ▸ .notText hstops h
    · rw [h.judge] at hline
      injection hline with hline
      exact hline ▸ .reply hstops h
    · rw [h.judge] at hline
      injection hline with hline
      exact hline ▸ .complaint hstops h
    · rw [h] at hline
      cases hline

-- ============================================================== one call

/-- A request at which the worker leaves gets what is in its last words,
whatever had been left unread before. -/
theorem call_leaving (h : s.Clear) {text : String} {params : Params}
    {r : Reaction}
    (hr : s.peer.react (s.heard ++ [request s.nextId text params]) = r)
    (hleaves : r.leaves = true) :
    ∃ c result, s.call text params .awaited = some c ∧ c.result = some result
      ∧ Last s.nextId (Output.none.react r).lines result ∧ c.session.left = true
      ∧ c.session.heard = s.heard ++ [request s.nextId text params] := by
  -- what was left unread stands before the last words, and is passed over
  have houtput : s.output = Output.none.behind s.unread := by
    unfold Output.behind unread Output.none
    rw [List.append_nil, ← h.start]
  have hlines : (s.drawn.hearing (request s.nextId text params)).output.lines
      = s.unread ++ (Output.none.react r).lines := by
    show (s.output.react
      (s.peer.react (s.heard ++ [request s.nextId text params]))).lines = _
    rw [hr, houtput, Output.react_behind]
    rfl
  have hskipped : ∀ l ∈ s.unread, PassedOver s.nextId l := fun l hl =>
    (h.idle l hl).passedOver (Nat.le_refl _)
  have htake := take_skipped hskipped (Output.none.react r).lines
  have hlast := last_take s.nextId (Output.none.react r).lines
  have hleft : ∀ lines,
      ((s.drawn.hearing (request s.nextId text params)).withLines lines).left
        = true := by
    intro lines
    show (s.peer.react (s.heard ++ [request s.nextId text params])).leaves
      = true
    rw [hr, hleaves]
  unfold call
  dsimp only
  rw [write_request h.left h.begun]
  unfold await
  dsimp only
  rw [hlines, htake]
  cases hresult : (take s.nextId (Output.none.react r).lines).result with
  | some result =>
      rw [hresult] at hlast
      exact ⟨_, result, rfl, rfl, hlast, hleft _, rfl⟩
  | none =>
      rw [hresult] at hlast
      dsimp only
      rw [if_pos (hleft _)]
      exact ⟨_, _, rfl, rfl, hlast, hleft _, rfl⟩

/-- A restoration is a call that somebody waits for. -/
theorem restore_of_call {c : Called} (h : s.call text params .awaited = some c)
    {result : Except Failure Value} (hresult : c.result = some result) :
    restore s text params = some ⟨result, c.events, c.session⟩ := by
  obtain ⟨result', events, s'⟩ := c
  dsimp only at hresult
  subst hresult
  unfold restore
  rw [h]

-- ============================================================ many calls

/-- The lines that bring texts to the worker, the first of them with the
call of a given number. -/
def requests (ids : Nat → String) (params : Params) :
    Nat → List String → List Bytes
  | _, [] => []
  | k, text :: texts =>
    request (ids k) text params :: requests ids params (k + 1) texts

/-- What the worker does when it has read the line for a text and those for
the texts before it. -/
def reaction (s : Session) (params : Params) (texts : List String)
    (i : Nat) : Reaction :=
  s.peer.react (s.heard ++ requests s.ids params s.calls (texts.take (i + 1)))

/-- Of the lines that bring texts to it, the worker reads so many. It says
one reply to each of them but the last, and at the last it leaves. -/
structure Serves (s : Session) (params : Params) (texts : List String)
    (reads : Nat) (reply : Nat → Json.Members) : Prop where
  clear : reads ≠ 0 → s.Clear
  gone : reads = 0 → s.left = true
  replies : ∀ i < texts.length, i + 1 < reads →
    OneReply (s.reaction params texts i) s.ids (s.calls + i)
      (reply (s.calls + i))
  leaves : ∀ i < texts.length, i + 1 = reads →
    (s.reaction params texts i).leaves = true

/-- What the call for a text results in, by its place. -/
inductive Gives (s : Session) (params : Params) (texts : List String)
    (reads : Nat) (reply : Nat → Json.Members) (i : Nat) :
    Except Failure Value → Prop
  | answered (h : i + 1 < reads) :
      Gives s params texts reads reply i (told (reply (s.calls + i)))
  | last {result : Except Failure Value} (h : i + 1 = reads)
      (hlast : Last (s.ids (s.calls + i))
        (Output.none.react (s.reaction params texts i)).lines result) :
      Gives s params texts reads reply i result
  | refused (h : reads ≤ i) :
      Gives s params texts reads reply i (.error (.io .brokenPipe))

variable {texts : List String} {reads : Nat} {s' : Session}

/-- The session after a call in which the worker has read the first line. -/
structure Heard (s s' : Session) (params : Params) (text : String) : Prop where
  peer : s'.peer = s.peer
  ids : s'.ids = s.ids
  calls : s'.calls = s.calls + 1
  heard : s'.heard = s.heard ++ [request s.nextId text params]

/-- In the session after it, the worker reacts to the later texts as it did
before to those behind the first. -/
theorem Heard.reaction (h : Heard s s' params text) (i : Nat) :
    s'.reaction params texts i = s.reaction params (text :: texts) (i + 1) := by
  unfold Session.reaction
  rw [h.peer, h.ids, h.calls, h.heard, List.take_succ_cons, requests,
    List.append_assoc]
  rfl

/-- So it counts one request less. -/
theorem Serves.tail
    (hserves : s.Serves params (text :: texts) (reads + 1) reply)
    (h : Heard s s' params text) (hclear : reads ≠ 0 → s'.Clear)
    (hgone : reads = 0 → s'.left = true) :
    s'.Serves params texts reads reply where
  clear := hclear
  gone := hgone
  replies i hi hreads := by
    have hreply :=
      hserves.replies (i + 1) (Nat.succ_lt_succ hi) (Nat.succ_lt_succ hreads)
    rw [h.reaction, h.ids, h.calls, Nat.add_assoc, Nat.add_comm 1]
    exact hreply
  leaves i hi hreads := by
    rw [h.reaction]
    exact hserves.leaves (i + 1) (Nat.succ_lt_succ hi) (congrArg (· + 1) hreads)

/-- Places in the rest of a run are places in the run. -/
theorem Gives.succ (h : Heard s s' params text) {i : Nat}
    {result : Except Failure Value}
    (hgives : s'.Gives params texts reads reply i result) :
    s.Gives params (text :: texts) (reads + 1) reply (i + 1) result := by
  have hk : s'.calls + i = s.calls + (i + 1) := by rw [h.calls]; omega
  cases hgives with
  | answered hi =>
      rw [hk]
      exact .answered (Nat.succ_lt_succ hi)
  | last hi hlast =>
      rw [hk, h.ids, h.reaction] at hlast
      exact .last (congrArg (· + 1) hi) hlast
  | refused hi => exact .refused (Nat.succ_le_succ hi)

/-- A worker that reads no request gives broken pipes. -/
theorem Gives.eq_brokenPipe {i : Nat} {result : Except Failure Value}
    (h : s.Gives params texts 0 reply i result) :
    result = .error (.io .brokenPipe) := by
  cases h with
  | answered hi => exact absurd hi (Nat.not_lt_zero _)
  | last hi hlast => exact absurd hi (Nat.succ_ne_zero i)
  | refused hi => rfl

/-- A worker that has left serves none of the texts. -/
theorem Serves.of_left (h : s.left = true) (params : Params)
    (texts : List String) (reply : Nat → Json.Members) :
    s.Serves params texts 0 reply where
  clear := fun hne => absurd rfl hne
  gone := fun _ => h
  replies := fun _ _ hlt => absurd hlt (Nat.not_lt_zero _)
  leaves := fun _ _ heq => absurd heq (Nat.succ_ne_zero _)

/-- One text of a run: it gets the result of its place, and the worker has
one request less to read. -/
theorem Serves.restore (h : s.Serves params (text :: texts) reads reply) :
    ∃ r, restore s text params = some r
      ∧ s.Gives params (text :: texts) reads reply 0 r.result
      ∧ r.state.Serves params texts (reads - 1) reply
      ∧ (reads ≠ 0 → Heard s r.state params text)
      ∧ (reads = 0 → r.state.heard = s.heard) := by
  have hfirst : s.reaction params (text :: texts) 0
      = s.peer.react (s.heard ++ [request s.nextId text params]) := rfl
  cases reads with
  | zero =>
      have hcall := call_of_left (h.gone rfl) text params .awaited
      refine ⟨_, restore_of_call hcall rfl,
        .refused (Nat.le_refl 0), ?_, fun hne => absurd rfl hne, fun _ => rfl⟩
      exact .of_left (s := s.drawn) (h.gone rfl) params texts reply
  | succ reads =>
      have hclear := h.clear (Nat.succ_ne_zero reads)
      cases reads with
      | zero =>
          obtain ⟨c, result, hcall, hresult, hlast, hleft, hheard⟩ :=
            call_leaving hclear hfirst.symm (h.leaves 0 (Nat.succ_pos _) rfl)
          obtain ⟨_, _, hgoes⟩ := call_goes hcall
          obtain ⟨hpeer, hids, hcalls, -⟩ := hgoes.frame
          exact ⟨_, restore_of_call hcall hresult, .last rfl hlast,
            .of_left hleft params texts reply,
            fun _ => ⟨hpeer, hids, hcalls, hheard⟩,
            fun hzero => absurd hzero (Nat.succ_ne_zero 0)⟩
      | succ reads =>
          have hreply := h.replies 0 (Nat.succ_pos _) (by omega)
          rw [hfirst] at hreply
          obtain ⟨c, hcall, hresult, hclear', hheard⟩ :=
            call_awaited hclear hreply
          obtain ⟨_, _, hgoes⟩ := call_goes hcall
          obtain ⟨hpeer, hids, hcalls, -⟩ := hgoes.frame
          have hnext : Heard s c.session params text :=
            ⟨hpeer, hids, hcalls, hheard⟩
          exact ⟨_, restore_of_call hcall hresult, .answered (by omega),
            h.tail hnext (fun _ => hclear')
              (fun hzero => absurd hzero (Nat.succ_ne_zero reads)),
            fun _ => hnext, fun hzero => absurd hzero (Nat.succ_ne_zero _)⟩

end Session

end Restoration.Worker
