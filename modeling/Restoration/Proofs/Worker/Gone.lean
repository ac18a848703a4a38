/-
Calls to a worker that is gone.

A worker that has left reads nothing more, so a call to it ends where it
would write its request (`refused_of_left`): it is refused, it takes no
line, and the worker is still gone. That is the invariant of all calls
after it (`callAll_of_left`). What the worker left unread thus never
reaches a call: neither a reply to it nor an error that does not say whom
it fails.

The call at which a worker leaves is the last that reads (`callAll_gone`).
It finds the first reply to it in all that is unread by then, unless the
worker leaves in the middle of its request and the pipe does not take the
rest. Then the call is cut off where it writes, and reads nothing either
(`callAll_gone_cutOff`).
-/
import Restoration.Proofs.Worker.Reading

namespace Restoration.Worker.Session

variable {s : Session} {before : List Call} {ends : List Called}

/-- The end of a call to a worker that is gone, which leaves some lines
unread: its request is refused, unless it is given up before its turn. -/
structure Refused (unread : List Bytes) (c : Call)
    (called : Called) : Prop where
  result : called.result
    = if c.fate = .droppedWaiting then none else some (.error (.io .brokenPipe))
  events : called.events = []
  unread : called.session.unread = unread

/-- Whatever becomes of a call to a worker that is gone, only its id is
used up. -/
theorem refused_of_left (h : s.left = true) (c : Call) :
    ∃ called, s.call c.text c.params c.fate = some called
      ∧ Refused s.unread c called ∧ called.session = s.drawn :=
  ⟨_, call_of_left h c.text c.params c.fate, ⟨rfl, rfl, rfl⟩, rfl⟩

/-- All calls to a worker that is gone are refused. -/
theorem callAll_of_left (h : s.left = true) (calls : List Call) :
    ∃ ends, s.callAll calls = some ends
      ∧ List.Forall₂ (Refused s.unread) calls ends := by
  induction calls generalizing s with
  | nil => exact ⟨[], rfl, .nil⟩
  | cons c calls ih =>
      obtain ⟨called, hcall, hrefused, hsession⟩ := refused_of_left h c
      have hleft : called.session.left = true := by
        rw [hsession]
        exact h
      obtain ⟨others, hothers, hall⟩ := ih hleft
      rw [hrefused.unread] at hall
      exact ⟨called :: others,
        callAll_cons.mpr ⟨called, others, hcall, hothers, rfl⟩,
        .cons hrefused hall⟩

/-- Calls go on after a run in the session that it leaves. -/
theorem callAll_go_on (hbefore : s.callAll before = some ends)
    {after : List Call} {later : List Called}
    (hafter : (s.afterAll ends).callAll after = some later) :
    s.callAll (before ++ after) = some (ends ++ later) :=
  callAll_append.mpr ⟨ends, later, hbefore, hafter, rfl⟩

/-- When the worker is gone at the end of a call, all calls after that are
refused, whatever the call has left unread. -/
theorem callAll_of_call_left (hbefore : s.callAll before = some ends)
    {c : Call} {called : Called}
    (hcall : (s.afterAll ends).call c.text c.params c.fate = some called)
    (hleft : called.session.left = true) (after : List Call) :
    ∃ later, s.callAll (before ++ c :: after) = some (ends ++ called :: later)
      ∧ List.Forall₂ (Refused called.session.unread) after later := by
  obtain ⟨later, hlater, hrefused⟩ := callAll_of_left hleft after
  exact ⟨later, callAll_go_on hbefore
    (callAll_cons.mpr ⟨called, later, hcall, hlater, rfl⟩), hrefused⟩

/-- A call that waits for the last words of a worker finds the first reply
among them, or else that the worker has exited, and all calls after it are
refused, whatever is left unread. -/
theorem callAll_of_await (hbefore : s.callAll before = some ends)
    {c : Call} {gone : Session} {id : String}
    (hcall : (s.afterAll ends).call c.text c.params c.fate = gone.await id)
    (hleaves : gone.left = true)
    (htext : ∀ l ∈ gone.unread, ∃ t, Utf8.decode l = .ok t)
    (after : List Call) :
    ∃ called result later,
      s.callAll (before ++ c :: after) = some (ends ++ called :: later)
        ∧ called.result = some result
        ∧ Reads id gone.unread result called.events called.session.unread
        ∧ List.Forall₂ (Refused called.session.unread) after later := by
  obtain ⟨result, events, rest, hawait, hreads⟩ := await_reads hleaves htext id
  obtain ⟨later, hlater, hrefused⟩ :=
    callAll_of_call_left hbefore (hcall.trans hawait) hleaves after
  exact ⟨_, result, later, hlater, rfl, hreads, hrefused⟩

/-- When the worker has left in a run of calls, all calls after it are
refused. When it leaves as it reads the request of a call, that call finds
the first reply to it among the unread lines, or else that the worker has
exited, and all calls after it are refused, whatever is left unread. The
same holds if it leaves in the middle of the request, or before it has read
a byte of it, and the pipe takes the rest. If the pipe does not, the call
is cut off, with nothing read, and all calls after it are refused. -/
theorem callAll_gone (hbefore : s.callAll before = some ends)
    (after : List Call) :
    ((s.afterAll ends).left = true → ∃ later,
        s.callAll (before ++ after) = some (ends ++ later)
          ∧ List.Forall₂ (Refused (s.afterAll ends).unread) after later)
      ∧ (∀ text params, (s.afterAll ends).left = false →
        ((s.afterAll ends).asking text params).left = true →
        (∀ l ∈ ((s.afterAll ends).asking text params).unread,
          ∃ t, Utf8.decode l = .ok t) →
        ∃ called result later,
          s.callAll (before ++ ⟨text, params, .awaited⟩ :: after)
              = some (ends ++ called :: later)
            ∧ called.result = some result
            ∧ Reads (s.afterAll ends).nextId
              ((s.afterAll ends).asking text params).unread
              result called.events called.session.unread
            ∧ List.Forall₂ (Refused called.session.unread) after later)
      ∧ ∀ text params bytes room, (s.afterAll ends).left = false →
        let request := requestLine (s.afterAll ends).nextId text params
        let gone := (s.afterAll ends).leavingMidway text params bytes
        (request.length ≤ bytes + room →
          (∀ l ∈ gone.unread, ∃ t, Utf8.decode l = .ok t) →
          ∃ called result later,
            s.callAll
              (before ++ ⟨text, params, .leftMidway bytes room⟩ :: after)
                = some (ends ++ called :: later)
              ∧ called.result = some result
              ∧ Reads (s.afterAll ends).nextId gone.unread result
                called.events called.session.unread
              ∧ List.Forall₂ (Refused called.session.unread) after later)
        ∧ (bytes + room < request.length →
          ∃ called later,
            s.callAll
              (before ++ ⟨text, params, .leftMidway bytes room⟩ :: after)
                = some (ends ++ called :: later)
              ∧ called.result = some (.error (.io .brokenPipe))
              ∧ called.events = [] ∧ called.session.unread = gone.unread
              ∧ List.Forall₂ (Refused gone.unread) after later) := by
  refine ⟨fun hleft => ?_, fun text params halive hleaves htext => ?_,
    fun text params bytes room halive =>
      ⟨fun hroom htext => ?_, fun hroom => ?_⟩⟩
  · obtain ⟨later, hlater, hrefused⟩ := callAll_of_left hleft after
    exact ⟨later, callAll_go_on hbefore hlater, hrefused⟩
  · exact callAll_of_await (c := ⟨text, params, .awaited⟩) hbefore
      (call_eq_await halive text params) hleaves htext after
  · have hcall := call_leftMidway halive text params bytes room
    rw [if_pos hroom] at hcall
    exact callAll_of_await (c := ⟨text, params, .leftMidway bytes room⟩)
      hbefore hcall rfl htext after
  · have hcall := call_leftMidway halive text params bytes room
    rw [if_neg (Nat.not_le.mpr hroom)] at hcall
    obtain ⟨later, hlater, hrefused⟩ := callAll_of_call_left
      (c := ⟨text, params, .leftMidway bytes room⟩) hbefore hcall rfl after
    exact ⟨_, later, hlater, rfl, rfl, rfl, hrefused⟩

-- ===================================================== two calls of a run

/-- The worker says its lines as well when it leaves midway. -/
theorem partingSession_leavingMidway (text : String) (params : Params)
    (bytes : Nat) :
    (partingSession.leavingMidway text params bytes).unread = partingLines := by
  with_unfolding_all rfl

/-- A text of so many letters. -/
def letters (n : Nat) : String := String.ofList (List.replicate n 'x')

theorem length_letters (n : Nat) : (letters n).toList.length = n := by
  rw [letters, String.toList_ofList, List.length_replicate]

/-- A text of so many letters needs more room than that. -/
theorem lt_length_requestLine (id : String) (params : Params) (n : Nat) :
    n < (requestLine id (letters n) params).length := by
  have hlength := length_text_lt_requestLine id (letters n) params
  rwa [length_letters] at hlength

/-- The second of two calls is refused. -/
theorem eq_of_refused {unread : List Bytes} {c : Call} {later : List Called}
    (hfate : c.fate = .awaited)
    (h : List.Forall₂ (Refused unread) [c] later) :
    ∃ second, later = [second]
      ∧ second.result = some (.error (.io .brokenPipe)) := by
  cases h with
  | cons hsecond hnil =>
      cases hnil
      refine ⟨_, rfl, ?_⟩
      rw [hsecond.result, hfate]
      rfl

/-- The worker leaves at the first of two calls, with a reply to the second
among its last words. The first call finds a complaint, and the second is
refused all the same; so are calls with all these words unread. When it
leaves after a few bytes of a short request, the first call finds the
complaint as well; of a long one that the pipe does not take, nothing. -/
theorem callAll_gone_parting :
    (∃ later, (partingSession.asking "x" .default).callAll
          [⟨"y", .default, .awaited⟩] = some later
        ∧ List.Forall₂ (Refused partingLines) [⟨"y", .default, .awaited⟩] later)
      ∧ (∃ first second, partingSession.callAll
            [⟨"x", .default, .awaited⟩, ⟨"y", .default, .awaited⟩]
              = some [first, second]
          ∧ first.result = some (.error (.worker (.stated "failed")))
          ∧ second.result = some (.error (.io .brokenPipe)))
      ∧ (∃ first second, partingSession.callAll
            [⟨"x", .default, .leftMidway 5 65536⟩, ⟨"y", .default, .awaited⟩]
              = some [first, second]
          ∧ first.result = some (.error (.worker (.stated "failed")))
          ∧ second.result = some (.error (.io .brokenPipe)))
      ∧ ∃ first second, partingSession.callAll
            [⟨letters 65536, .default, .leftMidway 0 65536⟩,
              ⟨"y", .default, .awaited⟩] = some [first, second]
          ∧ first.result = some (.error (.io .brokenPipe))
          ∧ first.session.unread = partingLines
          ∧ second.result = some (.error (.io .brokenPipe)) := by
  obtain ⟨hleft, -, -⟩ := callAll_gone
    (show (partingSession.asking "x" .default).callAll [] = some [] from rfl)
    [⟨"y", .default, .awaited⟩]
  obtain ⟨-, hgone, hmidway⟩ := callAll_gone
    (show partingSession.callAll [] = some [] from rfl)
    [⟨"y", .default, .awaited⟩]
  refine ⟨?_, ?_, ?_, ?_⟩
  · obtain ⟨later, hlater, hrefused⟩ := hleft rfl
    rw [show ((partingSession.asking "x" .default).afterAll []).unread
      = partingLines from partingSession_unread "x" .default] at hrefused
    exact ⟨later, hlater, hrefused⟩
  · have hunread := partingSession_unread "x" .default
    obtain ⟨first, _, later, hcalls, -, -, hrefused⟩ :=
      hgone "x" .default rfl rfl (hunread.symm ▸ partingLines_text)
    obtain ⟨second, rfl, hsecond⟩ := eq_of_refused rfl hrefused
    refine ⟨first, second, hcalls, ?_, hsecond⟩
    obtain ⟨_, _, hfirst, -, heq⟩ := callAll_cons.mp hcalls
    obtain ⟨rfl, -⟩ := List.cons.inj heq
    rw [partingSession_call] at hfirst
    exact (Option.some.inj hfirst) ▸ rfl
  · have hunread := partingSession_leavingMidway "x" .default 5
    have hroom : (requestLine partingSession.nextId "x" .default).length
        ≤ 5 + 65536 := by
      decide +kernel
    obtain ⟨hfits, -⟩ := hmidway "x" .default 5 65536 rfl
    obtain ⟨first, _, later, hcalls, -, -, hrefused⟩ :=
      hfits hroom (hunread.symm ▸ partingLines_text)
    obtain ⟨second, rfl, hsecond⟩ := eq_of_refused rfl hrefused
    refine ⟨first, second, hcalls, ?_, hsecond⟩
    obtain ⟨_, _, hfirst, -, heq⟩ := callAll_cons.mp hcalls
    obtain ⟨rfl, -⟩ := List.cons.inj heq
    rw [call_leftMidway rfl, if_pos hroom, await_partingLines hunread] at hfirst
    exact (Option.some.inj hfirst) ▸ rfl
  · obtain ⟨-, hcut⟩ := hmidway (letters 65536) .default 0 65536 rfl
    obtain ⟨first, later, hcalls, hfirst, -, hunread, hrefused⟩ :=
      hcut (by rw [Nat.zero_add]; exact lt_length_requestLine _ _ _)
    obtain ⟨second, rfl, hsecond⟩ := eq_of_refused rfl hrefused
    exact ⟨first, second, hcalls, hfirst,
      hunread.trans (partingSession_leavingMidway _ _ _), hsecond⟩

/-- A call that is cut off finds neither a reply nor that the worker has
exited, although the worker has left with a complaint unread. -/
theorem callAll_gone_cutOff :
    ¬ ∀ (s : Session) (text : String) (params : Params) (bytes room : Nat)
      (called : Called), s.left = false →
      (∀ l ∈ (s.leavingMidway text params bytes).unread,
        ∃ t, Utf8.decode l = .ok t) →
      s.call text params (.leftMidway bytes room) = some called →
      ∃ result events rest, called.result = some result
        ∧ Reads s.nextId (s.leavingMidway text params bytes).unread
          result events rest := by
  intro hreads
  have hcall := call_leftMidway (s := partingSession) rfl (letters 65536)
    .default 0 65536
  rw [if_neg (by
    rw [Nat.zero_add, Nat.not_le]
    exact lt_length_requestLine _ _ _)] at hcall
  have hunread := partingSession_leavingMidway (letters 65536) .default 0
  obtain ⟨result, events, rest, hresult, hends⟩ := hreads partingSession
    (letters 65536) .default 0 65536 _ rfl
    (hunread.symm ▸ partingLines_text) hcall
  injection hresult with hresult
  exact hends.ne_brokenPipe hresult.symm

end Restoration.Worker.Session
