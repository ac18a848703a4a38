/-
What a call that is given up does to the calls after it.

It does nothing to them if no byte of its request was written, or if all
of it was and the worker's reply carries its id: the reply is then foreign
to whoever reads it (`callAll_clear`). In the two other cases it does
something. A complaint, which carries no id, waits for the next call and
fails it (`Blocked`). A part of a request stays in the pipe, and the next
request is glued to it, so that the worker reads one line for both
(`call_cut`).
-/
import Restoration.Proofs.Worker.Isolation

namespace Restoration.Worker

open Json (Value)

variable {members : Json.Members} {words : String}

-- ====================================================== a complaint left

/-- The members of a reply that does not say whom it fails. -/
def Untagged (members : Json.Members) (words : String) : Prop :=
  IsNothing (members.get? "id") ∧ members.get? "error" = some (.string words)

/-- A reply without an id is a complaint. -/
theorem IsReply.complains {line : Bytes} {id : String}
    (h : IsReply line id members) (huntagged : Untagged members words) :
    Complains line words members := by
  rcases h with h | ⟨words', h⟩
  · rcases huntagged.1 with hid | hid <;> rw [h.id] at hid <;> cases hid
  · exact ⟨h.message, h.id, huntagged.2⟩

namespace Session

variable {s : Session} {reply : Nat → Json.Members}

/-- A complaint waits in front of everything that could answer a call. -/
structure Blocked (s : Session) (words : String) : Prop where
  left : s.left = false
  lines : ∃ front line back members, s.unread = front ++ line :: back
    ∧ (∀ l ∈ front, Idle s.ids s.calls l) ∧ Complains line words members

/-- A call that is given up while it reads does not take a line that would
end it. -/
theorem takeSome_stops {id : String} {line : Bytes}
    {result : Except Failure Value} (hline : judge id line = .decide result)
    (n : Nat) (front back : List Bytes) :
    ∃ kept, (takeSome id n (front ++ line :: back)).rest = kept ++ line :: back
      ∧ ∀ l ∈ kept, l ∈ front := by
  obtain ⟨skipped, hlines, hskipped⟩ :=
    takeSome_skipped id n (front ++ line :: back)
  rcases List.append_eq_append_iff.mp hlines with
    ⟨more, rfl, hrest⟩ | ⟨kept, rfl, hrest⟩
  · cases more with
    | nil => exact ⟨[], hrest.symm, fun l hl => absurd hl List.not_mem_nil⟩
    | cons l more =>
        obtain ⟨rfl, -⟩ := List.cons.inj hrest
        obtain ⟨events, hskip⟩ := hskipped line (by simp)
        rw [hline] at hskip
        cases hskip
  · exact ⟨kept, hrest, fun l hl => List.mem_append_right _ hl⟩

/-- A call that is given up when its request has been read leaves the
complaint about it unread. -/
theorem call_blocks (h : s.Clear) {c : Call} (hfate : c.fate ≠ .awaited)
    (hreaches : c.Reaches s.nextId)
    (hreply : OneReply (s.peer.react (s.heard ++ c.asks s.nextId)) s.ids s.calls
      members)
    (huntagged : Untagged members words) :
    ∃ called, s.call c.text c.params c.fate = some called ∧ called.result = none
      ∧ called.session.Blocked words := by
  rw [Call.asks_of_reaches hreaches] at hreply
  obtain ⟨front, line, back, hunread, -, hleft, hisReply, hidle⟩ :=
    h.hearing hreply
  obtain ⟨hfront, -⟩ := List.forall_mem_append.mp hidle
  have hcomplains := hisReply.complains huntagged
  obtain ⟨text, params, fate⟩ := c
  cases fate with
  | awaited => exact absurd rfl hfate
  | droppedWaiting => exact absurd hreaches id
  | leftMidway n room => exact absurd hreaches id
  | droppedWriting n =>
      have hlen : (requestLine s.nextId text params).length ≤ n := by
        rw [requestLine_eq, List.length_append, List.length_singleton]
        exact hreaches
      unfold call
      dsimp only
      rw [List.take_of_length_le hlen, write_request h.left h.begun]
      exact ⟨_, rfl, rfl, hleft, front, line, back, members, hunread,
        fun l hl => (hfront l hl).succ, hcomplains⟩
  | droppedReading n =>
      obtain ⟨kept, hrest, hkept⟩ :=
        takeSome_stops (hcomplains.judge s.nextId) n front back
      unfold call
      dsimp only
      rw [write_request h.left h.begun]
      dsimp only
      rw [show (s.drawn.hearing (request s.nextId text params)).output.lines = _
        from hunread, hrest]
      exact ⟨_, rfl, rfl, hleft, kept, line, back, members, rfl,
        fun l hl => (hfront l (hkept l hl)).succ, hcomplains⟩

/-- The next call fails with that complaint, whatever the worker says to
its own request. -/
theorem Blocked.call (h : s.Blocked words) (text : String) (params : Params) :
    ∃ c, s.call text params .awaited = some c
      ∧ c.result = some (.error (.worker (.stated words))) := by
  obtain ⟨front, line, back, members, hunread, hfront, hcomplains⟩ := h.lines
  have hwrite := write_requestLine (s := s.drawn) h.left s.nextId text params
  obtain ⟨more, hmore⟩ := Output.lines_prefix_react s.output
    (s.peer.react
      (s.heard ++ [s.drawn.begun.reverse ++ request s.nextId text params]))
  have hskipped : ∀ l ∈ front, PassedOver s.nextId l := fun l hl =>
    (hfront l hl).passedOver (Nat.le_refl _)
  have htake := take_skipped hskipped (line :: (back ++ more))
  rw [take_decided (hcomplains.judge _)] at htake
  have hlines : (s.drawn.hearing
      (s.drawn.begun.reverse ++ request s.nextId text params)).output.lines
        = front ++ line :: (back ++ more) := by
    rw [show s.output.lines = _ from hunread, List.append_assoc,
      List.cons_append] at hmore
    exact hmore.symm
  unfold Session.call await
  dsimp only
  rw [hwrite]
  dsimp only
  rw [hlines, htake]
  exact ⟨_, rfl, rfl⟩

-- ======================================================= a request cut off

/-- The request after one that was cut off reaches the worker glued to it,
and what the worker says to that line is what the call returns. -/
theorem call_cut (h : s.Clear) {text text' : String}
    {params params' : Params} {n : Nat}
    (hn : n ≤ (request s.nextId text params).length)
    (hreply : OneReply (s.peer.react (s.heard ++
        [(request s.nextId text params).take n ++
          request s.drawn.nextId text' params']))
      s.ids (s.calls + 1) members) :
    ∃ c d, s.call text params (.droppedWriting n) = some c ∧ c.result = none
      ∧ c.session.call text' params' .awaited = some d
      ∧ d.result = some (told members) := by
  have hfirst : s.call text params (.droppedWriting n)
      = some ⟨none, [],
        s.drawn.beginning ((request s.nextId text params).take n)⟩ := by
    unfold call
    dsimp only
    rw [write_take_requestLine (s := s.drawn) h.left s.nextId text params hn]
  obtain ⟨d, hawait, hresult, -, -⟩ := h.drawn.await hreply
  refine ⟨_, d, hfirst, rfl, ?_, hresult⟩
  have hwrite := write_requestLine (s := (s.drawn.beginning
      ((request s.nextId text params).take n)).drawn) h.left s.drawn.nextId
    text' params'
  have hbegun : (s.drawn.beginning
      ((request s.nextId text params).take n)).drawn.begun.reverse
        = (request s.nextId text params).take n := by
    show (((request s.nextId text params).take n).reverse ++ s.begun).reverse
      = _
    rw [h.begun, List.append_nil, List.reverse_reverse]
  rw [hbegun] at hwrite
  unfold call
  dsimp only
  rw [show (s.drawn.beginning _).nextId = s.drawn.nextId from rfl, hwrite]
  exact hawait

-- ================================================================ two runs

variable {done rest : List Call} {c c' : Call}

/-- Runs that differ in one call bring the same lines to the worker if that
call brings the same. -/
theorem asked_take_congr {ids : Nat → String} {k : Nat}
    (hasks : c'.asks (ids (k + done.length)) = c.asks (ids (k + done.length)))
    (n : Nat) :
    asked ids k ((done ++ c' :: rest).take n)
      = asked ids k ((done ++ c :: rest).take n) := by
  rw [List.take_append, List.take_append, asked_append, asked_append]
  cases hn : n - done.length with
  | zero => rfl
  | succ m =>
      have hdone : (done.take n).length = done.length := by
        rw [List.length_take]
        omega
      rw [List.take_succ_cons, List.take_succ_cons, hdone, asked, asked, hasks]

/-- What becomes of a call is nothing to the worker once it has the
request. -/
theorem Answered.of_reaches (h : s.Answered (done ++ c :: rest) reply)
    (hasks : c'.asks (s.ids (s.calls + done.length))
      = c.asks (s.ids (s.calls + done.length)))
    (hreaches : c.Reaches (s.ids (s.calls + done.length))) :
    s.Answered (done ++ c' :: rest) reply := by
  intro i d hi hd
  rw [asked_take_congr hasks]
  rcases Nat.lt_trichotomy i done.length with hlt | rfl | hgt
  · refine h i d ?_ hd
    rw [List.getElem?_append_left hlt] at hi ⊢
    exact hi
  · exact h done.length c (by simp) hreaches
  · refine h i d ?_ hd
    rw [List.getElem?_append_right (Nat.le_of_lt hgt)] at hi ⊢
    obtain ⟨m, hm⟩ : ∃ m, i - done.length = m + 1 :=
      ⟨i - done.length - 1, by omega⟩
    rw [hm, List.getElem?_cons_succ] at hi ⊢
    exact hi

/-- Each of the other calls returns the same. -/
theorem results_getElem? {j : Nat} (hj : j ≠ done.length) :
    (s.results (done ++ c' :: rest) reply)[j]?
      = (s.results (done ++ c :: rest) reply)[j]? := by
  unfold results
  rw [List.getElem?_mapIdx, List.getElem?_mapIdx]
  rcases Nat.lt_or_gt_of_ne hj with hlt | hgt
  · rw [List.getElem?_append_left hlt, List.getElem?_append_left hlt]
  · obtain ⟨m, hm⟩ : ∃ m, j - done.length = m + 1 :=
      ⟨j - done.length - 1, by omega⟩
    rw [List.getElem?_append_right (Nat.le_of_lt hgt),
      List.getElem?_append_right (Nat.le_of_lt hgt), hm,
      List.getElem?_cons_succ, List.getElem?_cons_succ]

/-- An awaited call in place of any other does no harm. -/
theorem Harmless.of_awaited (h : s.Harmless (done ++ c' :: rest) reply)
    (hfate : c.fate = .awaited) : s.Harmless (done ++ c :: rest) reply := by
  intro i d hi
  rcases Nat.lt_trichotomy i done.length with hlt | rfl | hgt
  · refine h i d ?_
    rw [List.getElem?_append_left hlt] at hi ⊢
    exact hi
  · obtain rfl : c = d := by simpa using hi
    refine ⟨fun n hn => ?_, fun bytes room hleaves => ?_,
      fun hne => absurd hfate hne⟩
    · rw [hfate] at hn
      cases hn
    · rw [hfate] at hleaves
      cases hleaves
  · refine h i d ?_
    rw [List.getElem?_append_right (Nat.le_of_lt hgt)] at hi ⊢
    obtain ⟨m, hm⟩ : ∃ m, i - done.length = m + 1 :=
      ⟨i - done.length - 1, by omega⟩
    rw [hm, List.getElem?_cons_succ] at hi ⊢
    exact hi

/-- Two calls after others. -/
theorem callAll_two {ends : List Called} {a b : Called}
    (hdone : s.callAll done = some ends)
    (ha : (s.afterAll ends).call c.text c.params c.fate = some a)
    (hb : a.session.call c'.text c'.params c'.fate = some b) :
    s.callAll (done ++ [c, c']) = some (ends ++ [a, b]) :=
  callAll_append.mpr ⟨ends, [a, b], hdone,
    callAll_cons.mpr ⟨a, [b], ha, callAll_cons.mpr ⟨b, [], hb, rfl, rfl⟩, rfl⟩,
    rfl⟩

/-- A call may be given up without harm if nothing of its request has been
written, or all of it has and the reply carries its id: in a session with a
worker that says one reply to each request, all other calls then return
what they return when it is awaited. If instead the reply is an error
without an id, the next call fails with it, and if only a part of the
request has been written, the next call returns what the worker says to
that part with the next request behind it. -/
theorem callAll_dropped (hclear : s.Clear) (hids : Function.Injective s.ids)
    (done : List Call) (text : String) (params : Params)
    (reply : Nat → Json.Members) :
    (∀ fate rest, s.Answered (done ++ ⟨text, params, .awaited⟩ :: rest) reply →
        (¬ Call.Reaches ⟨text, params, fate⟩ (s.ids (s.calls + done.length)) →
          s.Answered (done ++ ⟨text, params, fate⟩ :: rest) reply) →
        s.Harmless (done ++ ⟨text, params, fate⟩ :: rest) reply →
        ∃ ends ends',
          s.callAll (done ++ ⟨text, params, .awaited⟩ :: rest) = some ends
          ∧ s.callAll (done ++ ⟨text, params, fate⟩ :: rest) = some ends'
          ∧ ∀ j, j ≠ done.length →
            (ends'.map (·.result))[j]? = (ends.map (·.result))[j]?)
      ∧ (∀ fate words text' params', fate ≠ .awaited →
        Call.Reaches ⟨text, params, fate⟩ (s.ids (s.calls + done.length)) →
        s.Answered (done ++ [⟨text, params, fate⟩]) reply →
        s.Harmless done reply → Untagged (reply (s.calls + done.length)) words →
        ∃ ends,
          s.callAll (done ++ [⟨text, params, fate⟩, ⟨text', params', .awaited⟩])
            = some ends
          ∧ ends.map (·.result)
            = s.results done reply ++
              [none, some (.error (.worker (.stated words)))])
      ∧ ∀ n members text' params',
        n ≤ (request (s.ids (s.calls + done.length)) text params).length →
        s.Answered done reply → s.Harmless done reply →
        OneReply (s.peer.react (s.heard ++ asked s.ids s.calls done
            ++ [(request (s.ids (s.calls + done.length)) text params).take n
              ++ request (s.ids (s.calls + done.length + 1)) text' params']))
          s.ids (s.calls + done.length + 1) members →
        ∃ ends, s.callAll (done
            ++ [⟨text, params, .droppedWriting n⟩, ⟨text', params', .awaited⟩])
            = some ends
          ∧ ends.map (·.result) = s.results done reply ++
            [none, some (told members)] := by
  refine ⟨fun fate rest hanswered hunread hharmless => ?_,
    fun fate words text' params' hfate hreaches hanswered hharmless huntagged =>
    ?_, fun n members text' params' hn hanswered hharmless hreply => ?_⟩
  · obtain ⟨ends, hends, hresults, -⟩ := callAll_clear hclear hids hanswered
      (hharmless.of_awaited rfl)
    have hanswered' :
        s.Answered (done ++ ⟨text, params, fate⟩ :: rest) reply := by
      by_cases hreaches :
        Call.Reaches ⟨text, params, fate⟩ (s.ids (s.calls + done.length))
      · refine hanswered.of_reaches ?_ trivial
        rw [Call.asks_of_reaches hreaches]
        rfl
      · exact hunread hreaches
    obtain ⟨ends', hends', hresults', -⟩ :=
      callAll_clear hclear hids hanswered' hharmless
    refine ⟨ends, ends', hends, hends', fun j hj => ?_⟩
    rw [hresults, hresults']
    exact results_getElem? hj
  · obtain ⟨ends, hends, hresults, hclear', hheard⟩ := callAll_clear hclear hids
      hanswered.left hharmless
    obtain ⟨hpeer, hids', hcalls, -⟩ := callAll_frame hends
    have hid := nextId_afterAll hends
    have hreply := hanswered.last hreaches
    rw [← hpeer, ← hheard, ← hid, ← hids', ← hcalls] at hreply
    rw [← hid] at hreaches
    rw [← hcalls] at huntagged
    obtain ⟨a, ha, hresult, hblocked⟩ :=
      call_blocks hclear' hfate hreaches hreply huntagged
    obtain ⟨b, hb, hcomplaint⟩ := hblocked.call text' params'
    refine ⟨_, callAll_two hends ha hb, ?_⟩
    rw [List.map_append, hresults, List.map_cons, List.map_singleton,
      hresult, hcomplaint]
  · obtain ⟨ends, hends, hresults, hclear', hheard⟩ := callAll_clear hclear hids
      hanswered hharmless
    obtain ⟨hpeer, hids', hcalls, -⟩ := callAll_frame hends
    have hid := nextId_afterAll hends
    have hid' : (s.afterAll ends).drawn.nextId
        = s.ids (s.calls + done.length + 1) := by
      show (s.afterAll ends).ids ((s.afterAll ends).calls + 1) = _
      rw [hids', hcalls]
    rw [← hpeer, ← hheard, ← hid, ← hid', ← hids', ← hcalls] at hreply
    rw [← hid] at hn
    obtain ⟨a, b, ha, hresult, hb, htold⟩ := call_cut hclear' hn hreply
    refine ⟨_, callAll_two hends ha hb, ?_⟩
    rw [List.map_append, hresults, List.map_cons, List.map_singleton,
      hresult, htold]

/-- The second of three calls is given up, and its reply carries its id. -/
theorem callAll_dropped_tagged :
    lateSession.Clear ∧ Function.Injective lateSession.ids
      ∧ ∃ ends ends', lateSession.callAll lateCalls = some ends
        ∧ lateSession.callAll [⟨"x", .default, .droppedReading 0⟩,
          ⟨"y", .default, .droppedReading 1⟩, ⟨"z", .default, .awaited⟩]
          = some ends'
        ∧ ∀ j, j ≠ 1 →
          (ends'.map (·.result))[j]? = (ends.map (·.result))[j]? := by
  refine ⟨lateSession_clear, unaryIds_injective, ?_⟩
  refine (callAll_dropped lateSession_clear unaryIds_injective
    [⟨"x", .default, .droppedReading 0⟩] "y" .default lateReply).1
    (.droppedReading 1) [⟨"z", .default, .awaited⟩] lateCalls_answered
    (fun hnot => absurd trivial hnot) ?_
  intro i c hi
  obtain ⟨hlt, rfl⟩ := List.getElem?_eq_some_iff.mp hi
  have hlt : i < 3 := hlt
  match i, hlt with
  | 0, _ =>
      exact ⟨fun n h => (nomatch h), fun _ _ h => (nomatch h), fun _ _ => rfl⟩
  | 1, _ =>
      exact ⟨fun n h => (nomatch h), fun _ _ h => (nomatch h), fun _ _ => rfl⟩
  | 2, _ =>
      exact ⟨fun n h => (nomatch h), fun _ _ h => (nomatch h),
        fun h => absurd rfl h⟩

-- ================================================ a complaint that is left

/-- A worker that cannot read its first request. -/
def garbledWorker : Peer :=
  .script [] [[Utf8.encode "\x7b\"error\":\"unreadable\"\x7d"],
    [Utf8.encode "\x7b\"id\":\"a\",\"result\":\"fresh\"\x7d"]]

/-- The members of its replies. -/
def garbledReply : Nat → Json.Members
  | 0 => [("error", .string "unreadable")]
  | _ => [("id", .string "a"), ("result", .string "fresh")]

/-- A session with it. -/
def garbledSession : Session :=
  ⟨garbledWorker, [], [], .none, false, unaryIds, 0⟩

theorem garbledWorker_replies {k : Nat} (hk : k < 2) (heard : List Bytes)
    (hheard : heard.length = k + 1) :
    OneReply (garbledWorker.react heard) unaryIds k (garbledReply k) := by
  refine ⟨rfl, ?_⟩
  unfold garbledWorker Peer.script
  dsimp only
  rw [hheard]
  match k, hk with
  | 0, _ =>
      refine ⟨[], _, [], by with_unfolding_all rfl,
        Or.inr ⟨"unreadable", ?_⟩, by simp⟩
      exact ⟨read_eq_message_iff.mp (by with_unfolding_all rfl),
        Or.inl rfl, rfl⟩
  | 1, _ =>
      refine ⟨[], _, [], by with_unfolding_all rfl, Or.inl ?_, by simp⟩
      exact ⟨read_eq_message_iff.mp (by with_unfolding_all rfl),
        ⟨Or.inr ⟨_, rfl⟩, Or.inl (Or.inl rfl)⟩, rfl⟩

theorem garbledSession_answered (fate : Fate)
    (hfate : fate = .awaited ∨ fate = .droppedReading 0) :
    garbledSession.Answered [⟨"x", .default, fate⟩, ⟨"y", .default, .awaited⟩]
      garbledReply := by
  refine answered_of_length rfl rfl (fun _ => garbledWorker_replies)
    (Nat.le_refl 2) ?_
  intro c hc id
  simp only [List.mem_cons, List.not_mem_nil, or_false] at hc
  rcases hc with rfl | rfl
  · rcases hfate with rfl | rfl <;> trivial
  · trivial

set_option maxRecDepth 20000 in
/-- The complaint that a call has left behind is what the next one returns. -/
theorem callAll_dropped_complaint :
    ¬ ∀ (s : Session) (done rest : List Call) (text : String) (params : Params)
      (fate : Fate) (reply : Nat → Json.Members),
      s.Clear → Function.Injective s.ids →
      Call.Attended ⟨text, params, fate⟩ →
      s.Answered (done ++ ⟨text, params, .awaited⟩ :: rest) reply →
      s.Answered (done ++ ⟨text, params, fate⟩ :: rest) reply →
      ∀ ends ends',
        s.callAll (done ++ ⟨text, params, .awaited⟩ :: rest) = some ends →
        s.callAll (done ++ ⟨text, params, fate⟩ :: rest) = some ends' →
        ∀ j, done.length < j →
          (ends'.map (·.result))[j]? = (ends.map (·.result))[j]? := by
  intro hunnoticed
  have hends : (garbledSession.callAll
      [⟨"x", .default, .awaited⟩, ⟨"y", .default, .awaited⟩]).map
    (·.map (·.result))
      = some [some (.error (.worker (.stated "unreadable"))),
        some (.ok (.string "fresh"))] := by
    with_unfolding_all rfl
  have hends' : (garbledSession.callAll
      [⟨"x", .default, .droppedReading 0⟩, ⟨"y", .default, .awaited⟩]).map
        (·.map (·.result))
      = some [none, some (.error (.worker (.stated "unreadable")))] := by
    with_unfolding_all rfl
  obtain ⟨ends, hcalls, hresults⟩ := Option.map_eq_some_iff.mp hends
  obtain ⟨ends', hcalls', hresults'⟩ := Option.map_eq_some_iff.mp hends'
  have hsame :=
    hunnoticed garbledSession [] [⟨"y", .default, .awaited⟩] "x" .default
    (.droppedReading 0) garbledReply
    ⟨rfl, rfl, rfl, fun _ h => absurd h List.not_mem_nil⟩ unaryIds_injective
    (fun _ _ h => (nomatch h)) (garbledSession_answered _ (Or.inl rfl))
    (garbledSession_answered _ (Or.inr rfl))
    ends ends' hcalls hcalls' 1 Nat.one_pos
  rw [hresults, hresults'] at hsame
  injection hsame with hsame
  injection hsame with hsame
  cases hsame

end Session

end Restoration.Worker
