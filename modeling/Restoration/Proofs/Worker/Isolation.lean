/-
Each call returns a reply of its own.

A worker's output is `Tagged` if it is text and whatever fails in it says
whom it fails. In such output only a line with a call's own id can end the
call, so the lines that other calls left behind are passed over, wherever
they stand (`Takes.own`). Along a run the position at which a call begins
to read is where the one before it stopped (`callAll_hasRead`), and nothing
that is said later moves it.

If moreover each request gets one reply, and nothing was left over before
the first, then the calls do come to an end, each with the reply to its own
request (`callAll_clear`).
-/
import Restoration.Proofs.Worker.Answering

namespace Restoration.Worker

open Json (Value)

variable {line : Bytes} {id : String}

-- ======================================================== tagged output

/-- A line is text and, if it is an object with an error, carries an id. -/
structure Tagged (line : Bytes) : Prop where
  text : ∃ t, Utf8.decode line = .ok t
  id : ∀ members, IsMessage line members → IsNothing (members.get? "error")
    ∨ ∃ id, members.get? "id" = some (.string id)

/-- Noise is tagged. -/
theorem Tagged.of_noise (h : read line = .noise) : Tagged line := by
  obtain ⟨htext, hobject⟩ := read_eq_noise_iff.mp h
  exact ⟨htext, fun members hmessage => absurd hmessage (hobject members)⟩

/-- A message is tagged if its members say so. -/
theorem Tagged.of_message {members : Json.Members}
    (h : read line = .message members)
    (hid : IsNothing (members.get? "error")
      ∨ ∃ id, members.get? "id" = some (.string id)) : Tagged line := by
  obtain ⟨text, htext, htextRead⟩ := read_eq_message_iff.mp h
  refine ⟨⟨text, htext⟩, fun members' hmessage => ?_⟩
  rw [← IsMessage.unique ⟨text, htext, htextRead⟩ hmessage]
  exact hid

/-- A line that is tagged ends a call only by answering it. -/
theorem Tagged.answers (h : Tagged line) {result : Except Failure Value}
    (hline : judge id line = .decide result) :
    ∃ members, Answers line id members ∧ result = told members := by
  rcases judge_cases id line with ⟨f, hf⟩ | ⟨members, hanswers⟩
      | ⟨words, members, hcomplains⟩ | ⟨events, hskip⟩
  · obtain ⟨t, ht⟩ := h.text
    rw [ht] at hf
    cases hf
  · rw [hanswers.judge] at hline
    injection hline with hline
    exact ⟨members, hanswers, hline.symm⟩
  · -- a complaint has an error and no id
    exfalso
    rcases h.id members hcomplains.message with hnothing | ⟨other, hother⟩
    · rw [hcomplains.error] at hnothing
      rcases hnothing with h | h <;> cases h
    · rcases hcomplains.id with h | h <;> rw [hother] at h <;> cases h
  · rw [hskip] at hline
    cases hline

namespace Session

-- ========================================================== own replies

/-- A call goes from one session to another and returns what a line of its
own tells. Lines had been read before it; it passes over lines that do not
answer it, and the first that does is the last that it reads. -/
structure OwnReply (before after : Session) (id : String)
    (result : Except Failure Value) (read skipped : List Bytes) (line : Bytes)
    (members : Json.Members) : Prop where
  start : before.spoken = read ++ before.unread
  stop : after.spoken = read ++ skipped ++ line :: after.unread
  first : ∀ l ∈ skipped, ∀ members, ¬ Answers l id members
  answers : Answers line id members
  result : result = told members

/-- A result that the worker has brought. -/
def Brought (result : Except Failure Value) : Prop :=
  (∃ v, result = .ok v) ∨ ∃ words, result = .error (.worker words)

/-- In tagged output a call takes lines up to the first that answers it. -/
theorem Takes.own {taken : List Bytes} {result : Except Failure Value}
    (h : Takes id taken (some result)) (htagged : ∀ l ∈ taken, Tagged l)
    (hbrought : Brought result) :
    ∃ skipped line members, taken = skipped ++ [line]
      ∧ (∀ l ∈ skipped, ∀ members, ¬ Answers l id members)
      ∧ Answers line id members ∧ result = told members := by
  cases h with
  | refused => rcases hbrought with ⟨v, h⟩ | ⟨words, h⟩ <;> cases h
  | exited _ => rcases hbrought with ⟨v, h⟩ | ⟨words, h⟩ <;> cases h
  | @decided skipped line _ hskipped hline =>
      have hmem : line ∈ skipped ++ [line] :=
        List.mem_append_right _ (List.mem_singleton_self line)
      obtain ⟨members, hanswers, hresult⟩ := (htagged line hmem).answers hline
      exact ⟨skipped, line, members, rfl,
        fun l hl => (passedOver_iff.mp (hskipped l hl)).2.1, hanswers, hresult⟩

variable {s : Session}

/-- A call in a session whose output is tagged so far. -/
theorem call_own {read : List Bytes} (hread : s.HasRead read) {call : Call}
    {c : Called} (h : s.call call.text call.params call.fate = some c)
    (htagged : ∀ l ∈ c.session.spoken, Tagged l) {result : Except Failure Value}
    (hresult : c.result = some result) (hbrought : Brought result) :
    ∃ skipped line members,
      OwnReply s c.session s.nextId result read skipped line members := by
  obtain ⟨written, taken, hgoes⟩ := call_goes h
  have hspoken : c.session.spoken = (read ++ taken) ++ c.session.unread :=
    (hgoes.hasRead hread).spoken_eq
  have htaken : ∀ l ∈ taken, Tagged l := by
    intro l hl
    refine htagged l ?_
    rw [hspoken]
    exact List.mem_append_left _ (List.mem_append_right _ hl)
  have htakes := hgoes.takes
  rw [hresult] at htakes
  obtain ⟨skipped, line, members, rfl, hfirst, hanswers, htold⟩ :=
    htakes.own htaken hbrought
  refine ⟨skipped, line, members, hread.spoken_eq, ?_, hfirst, hanswers, htold⟩
  rw [hspoken]
  simp only [List.append_assoc, List.singleton_append]

/-- A worker that has started leaves the first id to the first call. -/
theorem ids_handshake {peer : Peer} {ids : Nat → String} {path : Path}
    {checkpoint : Checkpoint}
    (h : (start peer ids).handshake path = some (.ok (checkpoint, s))) :
    s.ids = ids ∧ s.calls = 0 := by
  obtain ⟨taken, -, hs⟩ := handshake_takes h
  rw [hs]
  exact ⟨rfl, rfl⟩

/-- In every session, whichever calls are given up and wherever, a call to
which tagged output brings a result has it from the first line after the
point where the call before it stopped reading that carries its own id.
And if the worker says one reply to each request, all calls come to an
end, and those that are not given up return the replies to their own
requests. -/
theorem callAll_isolated {peer : Peer} {ids : Nat → String} {path : Path}
    {checkpoint : Checkpoint}
    (hstart : (start peer ids).handshake path = some (.ok (checkpoint, s))) :
    (∀ calls ends, s.callAll calls = some ends →
        (∀ line ∈ (s.afterAll ends).spoken, Tagged line) →
        ∀ i call, calls[i]? = some call →
          ∃ c, ends[i]? = some c ∧ ∀ result, c.result = some result →
            Brought result → ∃ read skipped line members,
              OwnReply (s.afterAll (ends.take i)) c.session (ids i) result read
                skipped line members)
      ∧ (Function.Injective ids → s.Clear → ∀ calls reply,
        s.Answered calls reply → s.Harmless calls reply →
          ∃ ends, s.callAll calls = some ends
            ∧ ends.map (·.result) = s.results calls reply) := by
  obtain ⟨hids, hzero⟩ := ids_handshake hstart
  constructor
  · intro calls ends hcalls htagged i call hi
    obtain ⟨c, hc, hbefore, hcall, hafter⟩ := callAll_get hcalls hi
    refine ⟨c, hc, fun result hresult hbrought => ?_⟩
    obtain ⟨hlt, -⟩ := List.getElem?_eq_some_iff.mp hi
    -- the reading of the calls before this one
    obtain ⟨begin, hbegin⟩ := hasRead_handshake hstart
    obtain ⟨more, hread⟩ := callAll_hasRead hbefore hbegin
    have hid : (s.afterAll (ends.take i)).nextId = ids i := by
      rw [nextId_afterAll hbefore, hids, hzero, List.length_take,
        Nat.min_eq_left (Nat.le_of_lt hlt), Nat.zero_add]
    -- what had been said by the end of this call is said at the end of all
    have hspoken : c.session.spoken <+: (s.afterAll ends).spoken := by
      obtain ⟨_, _, hgoes⟩ := call_goes hcall
      rw [afterAll_get hc]
      exact callAll_spoken hafter (hgoes.hasRead hread)
    obtain ⟨skipped, line, members, hown⟩ := call_own hread hcall
      (fun l hl => htagged l (hspoken.subset hl)) hresult hbrought
    rw [hid] at hown
    exact ⟨begin ++ more, skipped, line, members, hown⟩
  · intro hinjective hclear calls reply hanswered hharmless
    obtain ⟨ends, hends, hresults, -⟩ :=
      callAll_clear hclear (hids ▸ hinjective) hanswered hharmless
    exact ⟨ends, hends, hresults⟩

-- ========================================================= a late reply

/-- The ids `""`, `"a"`, `"aa"` and so on. -/
def unaryIds (k : Nat) : String := String.ofList (List.replicate k 'a')

theorem unaryIds_injective : Function.Injective unaryIds := by
  intro j k h
  have hlist : List.replicate j 'a' = List.replicate k 'a' :=
    String.ofList_injective h
  simpa using congrArg List.length hlist

/-- A worker that answers three requests. -/
def lateWorker : Peer :=
  .script
    [Utf8.encode "loading",
      Utf8.encode
        ("\x7b\"ready\":true," ++
          "\"model_config\":\x7b\"vocab_char_size\":34\x7d\x7d")]
    [[Utf8.encode "\x7b\"id\":\"\",\"result\":\"one\"\x7d"],
      [Utf8.encode "50%", Utf8.encode "\x7b\"id\":\"a\",\"error\":\"two\"\x7d"],
      [Utf8.encode "\x7b\"id\":\"aa\",\"result\":\"three\"\x7d"]]

/-- The members of its replies. -/
def lateReply : Nat → Json.Members
  | 0 => [("id", .string ""), ("result", .string "one")]
  | 1 => [("error", .string "two"), ("id", .string "a")]
  | _ => [("id", .string "aa"), ("result", .string "three")]

/-- The session with it after the handshake. -/
def lateSession : Session := ⟨lateWorker, [], [], .none, false, unaryIds, 0⟩

/-- Three calls, the first of which is given up before its reply is read. -/
def lateCalls : List Call :=
  [⟨"x", .default, .droppedReading 0⟩, ⟨"y", .default, .awaited⟩,
    ⟨"z", .default, .awaited⟩]

theorem lateSession_handshake :
    (start lateWorker unaryIds).handshake (Path.ofString "m")
      = some (.ok (⟨Path.ofString "m",
          [("vocab_char_size", .number (.integer 34 rfl))], 34⟩,
        lateSession)) := by
  with_unfolding_all rfl

theorem lateSession_clear : lateSession.Clear :=
  ⟨rfl, rfl, rfl, fun _ h => absurd h List.not_mem_nil⟩

/-- The worker says one reply to each request. -/
theorem lateWorker_replies {k : Nat} (hk : k < 3) (heard : List Bytes)
    (hheard : heard.length = k + 1) :
    OneReply (lateWorker.react heard) unaryIds k (lateReply k) := by
  refine ⟨rfl, ?_⟩
  unfold lateWorker Peer.script
  dsimp only
  rw [hheard]
  match k, hk with
  | 0, _ =>
      refine ⟨[], _, [], by with_unfolding_all rfl, Or.inl ?_, by simp⟩
      exact ⟨read_eq_message_iff.mp (by with_unfolding_all rfl),
        ⟨Or.inr ⟨_, rfl⟩, Or.inl (Or.inl rfl)⟩, rfl⟩
  | 1, _ =>
      refine ⟨[_], _, [], by with_unfolding_all rfl, Or.inl ?_, ?_⟩
      · exact ⟨read_eq_message_iff.mp (by with_unfolding_all rfl),
          ⟨Or.inr ⟨_, rfl⟩, Or.inr ⟨_, rfl⟩⟩, rfl⟩
      · rw [List.append_nil, List.forall_mem_singleton]
        exact .of_noise (by with_unfolding_all rfl)
  | 2, _ =>
      refine ⟨[], _, [], by with_unfolding_all rfl, Or.inl ?_, by simp⟩
      exact ⟨read_eq_message_iff.mp (by with_unfolding_all rfl),
        ⟨Or.inr ⟨_, rfl⟩, Or.inl (Or.inl rfl)⟩, rfl⟩

/-- What it says in three requests is tagged. -/
theorem lateWorker_tagged (a b c : Bytes) :
    ∀ line ∈ (lateWorker.said [a, b, c]).lines, Tagged line := by
  have hsaid : (lateWorker.said [a, b, c]).lines
      = [Utf8.encode "loading",
        Utf8.encode
          ("\x7b\"ready\":true," ++
            "\"model_config\":\x7b\"vocab_char_size\":34\x7d\x7d"),
        Utf8.encode "\x7b\"id\":\"\",\"result\":\"one\"\x7d", Utf8.encode "50%",
        Utf8.encode "\x7b\"id\":\"a\",\"error\":\"two\"\x7d",
        Utf8.encode "\x7b\"id\":\"aa\",\"result\":\"three\"\x7d"] := by
    with_unfolding_all rfl
  rw [hsaid]
  simp only [List.forall_mem_cons]
  have hready : read (Utf8.encode
      "\x7b\"ready\":true,\"model_config\":\x7b\"vocab_char_size\":34\x7d\x7d")
      = .message [("model_config", .object [("vocab_char_size",
        .number (.integer 34 rfl))]), ("ready", .bool true)] := by
    with_unfolding_all rfl
  have hone : read (Utf8.encode "\x7b\"id\":\"\",\"result\":\"one\"\x7d")
      = .message (lateReply 0) := by
    with_unfolding_all rfl
  have htwo : read (Utf8.encode "\x7b\"id\":\"a\",\"error\":\"two\"\x7d")
      = .message (lateReply 1) := by
    with_unfolding_all rfl
  have hthree : read (Utf8.encode "\x7b\"id\":\"aa\",\"result\":\"three\"\x7d")
      = .message (lateReply 2) := by
    with_unfolding_all rfl
  exact ⟨.of_noise (by with_unfolding_all rfl),
    .of_message hready (Or.inl (Or.inl rfl)),
    .of_message hone (Or.inr ⟨_, rfl⟩), .of_noise (by with_unfolding_all rfl),
    .of_message htwo (Or.inr ⟨_, rfl⟩), .of_message hthree (Or.inr ⟨_, rfl⟩),
    fun _ h => absurd h List.not_mem_nil⟩

theorem lateCalls_reach : ∀ c ∈ lateCalls, ∀ id, c.Reaches id := by
  intro c hc id
  simp only [lateCalls, List.mem_cons, List.not_mem_nil, or_false] at hc
  rcases hc with rfl | rfl | rfl <;> trivial

theorem lateCalls_answered : lateSession.Answered lateCalls lateReply :=
  answered_of_length rfl rfl (fun _ => lateWorker_replies) (Nat.le_refl 3)
    lateCalls_reach

theorem lateCalls_harmless : lateSession.Harmless lateCalls lateReply := by
  intro i c hi
  obtain ⟨hlt, rfl⟩ := List.getElem?_eq_some_iff.mp hi
  have hlt : i < 3 := hlt
  match i, hlt with
  | 0, _ =>
      exact ⟨fun n h => (nomatch h), fun _ _ h => (nomatch h), fun _ _ => rfl⟩
  | 1, _ =>
      exact ⟨fun n h => (nomatch h), fun _ _ h => (nomatch h),
        fun h => absurd rfl h⟩
  | 2, _ =>
      exact ⟨fun n h => (nomatch h), fun _ _ h => (nomatch h),
        fun h => absurd rfl h⟩

/-- The late reply to the first call is passed over by the second. -/
theorem callAll_isolated_late :
    ∃ checkpoint ends, (start lateWorker unaryIds).handshake (Path.ofString "m")
        = some (.ok (checkpoint, lateSession))
      ∧ lateSession.callAll lateCalls = some ends
      ∧ ends.map (·.result)
        = [none, some (.error (.worker (.stated "two"))),
          some (.ok (.string "three"))]
      ∧ ∃ c, ends[1]? = some c ∧ ∃ read skipped line members,
        OwnReply (lateSession.afterAll (ends.take 1)) c.session "a"
          (.error (.worker (.stated "two"))) read skipped line members := by
  obtain ⟨hown, hreplies⟩ := callAll_isolated lateSession_handshake
  obtain ⟨ends, hends, hresults⟩ :=
    hreplies unaryIds_injective lateSession_clear
    lateCalls lateReply lateCalls_answered lateCalls_harmless
  refine ⟨_, ends, lateSession_handshake, hends, hresults, ?_⟩
  obtain ⟨ends', hends', -, hclear, hheard⟩ := callAll_clear lateSession_clear
    unaryIds_injective lateCalls_answered lateCalls_harmless
  obtain rfl : ends = ends' := Option.some.inj (hends.symm.trans hends')
  have htagged : ∀ line ∈ (lateSession.afterAll ends).spoken, Tagged line := by
    obtain ⟨begin, hbegin⟩ := hasRead_handshake lateSession_handshake
    obtain ⟨more, hread⟩ := callAll_hasRead hends hbegin
    rw [hread.spoken_of_there hclear.left, (callAll_frame hends).1, hheard]
    exact lateWorker_tagged _ _ _
  obtain ⟨c, hc, hresult⟩ := hown lateCalls ends hends htagged 1 _ rfl
  refine ⟨c, hc, hresult _ ?_ (Or.inr ⟨_, rfl⟩)⟩
  have hsecond := congrArg (·[1]?) hresults
  rw [List.getElem?_map, hc] at hsecond
  exact Option.some.inj hsecond

end Session

end Restoration.Worker
