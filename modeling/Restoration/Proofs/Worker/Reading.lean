/-
What a call makes of the lines that it finds.

A call ends at the first reply to it: a line that carries its id, or an
error without an id. Whatever stands before that is passed over, and of a
line that is passed over only two things can be told: that it is an object
and no reply, or that it is a reply without an id and without an error
(`Remarked`). So a call is known by the lines alone (`Reads`): how many of
them it takes, what it returns, and what it tells.

An object is judged by whether it is a reply (`judge_of_misfit`,
`judge_of_reply`), and the two verdicts are read off that; the loop then
only cuts the lines at the first one that is not passed over
(`take_cases`).
-/
import Restoration.Proofs.Text.Decoding
import Restoration.Proofs.Worker.Isolation
import Restoration.Proofs.Worker.Leaving

namespace Restoration.Worker

open Json (Value)

variable {line : Bytes} {members : Json.Members} {id : String}

-- =============================================================== remarks

/-- Why an object is no reply: its error, or else its id, is neither a
string nor `null`. -/
inductive Misfit (members : Json.Members) : Json.Error → Prop
  | error {v : Value} (h : members.get? "error" = some v)
      (hform : ¬ IsTextOrNothing (members.get? "error")) :
      Misfit members (.wrongType v "a string")
  | id {v : Value} (herror : IsTextOrNothing (members.get? "error"))
      (h : members.get? "id" = some v)
      (hform : ¬ IsTextOrNothing (members.get? "id")) :
      Misfit members (.wrongType v "a string")

/-- What is told about a line that a call passes over. -/
inductive Remarked (line : Bytes) : List Event → Prop
  /-- It is no object. -/
  | noise (h : ∀ members, ¬ IsMessage line members) : Remarked line []
  /-- It is an object and no reply. -/
  | misfit {members : Json.Members} {e : Json.Error}
      (h : IsMessage line members)
      (hmisfit : Misfit members e) : Remarked line [.malformedReply e]
  /-- It answers another call. -/
  | foreign {members : Json.Members} {other : String}
      (h : IsMessage line members)
      (hwell : WellFormed members)
      (hid : members.get? "id" = some (.string other)) :
      Remarked line []
  /-- It says neither whom it answers nor what failed. -/
  | anonymous {members : Json.Members} (h : IsMessage line members)
      (hid : IsNothing (members.get? "id"))
      (herror : IsNothing (members.get? "error")) :
      Remarked line [.replyWithoutId]

/-- What is told about lines that are passed over, in their order. -/
inductive RemarkedAll : List Bytes → List Event → Prop
  | nil : RemarkedAll [] []
  | cons {line : Bytes} {lines : List Bytes} {own others : List Event}
      (h : Remarked line own) (hothers : RemarkedAll lines others) :
      RemarkedAll (line :: lines) (own ++ others)

/-- How a call reads lines that come to an end: up to the first reply to
it, which gives the result, or all of them if none is a reply. -/
inductive Reads (id : String) :
    List Bytes → Except Failure Value → List Event → List Bytes → Prop
  | reply {skipped rest : List Bytes} {line : Bytes} {members : Json.Members}
      {events : List Event}
      (hskipped : ∀ l ∈ skipped, ∀ members, ¬ IsReply l id members)
      (hline : IsReply line id members) (hevents : RemarkedAll skipped events) :
      Reads id (skipped ++ line :: rest) (told members) events rest
  | exited {lines : List Bytes} {events : List Event}
      (hskipped : ∀ l ∈ lines, ∀ members, ¬ IsReply l id members)
      (hevents : RemarkedAll lines events) :
      Reads id lines (.error .workerExited) events []

/-- No reply tells that a pipe is broken. -/
theorem told_ne_brokenPipe (members : Json.Members) :
    told members ≠ .error (.io .brokenPipe) := by
  unfold told
  split
  · nofun
  · split <;> nofun

/-- Nor does the end of what a worker says. -/
theorem Reads.ne_brokenPipe {lines rest : List Bytes}
    {result : Except Failure Value} {events : List Event}
    (h : Reads id lines result events rest) :
    result ≠ .error (.io .brokenPipe) := by
  cases h with
  | reply _ _ _ => exact told_ne_brokenPipe _
  | exited _ _ => nofun

-- =============================================================== judging

/-- An object is no reply exactly if one of its members does not fit. -/
theorem ofMembers_eq_error_iff {e : Json.Error} :
    Reply.ofMembers members = .error e ↔ Misfit members e := by
  unfold Reply.ofMembers
  constructor
  · intro h
    cases herror : Json.wantOptionalString (members.get? "error") with
    | error e' =>
        rw [herror] at h
        cases h
        obtain ⟨v, hv, hform, rfl⟩ := wantOptionalString_eq_error_iff.mp herror
        exact .error hv hform
    | ok error =>
        rw [herror] at h
        cases hid : Json.wantOptionalString (members.get? "id") with
        | error e' =>
            rw [hid] at h
            cases h
            obtain ⟨v, hv, hform, rfl⟩ := wantOptionalString_eq_error_iff.mp hid
            exact .id (isTextOrNothing_of_ok herror) hv hform
        | ok id =>
            rw [hid] at h
            cases h
  · intro h
    cases h with
    | @error v h hform =>
        rw [wantOptionalString_eq_error_iff.mpr ⟨v, h, hform, rfl⟩]
        rfl
    | @id v herror h hform =>
        rw [wantOptionalString_eq_ok herror,
          wantOptionalString_eq_error_iff.mpr ⟨v, h, hform, rfl⟩]
        rfl

theorem judge_of_misfit (h : IsMessage line members) {e : Json.Error}
    (he : Reply.ofMembers members = .error e) (id : String) :
    judge id line = .skip [.malformedReply e] := by
  unfold judge
  rw [read_eq_message_iff.mpr h]
  dsimp only
  rw [he]

theorem judge_of_reply (h : IsMessage line members) {reply : Reply}
    (hreply : Reply.ofMembers members = .ok reply) (id : String) :
    judge id line
      = if reply.isForeign id then .skip reply.remark
        else .decide reply.outcome := by
  unfold judge
  rw [read_eq_message_iff.mpr h]
  dsimp only
  rw [hreply]

/-- A line that is passed over is remarked upon by what it is. -/
theorem remarked_of_skip {events : List Event}
    (h : judge id line = .skip events) :
    Remarked line events := by
  cases hread : read line with
  | fault f =>
      rw [judge_of_fault (read_eq_fault_iff.mp hread)] at h
      cases h
  | noise =>
      unfold judge at h
      rw [hread] at h
      cases h
      exact .noise (read_eq_noise_iff.mp hread).2
  | message members =>
      have hmessage := read_eq_message_iff.mp hread
      cases hreply : Reply.ofMembers members with
      | error e =>
          rw [judge_of_misfit hmessage hreply] at h
          cases h
          exact .misfit hmessage (ofMembers_eq_error_iff.mp hreply)
      | ok reply =>
          have hwell := wellFormed_of_ofMembers hreply
          rw [judge_of_reply hmessage (ofMembers_of_wellFormed hwell)] at h
          by_cases hforeign : Reply.isForeign ⟨text? (members.get? "id"),
              notNull (members.get? "result"), text? (members.get? "error")⟩ id
            = true
          · rw [if_pos hforeign] at h
            injection h with h
            subst h
            rcases hwell.id with hid | ⟨other, hid⟩
            · have hnone : text? (members.get? "id") = none := by
                rcases hid with hid | hid <;> rw [hid] <;> rfl
              rw [hnone] at hforeign ⊢
              rcases hwell.error with herror | ⟨words, herror⟩
              · exact .anonymous hmessage hid herror
              · -- a complaint is not foreign to anyone
                rw [herror] at hforeign
                cases hforeign
            · rw [hid]
              exact .foreign hmessage hwell hid
          · rw [if_neg hforeign] at h
            cases h

/-- A line that is text and ends a call is a reply to it. -/
theorem isReply_of_decide {result : Except Failure Value}
    (htext : ∃ text, Utf8.decode line = .ok text)
    (h : judge id line = .decide result) :
    ∃ members, IsReply line id members ∧ result = told members := by
  rcases judge_cases id line with ⟨f, hf⟩ | ⟨members, hanswers⟩
      | ⟨words, members, hcomplains⟩ | ⟨events, hskip⟩
  · obtain ⟨text, htext⟩ := htext
    rw [htext] at hf
    cases hf
  · have hreply : IsReply line id members := Or.inl hanswers
    rw [hreply.judge] at h
    injection h with h
    exact ⟨members, hreply, h.symm⟩
  · have hreply : IsReply line id members := Or.inr ⟨words, hcomplains⟩
    rw [hreply.judge] at h
    injection h with h
    exact ⟨members, hreply, h.symm⟩
  · rw [hskip] at h
    cases h

theorem PassedOver.not_isReply (h : PassedOver id line)
    (members : Json.Members) :
    ¬ IsReply line id members := by
  intro hreply
  obtain ⟨events, hskip⟩ := h
  rw [hreply.judge] at hskip
  cases hskip

namespace Session

variable {s : Session}

-- ================================================================ a call

/-- Each line that is passed over leaves its own remark. -/
theorem remarkedAll_remarks {skipped : List Bytes}
    (h : ∀ l ∈ skipped, PassedOver id l) :
    RemarkedAll skipped (remarks id skipped) := by
  induction skipped with
  | nil => exact .nil
  | cons line skipped ih =>
      obtain ⟨⟨events, hline⟩, hskipped⟩ := List.forall_mem_cons.mp h
      have hcons : remarks id (line :: skipped) = events ++
          remarks id skipped := by
        unfold remarks
        rw [List.flatMap_cons, hline]
      rw [hcons]
      exact .cons (remarked_of_skip hline) (ih hskipped)

/-- Whoever waits while the worker has nothing more to say gets to an end. -/
theorem await_reads (hleft : s.left = true)
    (htext : ∀ l ∈ s.unread, ∃ text, Utf8.decode l = .ok text) (id : String) :
    ∃ result events rest,
      s.await id = some ⟨some result, events, s.withLines rest⟩
      ∧ Reads id s.unread result events rest := by
  rcases take_cases id s.unread with
    ⟨hall, htake⟩ |
      ⟨skipped, line, rest, result, hunread, hskipped, hline, htake⟩
  · refine ⟨.error .workerExited, remarks id s.unread, [], ?_,
      .exited (fun l hl => (hall l hl).not_isReply) (remarkedAll_remarks hall)⟩
    unfold await
    dsimp only
    rw [show s.output.lines = s.unread from rfl, htake]
    show (if s.left = true then _ else _) = _
    rw [if_pos hleft]
  · have hmem : line ∈ s.unread := by
      rw [hunread]
      simp
    obtain ⟨members, hreply, rfl⟩ := isReply_of_decide (htext line hmem) hline
    refine ⟨told members, remarks id skipped, rest, ?_, ?_⟩
    · unfold await
      dsimp only
      rw [show s.output.lines = s.unread from rfl, htake]
    · rw [hunread]
      exact .reply (fun l hl => (hskipped l hl).not_isReply) hreply
        (remarkedAll_remarks hskipped)

/-- The session when the request for a text has been read. -/
def asking (s : Session) (text : String) (params : Params) : Session :=
  s.drawn.hearing (s.begun.reverse ++ request s.nextId text params)

/-- An awaited call is the wait for the reply to its request. -/
theorem call_eq_await (halive : s.left = false) (text : String)
    (params : Params) :
    s.call text params .awaited = (s.asking text params).await s.nextId := by
  have hwrite := write_requestLine (s := s.drawn) halive s.nextId text params
  unfold call
  dsimp only
  rw [hwrite]
  rfl

/-- The call for a text whose request is the last that the worker reads
takes lines up to the first reply to it, and not one more. That reply is
what it returns, and if there is none it takes all lines and returns that
the worker has exited. It tells of each object that it passes over and
that is no reply, or says neither whom it answers nor what failed. -/
theorem restore_reads (halive : s.left = false) (text : String)
    (params : Params) (hleaves : (s.asking text params).left = true)
    (htext : ∀ l ∈ (s.asking text params).unread, ∃ t, Utf8.decode l = .ok t) :
    ∃ result events rest,
      restore s text params
        = some ⟨result, events, (s.asking text params).withLines rest⟩
        ∧ Reads s.nextId (s.asking text params).unread result events rest := by
  obtain ⟨result, events, rest, hawait, hreads⟩ :=
    await_reads hleaves htext s.nextId
  exact ⟨result, events, rest,
    restore_of_call ((call_eq_await halive text params).trans hawait) rfl,
    hreads⟩

/-- A worker that reads one request, says some lines and leaves. -/
def parting (lines : List Bytes) : Peer where
  greeting := ⟨[], false⟩
  react := fun _ => ⟨lines.flatMap (· ++ [10]), true⟩

/-- Noise, an object that is no reply, a reply without an id, one to
another call, a complaint, and the reply to the call after this one. -/
def partingLines : List Bytes :=
  [Utf8.encode "50%", Utf8.encode "\x7b\"id\":true,\"result\":\"x\"\x7d",
    Utf8.encode "\x7b\"result\":\"x\"\x7d",
    Utf8.encode "\x7b\"id\":\"b\",\"result\":\"x\"\x7d",
    Utf8.encode "\x7b\"error\":\"failed\",\"result\":\"x\"\x7d",
    Utf8.encode "\x7b\"id\":\"a\",\"result\":\"late\"\x7d"]

/-- A session with a worker that says these lines and leaves. -/
def partingSession : Session :=
  ⟨parting partingLines, [], [], .none, false, unaryIds, 0⟩

theorem partingSession_unread (text : String) (params : Params) :
    (partingSession.asking text params).unread = partingLines := by
  with_unfolding_all rfl

theorem partingLines_text : ∀ l ∈ partingLines, ∃ t, Utf8.decode l = .ok t := by
  intro l hl
  simp only [partingLines, List.mem_cons, List.not_mem_nil, or_false] at hl
  rcases hl with rfl | rfl | rfl | rfl | rfl | rfl <;>
    exact ⟨_, Utf8.decode_encode _⟩

/-- Whoever waits while these lines are unread finds the complaint, and what
follows it stays unread. -/
theorem await_partingLines {t : Session} (h : t.unread = partingLines) :
    t.await partingSession.nextId
      = some ⟨some (.error (.worker (.stated "failed"))),
        [.malformedReply (.wrongType (.bool true) "a string"), .replyWithoutId],
        t.withLines (partingLines.drop 5)⟩ := by
  have htake : take partingSession.nextId partingLines
      = ⟨some (.error (.worker (.stated "failed"))),
        [.malformedReply (.wrongType (.bool true) "a string"), .replyWithoutId],
        partingLines.drop 5⟩ := by
    with_unfolding_all rfl
  unfold await
  dsimp only
  rw [show t.output.lines = partingLines from h, htake]

/-- The complaint ends the call. -/
theorem partingSession_call : partingSession.call "x" .default .awaited
    = some ⟨some (.error (.worker (.stated "failed"))),
      [.malformedReply (.wrongType (.bool true) "a string"), .replyWithoutId],
      (partingSession.asking "x" .default).withLines
        (partingLines.drop 5)⟩ := by
  rw [call_eq_await rfl]
  exact await_partingLines (partingSession_unread "x" .default)

/-- The text gets the complaint, and two lines before it are told. -/
theorem restore_reads_parting :
    Reads "" partingLines (.error (.worker (.stated "failed")))
        [.malformedReply (.wrongType (.bool true) "a string"), .replyWithoutId]
        (partingLines.drop 5)
      ∧ ∃ r, restore partingSession "x" .default = some r
        ∧ r.result = .error (.worker (.stated "failed"))
        ∧ r.state.unread = partingLines.drop 5 := by
  obtain ⟨result, events, rest, hrestore, hreads⟩ :=
    restore_reads (s := partingSession) rfl
    "x" .default rfl
    ((partingSession_unread "x" .default).symm ▸ partingLines_text)
  rw [partingSession_unread] at hreads
  have hcall := restore_of_call partingSession_call rfl
  rw [hcall] at hrestore
  injection hrestore with hrestore
  injection hrestore with hresult hevents hsession
  subst hresult hevents
  have hrest : partingLines.drop 5 = rest := congrArg unread hsession
  rw [← hrest] at hreads
  exact ⟨hreads, _, hcall, rfl, rfl⟩

end Session

end Restoration.Worker
