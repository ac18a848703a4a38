/-
What one call can do, and what a run of calls can do.

A call writes at most its request, and takes lines off the front of the
unread output: lines that it passes over, and at most one more, which ends
it (`call_goes`). That is all that sessions have in common, whatever the
worker says and whenever calls are given up. Of all that has been said,
the calls of a run thus read one piece after the other (`callAll_hasRead`).
-/
import Restoration.Proofs.Worker.Reply
import Restoration.Proofs.Worker.Transcript

namespace Restoration.Worker.Session

open Json (Value)

variable {s : Session} {read : List Bytes} {id text : String} {params : Params}

-- ================================================================ taking

/-- What is told while lines are passed over. -/
def remarks (id : String) (lines : List Bytes) : List Event :=
  lines.flatMap fun line =>
    match judge id line with
    | .skip events => events
    | .decide _ => []

/-- Lines that are passed over leave their remarks and nothing else. -/
theorem take_skipped {skipped : List Bytes}
    (h : ∀ l ∈ skipped, PassedOver id l) (lines : List Bytes) :
    take id (skipped ++ lines) = ⟨(take id lines).result,
      remarks id skipped ++ (take id lines).events, (take id lines).rest⟩ := by
  induction skipped with
  | nil => rfl
  | cons line skipped ih =>
      obtain ⟨⟨events, hline⟩, hskipped⟩ := List.forall_mem_cons.mp h
      unfold remarks at ih ⊢
      rw [List.cons_append, take, hline, List.flatMap_cons, hline]
      dsimp only
      rw [ih hskipped, List.append_assoc]

/-- A line that ends the call is the last that is taken. -/
theorem take_decided {line : Bytes} {result : Except Failure Value}
    (h : judge id line = .decide result) (rest : List Bytes) :
    take id (line :: rest) = ⟨some result, [], rest⟩ := by
  rw [take, h]

/-- Lines are taken off the front. -/
theorem take_suffix (id : String) (lines : List Bytes) :
    ∃ taken, lines = taken ++ (take id lines).rest := by
  induction lines with
  | nil => exact ⟨[], rfl⟩
  | cons line lines ih =>
      rw [take]
      cases judge id line with
      | decide result => exact ⟨[line], rfl⟩
      | skip events =>
          obtain ⟨taken, htaken⟩ := ih
          exact ⟨line :: taken, congrArg (line :: ·) htaken⟩

/-- Either every line is passed over, or the first that is not ends the
call. -/
theorem passed_or_decided (id : String) (lines : List Bytes) :
    (∀ l ∈ lines, PassedOver id l)
      ∨ ∃ skipped line rest result, lines = skipped ++ line :: rest
        ∧ (∀ l ∈ skipped, PassedOver id l) ∧
        judge id line = .decide result := by
  induction lines with
  | nil => exact Or.inl (fun _ h => absurd h List.not_mem_nil)
  | cons line lines ih =>
      cases hjudge : judge id line with
      | decide result =>
          exact Or.inr ⟨[], line, lines, result, rfl,
            fun _ h => absurd h List.not_mem_nil, hjudge⟩
      | skip events =>
          have hline : PassedOver id line := ⟨events, hjudge⟩
          rcases ih with hall | ⟨skipped, l, rest, result, hlines, hskipped, hl⟩
          · exact Or.inl (List.forall_mem_cons.mpr ⟨hline, hall⟩)
          · exact Or.inr ⟨line :: skipped, l, rest, result, by rw [hlines]; rfl,
              List.forall_mem_cons.mpr ⟨hline, hskipped⟩, hl⟩

/-- What is taken of lines: all of them, or those up to the first that is
not passed over. -/
theorem take_cases (id : String) (lines : List Bytes) :
    ((∀ l ∈ lines, PassedOver id l) ∧
      take id lines = ⟨none, remarks id lines, []⟩)
      ∨ ∃ skipped line rest result, lines = skipped ++ line :: rest
        ∧ (∀ l ∈ skipped, PassedOver id l) ∧ judge id line = .decide result
        ∧ take id lines = ⟨some result, remarks id skipped, rest⟩ := by
  rcases passed_or_decided id lines with
    hall | ⟨skipped, line, rest, result, hlines, hskipped, hline⟩
  · have htake := take_skipped hall []
    rw [List.append_nil] at htake
    exact Or.inl ⟨hall, htake.trans (by simp [take])⟩
  · have htake := take_skipped hskipped (line :: rest)
    rw [take_decided hline, List.append_nil, ← hlines] at htake
    exact Or.inr ⟨skipped, line, rest, result, hlines, hskipped, hline, htake⟩

/-- A call that is given up while it reads has passed over some lines. -/
theorem takeSome_skipped (id : String) (n : Nat) (lines : List Bytes) :
    ∃ skipped, lines = skipped ++ (takeSome id n lines).rest
      ∧ ∀ l ∈ skipped, PassedOver id l := by
  fun_induction takeSome id n lines with
  | case1 lines => exact ⟨[], rfl, fun _ h => absurd h List.not_mem_nil⟩
  | case2 => exact ⟨[], rfl, fun _ h => absurd h List.not_mem_nil⟩
  | case3 n line rest result hline =>
      exact ⟨[], rfl, fun _ h => absurd h List.not_mem_nil⟩
  | case4 n line rest events hline later ih =>
      obtain ⟨skipped, hrest, hskipped⟩ := ih
      exact ⟨line :: skipped, by rw [List.cons_append, ← hrest],
        List.forall_mem_cons.mpr ⟨⟨events, hline⟩, hskipped⟩⟩

-- =============================================================== writing

/-- What writing can do to a session. -/
inductive Wrote (s : Session) : Session → Prop
  | nothing : Wrote s s
  | part (hleft : s.left = false) (bytes : Bytes) : Wrote s (s.beginning bytes)
  | line (hleft : s.left = false) (bytes : Bytes) : Wrote s (s.hearing bytes)
  /-- The worker leaves when it has read a part. -/
  | midway (hleft : s.left = false) (bytes : Bytes) :
      Wrote s (s.beginning bytes).hangUp

/-- Writing a request, or its first bytes, begins a line or brings one to
its end. -/
theorem write_take_wrote (hleft : s.left = false) (id text : String)
    (params : Params) (n : Nat) :
    ∃ s', s.write ((requestLine id text params).take n) = .ok s'
      ∧ s.Wrote s' := by
  by_cases hn : n ≤ (request id text params).length
  · exact ⟨_, write_take_requestLine hleft id text params hn, .part hleft _⟩
  · have hlen : (requestLine id text params).length ≤ n := by
      rw [requestLine_eq, List.length_append, List.length_singleton]
      omega
    rw [List.take_of_length_le hlen]
    exact ⟨_, write_requestLine hleft id text params, .line hleft _⟩

/-- Writing reads nothing. -/
theorem HasRead.wrote {s' : Session} (h : s.HasRead read)
    (hwrote : s.Wrote s') :
    s'.HasRead read := by
  cases hwrote with
  | nothing => exact h
  | part hleft bytes => exact h.beginning hleft bytes
  | line hleft bytes => exact h.hearing hleft bytes
  | midway hleft bytes =>
      exact (h.beginning hleft bytes).hangUp hleft

/-- Writing goes on with the same worker, the same ids and the same
count of calls, and adds to what the worker has read. -/
theorem Wrote.frame {s' : Session} (h : s.Wrote s') :
    s'.peer = s.peer ∧ s'.ids = s.ids ∧ s'.calls = s.calls
      ∧ s.heard <+: s'.heard := by
  cases h with
  | nothing => exact ⟨rfl, rfl, rfl, List.prefix_refl _⟩
  | part _ bytes => exact ⟨rfl, rfl, rfl, List.prefix_refl _⟩
  | line _ bytes => exact ⟨rfl, rfl, rfl, List.prefix_append _ _⟩
  | midway _ bytes => exact ⟨rfl, rfl, rfl, List.prefix_refl _⟩

/-- Writing leaves what is unread in front of what it brings. -/
theorem Wrote.unread {s' : Session} (h : s.Wrote s') :
    s.unread <+: s'.unread := by
  cases h with
  | nothing => exact List.prefix_refl _
  | part _ bytes => exact List.prefix_refl _
  | line _ bytes => exact Output.lines_prefix_react s.output _
  | midway _ bytes => exact Output.lines_prefix_react s.output _

-- ============================================================== one call

/-- What a call takes, and what it makes of it. -/
inductive Takes (id : String) :
    List Bytes → Option (Except Failure Value) → Prop
  /-- The worker has left, and the request is refused or cut off. -/
  | refused : Takes id [] (some (.error (.io .brokenPipe)))
  /-- The call is given up. -/
  | dropped {skipped : List Bytes} (h : ∀ l ∈ skipped, PassedOver id l) :
      Takes id skipped none
  /-- The last line that is taken ends the call. -/
  | decided {skipped : List Bytes} {line : Bytes}
      {result : Except Failure Value}
      (h : ∀ l ∈ skipped, PassedOver id l)
      (hline : judge id line = .decide result) :
      Takes id (skipped ++ [line]) (some result)
  /-- The output ends before the call does. -/
  | exited {skipped : List Bytes} (h : ∀ l ∈ skipped, PassedOver id l) :
      Takes id skipped (some (.error .workerExited))

/-- A call goes from one session to the next: first it writes, and then it
takes lines off the front of what is unread. -/
structure Goes (s written : Session) (taken : List Bytes)
    (c : Called) : Prop where
  wrote : s.drawn.Wrote written
  unread : written.unread = taken ++ c.session.unread
  session : c.session = written.withLines c.session.unread
  takes : Takes s.nextId taken c.result

/-- The reading half of an awaited call. -/
theorem await_takes {c : Called} (h : s.await id = some c) :
    ∃ taken, s.unread = taken ++ c.session.unread
      ∧ c.session = s.withLines c.session.unread ∧ Takes id taken c.result := by
  unfold await at h
  rcases take_cases id s.output.lines with
    ⟨hall, htake⟩ |
      ⟨skipped, line, rest, result, hlines, hskipped, hline, htake⟩
  · rw [htake] at h
    dsimp only at h
    split at h
    · injection h with h
      subst h
      exact ⟨s.unread, (List.append_nil _).symm, rfl, .exited hall⟩
    · cases h
  · rw [htake] at h
    dsimp only at h
    injection h with h
    subst h
    refine ⟨skipped ++ [line], ?_, rfl, .decided hskipped hline⟩
    show s.output.lines = _
    rw [hlines, List.append_assoc]
    rfl

/-- A call that is given up before it has taken a line. -/
theorem takes_none (id : String) : Takes id [] none :=
  .dropped fun _ h => absurd h List.not_mem_nil

/-- Whatever becomes of a call, it goes like this. -/
theorem call_goes {fate : Fate} {c : Called}
    (h : s.call text params fate = some c) :
    ∃ written taken, s.Goes written taken c := by
  cases hleft : s.left with
  | true =>
      rw [call_of_left hleft] at h
      injection h with h
      subst h
      refine ⟨_, [], .nothing, rfl, rfl, ?_⟩
      dsimp only
      split
      · exact takes_none _
      · exact .refused
  | false =>
      obtain ⟨s', hwrite, hwrote⟩ := write_take_wrote (s := s.drawn) hleft
        s.nextId text params (requestLine s.nextId text params).length
      rw [List.take_length] at hwrite
      cases fate with
      | droppedWaiting =>
          injection h with h
          subst h
          exact ⟨_, [], .nothing, rfl, rfl, takes_none _⟩
      | droppedWriting n =>
          obtain ⟨s', hwrite, hwrote⟩ :=
            write_take_wrote (s := s.drawn) hleft s.nextId text params n
          unfold call at h
          dsimp only at h
          rw [hwrite] at h
          injection h with h
          subst h
          exact ⟨_, [], hwrote, rfl, rfl, takes_none _⟩
      | droppedReading n =>
          unfold call at h
          dsimp only at h
          rw [hwrite] at h
          injection h with h
          subst h
          obtain ⟨skipped, hlines, hskipped⟩ :=
            takeSome_skipped s.nextId n s'.output.lines
          exact ⟨_, skipped, hwrote, hlines, rfl, .dropped hskipped⟩
      | awaited =>
          unfold call at h
          dsimp only at h
          rw [hwrite] at h
          obtain ⟨taken, hunread, hsession, htakes⟩ := await_takes h
          exact ⟨_, taken, hwrote, hunread, hsession, htakes⟩
      | leftMidway n room =>
          rw [call_leftMidway hleft] at h
          have hwrote : s.drawn.Wrote (s.leavingMidway text params n) :=
            .midway (s := s.drawn) hleft _
          split at h
          · obtain ⟨taken, hunread, hsession, htakes⟩ := await_takes h
            exact ⟨_, taken, hwrote, hunread, hsession, htakes⟩
          · injection h with h
            subst h
            exact ⟨_, [], hwrote, rfl, rfl, .refused⟩

variable {written : Session} {taken : List Bytes} {c : Called}

/-- A call reads the lines that it takes. -/
theorem Goes.hasRead (h : s.Goes written taken c) (hread : s.HasRead read) :
    c.session.HasRead (read ++ taken) := by
  have hdrawn : s.drawn.HasRead read := ⟨hread.said, hread.left⟩
  rw [h.session]
  exact (hdrawn.wrote h.wrote).withLines h.unread

/-- A call leaves all that the worker has said, and what it brings comes
behind that. -/
theorem Goes.spoken (h : s.Goes written taken c) (hread : s.HasRead read) :
    s.spoken <+: c.session.spoken := by
  rw [hread.spoken_eq, (h.hasRead hread).spoken_eq, List.append_assoc,
    ← h.unread]
  exact (List.prefix_append_right_inj _).mpr h.wrote.unread

/-- A call keeps worker and ids, counts one more call, and the worker has
read what it had read and maybe more. -/
theorem Goes.frame (h : s.Goes written taken c) :
    c.session.peer = s.peer ∧ c.session.ids = s.ids
      ∧ c.session.calls = s.calls + 1 ∧ s.heard <+: c.session.heard := by
  rw [h.session]
  exact h.wrote.frame

-- ============================================================ many calls

/-- The session when the calls with the given ends have been made. -/
def afterAll (s : Session) (ends : List Called) : Session :=
  (ends.getLast?.map (·.session)).getD s

theorem afterAll_cons (c : Called) (ends : List Called) :
    s.afterAll (c :: ends) = c.session.afterAll ends := by
  unfold afterAll
  cases ends with
  | nil => rfl
  | cons d ends => rfl

/-- The calls after one of them go on from the session that it leaves. -/
theorem afterAll_get {c : Called} {ends : List Called} {i : Nat}
    (h : ends[i]? = some c) :
    s.afterAll ends = c.session.afterAll (ends.drop (i + 1)) := by
  obtain ⟨hlt, rfl⟩ := List.getElem?_eq_some_iff.mp h
  rw [← afterAll_cons, ← List.drop_eq_getElem_cons hlt]
  unfold afterAll
  rw [List.getLast?_drop, if_neg (Nat.not_le.mpr hlt),
    List.getLast?_eq_getElem?,
    List.getElem?_eq_getElem (Nat.sub_lt (Nat.zero_lt_of_lt hlt) Nat.one_pos)]

/-- Calls that are made one by one. -/
theorem callAll_cons {call : Call} {calls : List Call} {ends : List Called} :
    s.callAll (call :: calls) = some ends ↔ ∃ first others,
      s.call call.text call.params call.fate = some first
        ∧ first.session.callAll calls = some others ∧
        ends = first :: others := by
  rw [callAll]
  simp only [Option.bind_eq_bind, Option.bind_eq_some_iff, Option.some.injEq]
  constructor
  · rintro ⟨first, hfirst, others, hothers, rfl⟩
    exact ⟨first, others, hfirst, hothers, rfl⟩
  · rintro ⟨first, others, hfirst, hothers, rfl⟩
    exact ⟨first, hfirst, others, hothers, rfl⟩

/-- A run keeps worker and ids, counts its calls, and the worker has read
what it had read and maybe more. -/
theorem callAll_frame {calls : List Call} {ends : List Called}
    (h : s.callAll calls = some ends) :
    (s.afterAll ends).peer = s.peer ∧ (s.afterAll ends).ids = s.ids
      ∧ (s.afterAll ends).calls = s.calls + calls.length
      ∧ s.heard <+: (s.afterAll ends).heard := by
  induction calls generalizing s ends with
  | nil =>
      injection h with h
      subst h
      exact ⟨rfl, rfl, rfl, List.prefix_refl _⟩
  | cons call calls ih =>
      obtain ⟨first, others, hfirst, hothers, rfl⟩ := callAll_cons.mp h
      obtain ⟨_, _, hgoes⟩ := call_goes hfirst
      obtain ⟨hpeer, hids, hcalls, hheard⟩ := hgoes.frame
      obtain ⟨hpeer', hids', hcalls', hheard'⟩ := ih hothers
      rw [afterAll_cons]
      refine ⟨hpeer'.trans hpeer, hids'.trans hids, ?_, hheard.trans hheard'⟩
      rw [hcalls', hcalls, List.length_cons]
      omega

/-- The ids go to the calls in order. -/
theorem nextId_afterAll {calls : List Call} {ends : List Called}
    (h : s.callAll calls = some ends) :
    (s.afterAll ends).nextId = s.ids (s.calls + calls.length) := by
  obtain ⟨-, hids, hcalls, -⟩ := callAll_frame h
  unfold nextId
  rw [hids, hcalls]

/-- A run reads lines in order. -/
theorem callAll_hasRead {calls : List Call} {ends : List Called}
    (h : s.callAll calls = some ends) (hread : s.HasRead read) :
    ∃ more, (s.afterAll ends).HasRead (read ++ more) := by
  induction calls generalizing s ends read with
  | nil =>
      injection h with h
      subst h
      exact ⟨[], by rw [List.append_nil]; exact hread⟩
  | cons call calls ih =>
      obtain ⟨first, others, hfirst, hothers, rfl⟩ := callAll_cons.mp h
      obtain ⟨_, taken, hgoes⟩ := call_goes hfirst
      obtain ⟨more, hmore⟩ := ih hothers (hgoes.hasRead hread)
      rw [afterAll_cons]
      exact ⟨taken ++ more, by rw [← List.append_assoc]; exact hmore⟩

/-- The worker never unsays anything in a run. -/
theorem callAll_spoken {calls : List Call} {ends : List Called}
    (h : s.callAll calls = some ends) (hread : s.HasRead read) :
    s.spoken <+: (s.afterAll ends).spoken := by
  induction calls generalizing s ends read with
  | nil =>
      injection h with h
      subst h
      exact List.prefix_refl _
  | cons call calls ih =>
      obtain ⟨first, others, hfirst, hothers, rfl⟩ := callAll_cons.mp h
      obtain ⟨_, _, hgoes⟩ := call_goes hfirst
      rw [afterAll_cons]
      exact (hgoes.spoken hread).trans (ih hothers (hgoes.hasRead hread))

/-- Calls that are made in two parts. -/
theorem callAll_append {before after : List Call} {ends : List Called} :
    s.callAll (before ++ after) = some ends ↔ ∃ ends₁ ends₂,
      s.callAll before = some ends₁ ∧
      (s.afterAll ends₁).callAll after = some ends₂
        ∧ ends = ends₁ ++ ends₂ := by
  induction before generalizing s ends with
  | nil =>
      constructor
      · exact fun h => ⟨[], ends, rfl, h, rfl⟩
      · rintro ⟨ends₁, ends₂, hbefore, hafter, rfl⟩
        injection hbefore with hbefore
        subst hbefore
        exact hafter
  | cons call before ih =>
      rw [List.cons_append]
      constructor
      · intro h
        obtain ⟨first, others, hfirst, hothers, rfl⟩ := callAll_cons.mp h
        obtain ⟨ends₁, ends₂, hbefore, hafter, rfl⟩ := ih.mp hothers
        refine ⟨first :: ends₁, ends₂, callAll_cons.mpr
          ⟨first, ends₁, hfirst, hbefore, rfl⟩, ?_, rfl⟩
        rw [afterAll_cons]
        exact hafter
      · rintro ⟨ends₁, ends₂, hbefore, hafter, rfl⟩
        obtain ⟨first, others, hfirst, hothers, rfl⟩ := callAll_cons.mp hbefore
        rw [afterAll_cons] at hafter
        exact callAll_cons.mpr ⟨first, others ++ ends₂, hfirst,
          ih.mpr ⟨others, ends₂, hothers, hafter, rfl⟩, rfl⟩

/-- As many calls end as are made. -/
theorem callAll_length {calls : List Call} {ends : List Called}
    (h : s.callAll calls = some ends) : ends.length = calls.length := by
  induction calls generalizing s ends with
  | nil =>
      injection h with h
      subst h
      rfl
  | cons call calls ih =>
      obtain ⟨first, others, hfirst, hothers, rfl⟩ := callAll_cons.mp h
      rw [List.length_cons, ih hothers, List.length_cons]

/-- Each call of a run is made in the session that the calls before it
have left, and those after it are made in the session that it leaves. -/
theorem callAll_get {calls : List Call} {ends : List Called}
    (h : s.callAll calls = some ends) {i : Nat} {call : Call}
    (hi : calls[i]? = some call) :
    ∃ c, ends[i]? = some c ∧ s.callAll (calls.take i) = some (ends.take i)
      ∧ (s.afterAll (ends.take i)).call call.text call.params call.fate = some c
      ∧ c.session.callAll (calls.drop (i + 1)) = some (ends.drop (i + 1)) := by
  obtain ⟨hlt, rfl⟩ := List.getElem?_eq_some_iff.mp hi
  rw [← List.take_append_drop i calls, List.drop_eq_getElem_cons hlt] at h
  obtain ⟨ends₁, ends₂, hbefore, hafter, rfl⟩ := callAll_append.mp h
  obtain ⟨c, others, hcall, hothers, rfl⟩ := callAll_cons.mp hafter
  have hlength := callAll_length hbefore
  rw [List.length_take, Nat.min_eq_left (Nat.le_of_lt hlt)] at hlength
  subst hlength
  have hdrop : (ends₁ ++ c :: others).drop (ends₁.length + 1) = others := by
    rw [← List.drop_drop, List.drop_left]
    rfl
  rw [List.take_left, List.getElem?_append_right (Nat.le_refl _), Nat.sub_self,
    hdrop]
  exact ⟨c, rfl, hbefore, hcall, hothers⟩

-- ============================================================= handshake

/-- The first message is taken off the front, with what is before it. -/
theorem firstMessage_suffix {lines rest : List Bytes}
    {m : Except Utf8.Fault Json.Members}
    (h : firstMessage lines = some (m, rest)) :
    ∃ taken, lines = taken ++ rest := by
  fun_induction firstMessage lines with
  | case1 => cases h
  | case2 line lines hread ih =>
      obtain ⟨taken, rfl⟩ := ih h
      exact ⟨line :: taken, rfl⟩
  | case3 line lines f hread =>
      injection h with h
      injection h with _ hrest
      exact ⟨[line], by rw [hrest]; rfl⟩
  | case4 line lines members hread =>
      injection h with h
      injection h with _ hrest
      exact ⟨[line], by rw [hrest]; rfl⟩

/-- The handshake takes lines off the front and changes nothing else. -/
theorem handshake_takes {path : Path} {checkpoint : Checkpoint} {s' : Session}
    (h : s.handshake path = some (.ok (checkpoint, s'))) :
    ∃ taken, s.unread = taken ++ s'.unread ∧ s' = s.withLines s'.unread := by
  unfold handshake at h
  split at h
  case h_1 => split at h <;> cases h
  case h_2 => cases h
  case h_3 members rest hfirst =>
      split at h
      case h_1 => cases h
      case h_2 =>
          split at h
          case h_1 => cases h
          case h_2 =>
              injection h with h
              injection h with h
              injection h with _ h
              subst h
              obtain ⟨taken, htaken⟩ := firstMessage_suffix hfirst
              exact ⟨taken, htaken, rfl⟩

/-- After the handshake its lines have been read. -/
theorem hasRead_handshake {peer : Peer} {ids : Nat → String} {path : Path}
    {checkpoint : Checkpoint}
    (h : (start peer ids).handshake path = some (.ok (checkpoint, s))) :
    ∃ read, s.HasRead read := by
  obtain ⟨taken, hunread, hs⟩ := handshake_takes h
  rw [hs]
  exact ⟨[] ++ taken, (hasRead_start peer ids).withLines hunread⟩

end Restoration.Worker.Session
