/-
Two sessions whose workers say the same but for noise.

They are `Alike` as long as they have been asked the same and have read
the same lines that are heeded; what is unread then is the same but for
noise, whichever of the two has more of it. Every step keeps them so, and
brings the same result. A call that is given up while it reads is given up
at a line, and the other session comes to that line after more or less
noise (`Fate.Alike`); all other calls correspond to themselves.

Noise is text. A line that is no text is not passed over but ends the
handshake or the call that meets it (`handshake_notText`,
`await_notText`).
-/
import Restoration.Proofs.Worker.Noise
import Restoration.Worker.Start

namespace Restoration.Worker

open Json (Value)

variable {line : Bytes} {id : String}

-- =============================================================== sessions

namespace Session

variable {s t : Session}

/-- Two sessions are at the same point with workers that say the same but
for noise. -/
structure Alike (s t : Session) : Prop where
  peer : s.peer.Alike t.peer
  heard : s.heard = t.heard
  begun : s.begun = t.begun
  ids : s.ids = t.ids
  calls : s.calls = t.calls
  left : s.left = t.left
  read : ∃ a b, s.HasRead a ∧ t.HasRead b ∧ heeded a = heeded b

theorem Alike.symm (h : s.Alike t) : t.Alike s := by
  obtain ⟨a, b, ha, hb, hab⟩ := h.read
  exact ⟨h.peer.symm, h.heard.symm, h.begun.symm, h.ids.symm, h.calls.symm,
    h.left.symm, b, a, hb, ha, hab.symm⟩

/-- Both workers have said the same but for noise. -/
theorem Alike.said (h : s.Alike t) : s.said.Alike t.said := by
  unfold Session.said
  rw [h.left, h.heard, h.begun, h.peer.gone]
  split
  · exact h.peer.said _
  · exact (h.peer.said _).close

/-- What is still to be read is the same but for noise. -/
theorem Alike.unread (h : s.Alike t) : heeded s.unread = heeded t.unread := by
  obtain ⟨a, b, ha, hb, hab⟩ := h.read
  have hsaid := h.said.lines
  rw [ha.said, hb.said] at hsaid
  unfold Output.behind at hsaid
  dsimp only at hsaid
  rw [heeded_append, heeded_append, hab] at hsaid
  exact List.append_cancel_left hsaid

theorem Alike.nextId (h : s.Alike t) : s.nextId = t.nextId := by
  unfold Session.nextId
  rw [h.ids, h.calls]

theorem Alike.drawn (h : s.Alike t) : s.drawn.Alike t.drawn := by
  obtain ⟨a, b, ha, hb, hab⟩ := h.read
  exact ⟨h.peer, h.heard, h.begun, h.ids, congrArg (· + 1) h.calls, h.left,
    a, b, ⟨ha.said, ha.left⟩, ⟨hb.said, hb.left⟩, hab⟩

/-- A line brings both workers to the same point again. -/
theorem Alike.hearing (h : s.Alike t) (hleft : s.left = false) (line : Bytes) :
    (s.hearing line).Alike (t.hearing line) := by
  obtain ⟨a, b, ha, hb, hab⟩ := h.read
  have hleaves : (s.hearing line).left = (t.hearing line).left := by
    show (s.peer.react (s.heard ++ [line])).leaves
      = (t.peer.react (t.heard ++ [line])).leaves
    rw [← Peer.gone_concat, ← Peer.gone_concat, h.heard, h.peer.gone]
  exact ⟨h.peer, congrArg (· ++ [line]) h.heard, rfl, h.ids, h.calls, hleaves,
    a, b, ha.hearing hleft line, hb.hearing (h.left ▸ hleft) line, hab⟩

/-- So does a part of a line, -/
theorem Alike.beginning (h : s.Alike t) (hleft : s.left = false)
    (bytes : Bytes) : (s.beginning bytes).Alike (t.beginning bytes) := by
  obtain ⟨a, b, ha, hb, hab⟩ := h.read
  exact ⟨h.peer, h.heard, congrArg (bytes.reverse ++ ·) h.begun, h.ids,
    h.calls, h.left, a, b, ha.beginning hleft bytes,
    hb.beginning (h.left ▸ hleft) bytes, hab⟩

/-- also if both leave at it. -/
theorem Alike.hangUp (h : s.Alike t) (hleft : s.left = false) :
    s.hangUp.Alike t.hangUp := by
  obtain ⟨a, b, ha, hb, hab⟩ := h.read
  exact ⟨h.peer, h.heard, h.begun, h.ids, h.calls, rfl, a, b,
    ha.hangUp hleft, hb.hangUp (h.left ▸ hleft), hab⟩

/-- Lines that are taken may differ in noise. -/
theorem Alike.withLines (h : s.Alike t) {taken taken' rest rest' : List Bytes}
    (hs : s.unread = taken ++ rest) (ht : t.unread = taken' ++ rest')
    (hrest : heeded rest = heeded rest') :
    (s.withLines rest).Alike (t.withLines rest') := by
  have htaken : heeded taken = heeded taken' := by
    have hunread := h.unread
    rw [hs, ht, heeded_append, heeded_append, hrest] at hunread
    exact List.append_cancel_right hunread
  obtain ⟨a, b, ha, hb, hab⟩ := h.read
  exact ⟨h.peer, h.heard, h.begun, h.ids, h.calls, h.left, a ++ taken,
    b ++ taken', ha.withLines hs, hb.withLines ht,
    by rw [heeded_append, heeded_append, hab, htaken]⟩

-- ================================================================= calls

/-- Two calls end alike. -/
structure Called.Alike (c d : Called) : Prop where
  result : c.result = d.result
  events : c.events = d.events
  session : c.session.Alike d.session

/-- A call that is given up while it reads may have read more noise. -/
inductive Fate.Alike : Fate → Fate → Prop
  | same (fate : Fate) : Alike fate fate
  | reading (m n : Nat) : Alike (.droppedReading m) (.droppedReading n)

/-- The same request, and alike in what becomes of it. -/
structure Call.Alike (c d : Call) : Prop where
  text : c.text = d.text
  params : c.params = d.params
  fate : c.fate.Alike d.fate

theorem Alike.push (h : s.Alike t) (b : UInt8) :
    (s.push b).Alike (t.push b) := by
  cases hleft : s.left with
  | true =>
      unfold Session.push
      rw [if_pos hleft, if_pos (h.left ▸ hleft)]
      exact h
  | false =>
      have hleft' : t.left = false := h.left ▸ hleft
      by_cases hb : b = 10
      · subst hb
        rw [push_newline hleft, push_newline hleft', h.begun]
        exact h.hearing hleft _
      · rw [push_other hleft hb, push_other hleft' hb]
        exact h.beginning hleft [b]

/-- What is written meets both workers alike. -/
theorem Alike.write (h : s.Alike t) (bytes : Bytes) :
    (s.write bytes = .error .brokenPipe ∧ t.write bytes = .error .brokenPipe)
      ∨ ∃ s' t', s.write bytes = .ok s' ∧ t.write bytes = .ok t' ∧
        s'.Alike t' := by
  have hfoldl : ∀ (bytes : Bytes) {s t : Session}, s.Alike t →
      (bytes.foldl Session.push s).Alike (bytes.foldl Session.push t) := by
    intro bytes
    induction bytes with
    | nil => exact fun h => h
    | cons b bytes ih => exact fun h => ih (h.push b)
  unfold Session.write
  rw [← h.left]
  split
  · exact Or.inl ⟨rfl, rfl⟩
  · exact Or.inr ⟨_, _, rfl, rfl, hfoldl bytes h⟩

/-- Who waits for a reply waits alike. -/
theorem Alike.await (h : s.Alike t) (id : String) :
    Option.Rel Called.Alike (s.await id) (t.await id) := by
  have htake := take_heeded id s.output.lines
  rw [show heeded s.output.lines = heeded t.output.lines from h.unread,
    take_heeded] at htake
  injection htake with hresult hevents hrest
  obtain ⟨taken, htaken⟩ := take_suffix id s.output.lines
  obtain ⟨taken', htaken'⟩ := take_suffix id t.output.lines
  have hsession := h.withLines htaken htaken' hrest.symm
  unfold Session.await
  dsimp only
  rw [← hresult, ← hevents]
  cases (take id t.output.lines).result with
  | some result => exact .some ⟨rfl, rfl, hsession⟩
  | none =>
      dsimp only
      rw [hsession.left]
      split
      · exact .some ⟨rfl, rfl, hsession⟩
      · exact .none

/-- A call goes alike in two sessions that are alike, if it is given up
alike. -/
theorem Alike.call (h : s.Alike t) (text : String) (params : Params)
    (fate : Fate) :
    ∃ fate', fate.Alike fate'
      ∧ Option.Rel Called.Alike (s.call text params fate)
        (t.call text params fate') := by
  have hwhole := h.drawn.write (requestLine s.nextId text params)
  cases fate with
  | droppedWaiting => exact ⟨_, .same _, .some ⟨rfl, rfl, h.drawn⟩⟩
  | droppedWriting n =>
      refine ⟨_, .same _, ?_⟩
      unfold Session.call
      dsimp only
      rw [← h.nextId]
      rcases h.drawn.write ((requestLine s.nextId text params).take n) with
        ⟨hs, ht⟩ | ⟨s', t', hs, ht, hsession⟩
      · rw [hs, ht]
        exact .some ⟨rfl, rfl, h.drawn⟩
      · rw [hs, ht]
        exact .some ⟨rfl, rfl, hsession⟩
  | awaited =>
      refine ⟨_, .same _, ?_⟩
      unfold Session.call
      dsimp only
      rw [← h.nextId]
      rcases hwhole with ⟨hs, ht⟩ | ⟨s', t', hs, ht, hsession⟩
      · rw [hs, ht]
        exact .some ⟨rfl, rfl, h.drawn⟩
      · rw [hs, ht]
        exact hsession.await _
  | droppedReading n =>
      unfold Session.call
      dsimp only
      rw [← h.nextId]
      rcases hwhole with ⟨hs, ht⟩ | ⟨s', t', hs, ht, hsession⟩
      · refine ⟨_, .same _, ?_⟩
        dsimp only
        rw [hs, ht]
        exact .some ⟨rfl, rfl, h.drawn⟩
      · -- as many lines that are heeded are taken from the other output
        obtain ⟨m, hm⟩ := takeSome_heeded s.nextId n s'.output.lines
        rw [show heeded s'.output.lines = heeded t'.output.lines from
            hsession.unread] at hm
        obtain ⟨n', hevents, hrest⟩ :=
          takeSome_of_heeded s.nextId m t'.output.lines
        rw [hm] at hevents hrest
        obtain ⟨skipped, hskipped, -⟩ :=
          takeSome_skipped s.nextId n s'.output.lines
        obtain ⟨skipped', hskipped', -⟩ :=
          takeSome_skipped s.nextId n' t'.output.lines
        refine ⟨_, .reading n n', ?_⟩
        dsimp only
        rw [hs, ht]
        exact .some ⟨rfl, hevents.symm,
          hsession.withLines hskipped hskipped' hrest.symm⟩
  | leftMidway n room =>
      refine ⟨_, .same _, ?_⟩
      cases hleft : s.left with
      | true =>
          rw [call_of_left hleft, call_of_left (h.left ▸ hleft)]
          exact .some ⟨rfl, rfl, h.drawn⟩
      | false =>
          rw [call_leftMidway hleft, call_leftMidway (h.left ▸ hleft)]
          unfold leavingMidway
          rw [← h.nextId]
          have hgone := (h.drawn.beginning hleft
            ((request s.nextId text params).take n)).hangUp hleft
          split
          · exact hgone.await _
          · exact .some ⟨rfl, rfl, hgone⟩

/-- A run of calls goes alike in two sessions that are alike. -/
theorem Alike.callAll (h : s.Alike t) (calls : List Call) :
    ∃ calls', List.Forall₂ Call.Alike calls calls'
      ∧ Option.Rel (List.Forall₂ Called.Alike) (s.callAll calls)
        (t.callAll calls') := by
  induction calls generalizing s t with
  | nil => exact ⟨[], .nil, .some .nil⟩
  | cons c calls ih =>
      obtain ⟨fate, hfate, hfirst⟩ := h.call c.text c.params c.fate
      have hc : c.Alike ⟨c.text, c.params, fate⟩ := ⟨rfl, rfl, hfate⟩
      generalize hs : s.call c.text c.params c.fate = first at hfirst
      generalize ht : t.call c.text c.params fate = first' at hfirst
      cases hfirst with
      | none =>
          obtain ⟨calls', hcalls, -⟩ := ih h
          refine ⟨⟨c.text, c.params, fate⟩ :: calls', .cons hc hcalls, ?_⟩
          rw [Session.callAll, Session.callAll, hs, ht]
          exact .none
      | @some first first' halike =>
          obtain ⟨calls', hcalls, hothers⟩ := ih halike.session
          refine ⟨⟨c.text, c.params, fate⟩ :: calls', .cons hc hcalls, ?_⟩
          rw [Session.callAll, Session.callAll, hs, ht]
          simp only [Option.bind_eq_bind, Option.bind_some]
          generalize first.session.callAll calls = others at hothers ⊢
          generalize first'.session.callAll calls' = others' at hothers ⊢
          cases hothers with
          | none => exact .none
          | some hothers => exact .some (.cons halike hothers)

-- ============================================================= handshake

/-- Two workers have been started alike. -/
inductive Started : Except Failure (Checkpoint × Session) →
    Except Failure (Checkpoint × Session) → Prop
  | failed (f : Failure) : Started (.error f) (.error f)
  | ready (checkpoint : Checkpoint) {s t : Session} (h : s.Alike t) :
      Started (.ok (checkpoint, s)) (.ok (checkpoint, t))

/-- The handshake goes alike in two sessions that are alike. -/
theorem Alike.handshake (h : s.Alike t) (path : Path) :
    Option.Rel Started (s.handshake path) (t.handshake path) := by
  have hfirst := firstMessage_heeded s.output.lines
  rw [show heeded s.output.lines = heeded t.output.lines from h.unread,
    firstMessage_heeded] at hfirst
  unfold Session.handshake
  rw [h.left]
  cases hs : firstMessage s.output.lines with
  | none =>
      rw [hs] at hfirst
      rw [Option.map_eq_none_iff.mp hfirst]
      dsimp only
      split
      · exact .some (.failed _)
      · exact .none
  | some found =>
      obtain ⟨m, rest⟩ := found
      rw [hs] at hfirst
      obtain ⟨⟨m', rest'⟩, ht, hfound⟩ := Option.map_eq_some_iff.mp hfirst
      injection hfound with hm hrest
      dsimp only at hm hrest
      subst hm
      rw [ht]
      cases m' with
      | error f => exact .some (.failed _)
      | ok members =>
          dsimp only
          cases Handshake.ofMembers members with
          | error e => exact .some (.failed _)
          | ok hello =>
              dsimp only
              cases hello.checkpoint path with
              | error f => exact .some (.failed _)
              | ok checkpoint =>
                  obtain ⟨taken, htaken⟩ := firstMessage_suffix hs
                  obtain ⟨taken', htaken'⟩ := firstMessage_suffix ht
                  exact .some
                    (.ready checkpoint (h.withLines htaken htaken' hrest.symm))

/-- Two workers that say the same but for noise are at the same point when
they have been started. -/
theorem alike_start {p q : Peer} (h : p.Alike q) (ids : Nat → String) :
    (start p ids).Alike (start q ids) :=
  ⟨h, rfl, rfl, rfl, rfl, h.gone [], [], [], hasRead_start p ids,
    hasRead_start q ids, rfl⟩

-- ======================================================= lines of no text

/-- A line that is no text ends the handshake if it comes before any
message. -/
theorem handshake_notText {before rest : List Bytes} {f : Utf8.Fault}
    (hunread : s.unread = before ++ line :: rest)
    (hbefore : ∀ l ∈ before, IsNoise l) (hline : Utf8.decode line = .error f)
    (path : Path) :
    s.handshake path = some (.error (.io (.notText f))) := by
  have hfirst : firstMessage (before ++ line :: rest)
      = some (.error f, rest) := by
    clear hunread
    induction before with
    | nil => rw [List.nil_append, firstMessage, read_eq_fault_iff.mpr hline]
    | cons l before ih =>
        obtain ⟨hl, hbefore⟩ := List.forall_mem_cons.mp hbefore
        rw [List.cons_append, firstMessage, show read l = .noise from hl]
        exact ih hbefore
  unfold Session.handshake
  rw [show s.output.lines = _ from hunread, hfirst]

/-- It ends the call that meets it, and is gone. -/
theorem await_notText {before rest : List Bytes} {f : Utf8.Fault}
    (hunread : s.unread = before ++ line :: rest)
    (hbefore : ∀ l ∈ before, PassedOver id l)
    (hline : Utf8.decode line = .error f) :
    ∃ c, s.await id = some c ∧ c.result = some (.error (.io (.notText f)))
      ∧ c.session.unread = rest := by
  have htake := take_skipped hbefore (line :: rest)
  rw [take_decided (judge_of_fault hline id)] at htake
  unfold Session.await
  dsimp only
  rw [show s.output.lines = _ from hunread, htake]
  exact ⟨_, rfl, rfl, rfl⟩

-- ================================================================= runs

/-- What the calls of a run return and tell, if it comes to an end. -/
def outcomes (s : Session) (calls : List Call) :
    Option (List (Option (Except Failure Value) × List Event)) :=
  (s.callAll calls).map (·.map fun c => (c.result, c.events))

/-- Runs that go alike have the same outcomes. -/
theorem Alike.outcomes (h : s.Alike t) (calls : List Call) :
    ∃ calls', List.Forall₂ Call.Alike calls calls'
      ∧ t.outcomes calls' = s.outcomes calls := by
  obtain ⟨calls', hcalls, hends⟩ := h.callAll calls
  refine ⟨calls', hcalls, ?_⟩
  unfold Session.outcomes
  generalize s.callAll calls = ends at hends ⊢
  generalize t.callAll calls' = ends' at hends ⊢
  cases hends with
  | none => rfl
  | some hends =>
      refine congrArg some ?_
      dsimp only
      induction hends with
      | nil => rfl
      | cons hc _ ih =>
          rw [List.map_cons, List.map_cons, hc.result, hc.events, ih]

/-- Calls that are not given up while they read correspond to themselves. -/
theorem eq_of_forall₂ {calls calls' : List Call}
    (h : List.Forall₂ Call.Alike calls calls')
    (hfate : ∀ c ∈ calls, ∀ n, c.fate ≠ .droppedReading n) :
    calls' = calls := by
  induction h with
  | nil => rfl
  | @cons c d calls calls' hc _ ih =>
      obtain ⟨hnot, hcalls⟩ := List.forall_mem_cons.mp hfate
      obtain ⟨text, params, fate⟩ := c
      obtain ⟨text', params', fate'⟩ := d
      obtain ⟨rfl, rfl, halike⟩ := hc
      rw [ih hcalls]
      cases halike with
      | same fate => rfl
      | reading m n => exact absurd rfl (hnot m)

end Session

-- ================================================================= start

/-- Two workers have been started alike. -/
inductive Start.Alike : Start → Start → Prop
  | failed (attempt : Attempt) (f : Failure) :
      Alike ⟨attempt, .error f⟩ ⟨attempt, .error f⟩
  | ready (attempt : Attempt) (checkpoint : Checkpoint) {s t : Session}
      (h : s.Alike t) :
      Alike ⟨attempt, .ok ⟨checkpoint, s⟩⟩ ⟨attempt, .ok ⟨checkpoint, t⟩⟩

/-- Workers that say the same but for noise start alike. -/
theorem start_alike {w : World} {converse : Launch → Peer}
    (h : ∀ launch, (w.converse launch).Alike (converse launch)) (files : Files)
    (command : Command) (path : Path) :
    Option.Rel Start.Alike (start w files command path)
      (start { w with converse := converse } files command path) := by
  unfold start
  dsimp only
  rw [show World.attempt { w with converse := converse } = w.attempt from rfl,
    show World.launch { w with converse := converse } = w.launch from rfl]
  cases (w.attempt files (loading command path)).image with
  | error reason => exact .some (.failed _ _)
  | ok image =>
      dsimp only
      have hready := (Session.alike_start
        (h (w.launch (w.attempt files (loading command path)) image))
        w.names.calls).handshake path
      generalize (Session.start (w.converse _) w.names.calls).handshake path = x
        at hready ⊢
      generalize (Session.start (converse _) w.names.calls).handshake path = y
        at hready ⊢
      cases hready with
      | none => exact .none
      | some hready =>
          cases hready with
          | failed f => exact .some (.failed _ f)
          | ready checkpoint hsessions =>
              exact .some (.ready _ checkpoint hsessions)

/-- Noise that is put into what a worker says changes neither the result of
starting it nor what any call returns and tells. (A call that is given up
while it reads corresponds to one that is given up at the same point of the
other output.) But a line that is no text ends the handshake or the call
that comes upon it. -/
theorem start_noise (w : World) (converse : Launch → Peer)
    (h : ∀ launch, (w.converse launch).Inserted IsNoise (converse launch))
    (files : Files) (command : Command) (path : Path) :
    (start { w with converse := converse } files command path).map
        (fun st => (st.attempt, st.result.map Ready.checkpoint))
      = (start w files command path).map
        (fun st => (st.attempt, st.result.map Ready.checkpoint))
    ∧ (∀ attempt attempt' ready ready',
        start w files command path = some ⟨attempt, .ok ready⟩ →
        start { w with converse := converse } files command path
          = some ⟨attempt', .ok ready'⟩ →
        (∀ calls : List Session.Call,
          (∀ c ∈ calls, ∀ n, c.fate ≠ .droppedReading n) →
          ready'.session.outcomes calls = ready.session.outcomes calls)
        ∧ (∀ calls, ∃ calls', List.Forall₂ Session.Call.Alike calls calls'
          ∧ ready'.session.outcomes calls' = ready.session.outcomes calls)
        ∧ ∀ calls', ∃ calls, List.Forall₂ Session.Call.Alike calls' calls
          ∧ ready.session.outcomes calls = ready'.session.outcomes calls')
    ∧ (∀ (s : Session) before line rest f, s.unread = before ++ line :: rest →
        (∀ l ∈ before, IsNoise l) → Utf8.decode line = .error f →
        s.handshake path = some (.error (.io (.notText f))))
    ∧ ∀ (s : Session) id before line rest f, s.unread = before ++ line :: rest →
        (∀ l ∈ before, PassedOver id l) → Utf8.decode line = .error f →
        ∃ c, s.await id = some c ∧ c.result = some (.error (.io (.notText f)))
          ∧ c.session.unread = rest := by
  have hstart := start_alike (fun launch => (h launch).alike) files command path
  generalize start w files command path = x at hstart ⊢
  generalize start { w with converse := converse } files command path = y
    at hstart ⊢
  refine ⟨?_, ?_, fun s before line rest f hunread hbefore hline =>
    Session.handshake_notText hunread hbefore hline path,
    fun s id before line rest f => Session.await_notText⟩
  · cases hstart with
    | none => rfl
    | some hstart => cases hstart <;> rfl
  · rintro attempt attempt' ready ready' rfl rfl
    have halike : ready.session.Alike ready'.session := by
      cases hstart with
      | some hstart =>
          cases hstart with
          | ready _ checkpoint hsessions => exact hsessions
    refine ⟨fun calls hfate => ?_, halike.outcomes, halike.symm.outcomes⟩
    obtain ⟨calls', hcalls, houtcomes⟩ := halike.outcomes calls
    rw [Session.eq_of_forall₂ hcalls hfate] at houtcomes
    exact houtcomes

-- ============================================================ two workers

/-- The line of a worker that is ready. -/
def readyLine : Bytes :=
  Utf8.encode
    "\x7b\"ready\":true,\"model_config\":\x7b\"vocab_char_size\":34\x7d\x7d"

/-- A worker that says so, after other lines. -/
def readyAfter (before : List Bytes) : Peer :=
  .script (before ++ [readyLine]) []

/-- The lines before may be put in. -/
theorem readyAfter_inserted {P : Bytes → Prop} {before : List Bytes}
    (h : ∀ l ∈ before, (10 : UInt8) ∉ l ∧ P (Output.lineOf l.reverse)) :
    (readyAfter []).Inserted P (readyAfter before) := by
  refine ⟨⟨?_, rfl⟩, fun heard line => ⟨.refl P _ _, rfl⟩⟩
  show Inserted P [] ((([] : List Bytes) ++ [readyLine]).flatMap (· ++ [10]))
    ((before ++ [readyLine]).flatMap (· ++ [10]))
  induction before with
  | nil => exact .refl P _ _
  | cons l before ih =>
      obtain ⟨⟨hline, hl⟩, hbefore⟩ := List.forall_mem_cons.mp h
      rw [List.cons_append, List.flatMap_cons, List.append_assoc,
        List.singleton_append]
      exact .line l hline hl (ih hbefore)

/-- A world in which that worker is the program `/w`. -/
def readyWorld : World where
  environment := ⟨[], none⟩
  run launch := ⟨.code 0, [], launch.files⟩
  converse _ := readyAfter []
  tend _ := ⟨fun _ => .exited (.code 0), fun _ => .error .dropped⟩
  agentAddress := ""
  send _ _ := .error .dropped
  listen _ := .error .denied
  names := ⟨"", "", fun _ => "", fun _ => ""⟩

/-- Its files. -/
def readyFiles : Files :=
  ⟨.directory true [(Utf8.encode "w", .file [] true)], []⟩

/-- The checkpoint that it has loaded. -/
def readyCheckpoint : Checkpoint :=
  ⟨Path.ofString "m", [("vocab_char_size", .number (.integer 34 rfl))], 34⟩

theorem readyWorld_start :
    (start readyWorld readyFiles ⟨"/w", [], []⟩ (Path.ofString "m")).map
      (fun st => st.result.map Ready.checkpoint)
        = some (.ok readyCheckpoint) := by
  with_unfolding_all rfl

/-- A line of noise before the handshake changes nothing. -/
theorem start_noise_loading :
    (∀ launch, (readyWorld.converse launch).Inserted IsNoise
        (readyAfter [Utf8.encode "loading"]))
      ∧ (start
          { readyWorld with
            converse := fun _ => readyAfter [Utf8.encode "loading"] }
          readyFiles ⟨"/w", [], []⟩ (Path.ofString "m")).map
            (fun st => st.result.map Ready.checkpoint)
          = some (.ok readyCheckpoint) := by
  have hinserted : ∀ launch, (readyWorld.converse launch).Inserted IsNoise
      (readyAfter [Utf8.encode "loading"]) := fun launch =>
    readyAfter_inserted (List.forall_mem_singleton.mpr
      ⟨by decide +kernel, by with_unfolding_all rfl⟩)
  refine ⟨hinserted, ?_⟩
  have hsame := (start_noise readyWorld _ hinserted readyFiles ⟨"/w", [], []⟩
    (Path.ofString "m")).1
  have hresults := congrArg (Option.map Prod.snd) hsame
  rw [Option.map_map, Option.map_map] at hresults
  exact hresults.trans readyWorld_start

/-- Bytes that are no text are no object either, but they change the start. -/
theorem start_notText :
    ¬ ∀ (w : World) (converse : Launch → Peer),
      (∀ launch,
        (w.converse launch).Inserted (fun l => ∀ members, ¬ IsMessage l members)
        (converse launch)) →
      ∀ (files : Files) (command : Command) (path : Path),
        (start { w with converse := converse } files command path).map
            (fun st => st.result.map Ready.checkpoint)
          = (start w files command path).map
            (fun st => st.result.map Ready.checkpoint) := by
  intro hunchanged
  have hline : Output.lineOf [0xFF].reverse = [0xFF] := rfl
  have hdecode : Utf8.decode [0xFF] = .error ⟨0, some 1⟩ := by
    with_unfolding_all rfl
  have hinserted : ∀ launch, (readyWorld.converse launch).Inserted
      (fun l => ∀ members, ¬ IsMessage l members) (readyAfter [[0xFF]]) := by
    refine fun launch => readyAfter_inserted (List.forall_mem_singleton.mpr
      ⟨by decide, ?_⟩)
    rintro members ⟨text, htext, -⟩
    rw [hline, hdecode] at htext
    cases htext
  have hsame :=
    hunchanged readyWorld (fun _ => readyAfter [[0xFF]]) hinserted readyFiles
    ⟨"/w", [], []⟩ (Path.ofString "m")
  rw [readyWorld_start] at hsame
  have hfault :
      (start { readyWorld with converse := fun _ => readyAfter [[0xFF]] }
      readyFiles ⟨"/w", [], []⟩ (Path.ofString "m")).map
        (fun st => st.result.map Ready.checkpoint)
      = some (.error (.io (.notText ⟨0, some 1⟩))) := by
    with_unfolding_all rfl
  rw [hfault] at hsame
  injection hsame with hsame
  cases hsame

end Restoration.Worker
