/-
Two sessions with one worker that draw different ids.

A worker may repeat the ids that it reads, so what it says in two such
sessions is not the same. But ids are only ever compared, so it matters
only what a line means to the call that reads it (`Means`). A worker is
blind to the ids of two sessions if, after the same texts, it has said
lines in both that mean the same to each call (`Peer.Blind`), whatever it
makes of the ids otherwise.

The sessions are then in step (`InStep`): the worker has read the same
texts in both, each with the id of its own session, and as many of its
lines have been read. Every restoration keeps them so and gives the same
result, or it ends in neither (`simulates_inStep`).
-/
import Restoration.Proofs.Route.Simulation
import Restoration.Proofs.Worker.Leaving
import Restoration.Worker.Start

namespace Restoration.Worker

open Json (Value)

variable {ids ids' : Nat → String} {params : Params}

-- =============================================================== meaning

/-- Two lines mean the same, each to the calls of its own session. -/
def Means (ids ids' : Nat → String) (line line' : Bytes) : Prop :=
  ∀ k, judge (ids k) line = judge (ids' k) line'

theorem Means.refl (ids : Nat → String) (line : Bytes) :
    Means ids ids line line := fun _ => rfl

/-- A worker does not tell the ids of two sessions apart. -/
structure Peer.Blind (p : Peer) (ids ids' : Nat → String)
    (params : Params) : Prop where
  said : ∀ texts, List.Forall₂ (Means ids ids')
    (p.said (Session.requests ids params 0 texts)).lines
    (p.said (Session.requests ids' params 0 texts)).lines
  gone : ∀ texts,
    p.gone (Session.requests ids params 0 texts)
      = p.gone (Session.requests ids' params 0 texts)

/-- No worker tells two sessions with the same ids apart. -/
theorem Peer.Blind.refl (p : Peer) (ids : Nat → String) (params : Params) :
    p.Blind ids ids params :=
  ⟨fun _ => List.forall₂_same.mpr fun line _ => Means.refl ids line,
    fun _ => rfl⟩

namespace Session

variable {s t : Session}

theorem length_requests (ids : Nat → String) (params : Params) (k : Nat)
    (texts : List String) :
    (requests ids params k texts).length = texts.length := by
  induction texts generalizing k with
  | nil => rfl
  | cons text texts ih => rw [requests, List.length_cons, List.length_cons, ih]

/-- One text more brings one line more. -/
theorem requests_concat (ids : Nat → String) (params : Params) (k : Nat)
    (texts : List String) (text : String) :
    requests ids params k (texts ++ [text]) =
      requests ids params k texts ++
        [request (ids (k + texts.length)) text params] := by
  induction texts generalizing k with
  | nil => rfl
  | cons first texts ih =>
    rw [List.cons_append, requests, requests, ih, List.length_cons,
      List.cons_append, Nat.add_assoc, Nat.add_comm 1]

/-- A worker that does the same at every request is blind if it names
nobody. -/
theorem blind_of_same {p : Peer} {r : Reaction}
    (hreact : ∀ heard, p.react heard = r)
    (hmeans : ∀ heard,
      ∀ line ∈ (p.said heard).lines, Means ids ids' line line) :
    p.Blind ids ids' params := by
  have hreactions : ∀ heard : List Bytes,
      p.reactions heard = p.greeting :: List.replicate heard.length r := by
    intro heard
    have hmap : heard.inits.tail.map p.react
        = List.replicate heard.inits.tail.length r := by
      rw [show p.react = fun _ => r from funext hreact, List.map_const']
    rw [Peer.reactions, hmap, List.length_tail, List.length_inits]
    rfl
  have hsaid : ∀ texts,
      p.said (requests ids' params 0 texts)
        = p.said (requests ids params 0 texts) := by
    intro texts
    rw [Peer.said, Peer.said, hreactions, hreactions, length_requests,
      length_requests]
  refine ⟨fun texts => ?_, fun texts => ?_⟩
  · rw [hsaid, List.forall₂_same]
    exact hmeans _
  · cases texts with
    | nil => rfl
    | cons text texts =>
        rw [requests, requests, Peer.gone, Peer.gone, hreact, hreact]

/-- Calls of the same number take lines that mean the same alike. -/
theorem take_means {lines lines' : List Bytes}
    (h : List.Forall₂ (Means ids ids') lines lines') (k : Nat) :
    (take (ids k) lines).result = (take (ids' k) lines').result ∧
    (take (ids k) lines).events = (take (ids' k) lines').events ∧
    ∃ taken taken', lines = taken ++ (take (ids k) lines).rest ∧
      lines' = taken' ++ (take (ids' k) lines').rest ∧
      taken.length = taken'.length := by
  induction h with
  | nil => exact ⟨rfl, rfl, [], [], rfl, rfl, rfl⟩
  | @cons line line' lines lines' hline _ ih =>
    rw [take, take, ← hline k]
    cases judge (ids k) line with
    | decide result => exact ⟨rfl, rfl, [line], [line'], rfl, rfl, rfl⟩
    | skip events =>
      obtain ⟨hresult, hevents, taken, taken', htaken, htaken', hlength⟩ := ih
      exact ⟨hresult, congrArg (events ++ ·) hevents, line :: taken,
        line' :: taken', congrArg (line :: ·) htaken,
        congrArg (line' :: ·) htaken', congrArg (· + 1) hlength⟩

-- =============================================================== in step

/-- Two sessions with a worker that is blind to their ids have come
equally far, and it has left neither in the middle of a line. -/
structure InStep (params : Params) (s t : Session) : Prop where
  peer : t.peer = s.peer
  blind : s.peer.Blind s.ids t.ids params
  begun : s.begun = [] ∧ t.begun = []
  calls : t.calls = s.calls
  heard : ∃ texts, s.heard = requests s.ids params 0 texts ∧
    t.heard = requests t.ids params 0 texts ∧
    (s.left = false → s.calls = texts.length)
  whole : s.left = s.peer.gone s.heard ∧ t.left = t.peer.gone t.heard
  read : ∃ a b, s.HasRead a ∧ t.HasRead b ∧ a.length = b.length

theorem InStep.left (h : s.InStep params t) : t.left = s.left := by
  obtain ⟨texts, hs, ht, -⟩ := h.heard
  rw [h.whole.1, h.whole.2, h.peer, hs, ht]
  exact (h.blind.gone texts).symm

/-- What is left to be read means the same in both. -/
theorem InStep.unread (h : s.InStep params t) :
    List.Forall₂ (Means s.ids t.ids) s.unread t.unread := by
  obtain ⟨a, b, ha, hb, hlength⟩ := h.read
  obtain ⟨texts, hs, ht, -⟩ := h.heard
  have hsaid := h.blind.said texts
  rw [← hs, ← ht, ← said_of_gone h.whole.1, ha.said, ← h.peer,
    ← said_of_gone h.whole.2, hb.said] at hsaid
  unfold Output.behind at hsaid
  have hdrop := List.forall₂_drop a.length hsaid
  rw [List.drop_left] at hdrop
  rw [hlength, List.drop_left] at hdrop
  exact hdrop

theorem InStep.drawn_of_left (h : s.InStep params t) (hleft : s.left = true) :
    s.drawn.InStep params t.drawn := by
  obtain ⟨a, b, ha, hb, hlength⟩ := h.read
  obtain ⟨texts, hs, ht, -⟩ := h.heard
  have hnot : s.left ≠ false := by rw [hleft]; decide
  exact ⟨h.peer, h.blind, h.begun, congrArg (· + 1) h.calls,
    ⟨texts, hs, ht, fun hin => absurd hin hnot⟩, h.whole, a, b,
    ⟨ha.said, ha.left⟩, ⟨hb.said, hb.left⟩, hlength⟩

/-- Lines may be taken from both, equally many. -/
theorem InStep.withLines (h : s.InStep params t)
    {taken taken' rest rest' : List Bytes} (hs : s.unread = taken ++ rest)
    (ht : t.unread = taken' ++ rest') (hlength : taken.length = taken'.length) :
    (s.withLines rest).InStep params (t.withLines rest') := by
  obtain ⟨a, b, ha, hb, hab⟩ := h.read
  exact ⟨h.peer, h.blind, h.begun, h.calls, h.heard, h.whole, a ++ taken,
    b ++ taken', ha.withLines hs, hb.withLines ht,
    by rw [List.length_append, List.length_append, hab, hlength]⟩

/-- The next request is refused in both, or brings both workers the same
text. -/
theorem InStep.write (h : s.InStep params t) (text : String) :
    (s.left = true ∧ s.drawn.write (requestLine s.nextId text params)
      = .error .brokenPipe ∧ t.drawn.write (requestLine t.nextId text params)
        = .error .brokenPipe) ∨
    ∃ s' t', s.drawn.write (requestLine s.nextId text params) = .ok s' ∧
      t.drawn.write (requestLine t.nextId text params) = .ok t' ∧
      s'.InStep params t' ∧ s'.ids = s.ids ∧ t'.ids = t.ids := by
  cases hleft : s.left with
  | true =>
    exact .inl ⟨rfl, write_of_left (s := s.drawn) hleft _,
      write_of_left (s := t.drawn) (h.left.trans hleft) _⟩
  | false =>
    refine .inr ⟨_, _, write_requestLine (s := s.drawn) hleft _ text params,
      write_requestLine (s := t.drawn) (h.left.trans hleft) _ text params, ?_⟩
    obtain ⟨a, b, ha, hb, hab⟩ := h.read
    obtain ⟨texts, hs, ht, hcalls⟩ := h.heard
    have hline : ∀ u : Session, u.begun = [] → u.calls = texts.length →
        u.heard = requests u.ids params 0 texts →
        u.heard ++ [u.drawn.begun.reverse ++ request u.nextId text params] =
          requests u.ids params 0 (texts ++ [text]) := by
      intro u hbegun hcalls hheard
      rw [requests_concat, ← hheard, Nat.zero_add, ← hcalls,
        show u.drawn.begun = [] from hbegun]
      rfl
    have hs' := hline s h.begun.1 (hcalls hleft) hs
    have ht' := hline t h.begun.2 (h.calls.trans (hcalls hleft)) ht
    refine ⟨⟨h.peer, h.blind, ⟨rfl, rfl⟩, congrArg (· + 1) h.calls,
      ⟨texts ++ [text], hs', ht', fun _ => ?_⟩,
      ⟨(Peer.gone_concat _ _ _).symm, (Peer.gone_concat _ _ _).symm⟩,
      a, b, ?_, ?_, hab⟩, rfl, rfl⟩
    · show s.calls + 1 = _
      rw [hcalls hleft, List.length_append, List.length_singleton]
    · exact HasRead.hearing (s := s.drawn) ⟨ha.said, ha.left⟩ hleft _
    · exact HasRead.hearing (s := t.drawn) ⟨hb.said, hb.left⟩
        (h.left.trans hleft) _

/-- Two calls end alike. -/
structure Called.InStep (params : Params) (c d : Called) : Prop where
  result : c.result = d.result
  events : c.events = d.events
  session : c.session.InStep params d.session

/-- Who waits for the reply to the same call waits alike. -/
theorem InStep.await (h : s.InStep params t) (k : Nat) :
    Option.Rel (Called.InStep params) (s.await (s.ids k))
      (t.await (t.ids k)) := by
  obtain ⟨hresult, hevents, taken, taken', htaken, htaken', hlength⟩ :=
    take_means h.unread k
  have hsession := h.withLines htaken htaken' hlength
  unfold Session.await
  dsimp only
  rw [show s.output.lines = s.unread from rfl,
    show t.output.lines = t.unread from rfl, ← hresult, ← hevents]
  cases (take (s.ids k) s.unread).result with
  | some result => exact .some ⟨rfl, rfl, hsession⟩
  | none =>
    dsimp only
    rw [hsession.left]
    split
    · exact .some ⟨rfl, rfl, hsession⟩
    · exact .none

/-- The next call for a text goes alike in both. -/
theorem InStep.call (h : s.InStep params t) (text : String) :
    Option.Rel (Called.InStep params) (s.call text params .awaited)
      (t.call text params .awaited) := by
  unfold Session.call
  dsimp only
  rcases h.write text with ⟨hleft, hs, ht⟩ |
    ⟨s', t', hs, ht, hwritten, hids, hids'⟩
  · rw [hs, ht]
    exact .some ⟨rfl, rfl, h.drawn_of_left hleft⟩
  · rw [hs, ht]
    have hawait := hwritten.await s.calls
    rw [hids, hids', show t.ids s.calls = t.nextId from
        congrArg t.ids h.calls.symm] at hawait
    exact hawait

/-- A text is restored alike in both, or its restoration ends in neither. -/
theorem simulates_inStep (params : Params) :
    Simulates (InStep params) params restore restore := by
  intro s t h text
  have hcall := h.call text
  unfold restore
  generalize s.call text params .awaited = c at hcall ⊢
  generalize t.call text params .awaited = d at hcall ⊢
  cases hcall with
  | none => exact .none
  | @some c d hends =>
    obtain ⟨result, events, s'⟩ := c
    obtain ⟨result', events', t'⟩ := d
    obtain ⟨hresult, hevents, hsession⟩ := hends
    dsimp only at hresult
    subst hresult
    cases result with
    | none => exact .none
    | some result => exact .some ⟨rfl, hevents, hsession⟩

-- ================================================================ start

/-- At the start both are at the same point. -/
theorem inStep_start {p : Peer} (h : p.Blind ids ids' params) :
    (start p ids).InStep params (start p ids') :=
  ⟨rfl, h, ⟨rfl, rfl⟩, rfl, ⟨[], rfl, rfl, fun _ => rfl⟩, ⟨rfl, rfl⟩, [], [],
    hasRead_start p ids, hasRead_start p ids', rfl⟩

/-- Two handshakes come out alike. -/
inductive HandshakeInStep (params : Params) :
    Except Failure (Checkpoint × Session) →
    Except Failure (Checkpoint × Session) → Prop
  | failed (f : Failure) : HandshakeInStep params (.error f) (.error f)
  | ready (checkpoint : Checkpoint) {s t : Session} (h : s.InStep params t) :
      HandshakeInStep params (.ok (checkpoint, s)) (.ok (checkpoint, t))

/-- The handshake takes no notice of ids. -/
theorem handshake_inStep {p : Peer} (h : p.Blind ids ids' params)
    (path : Path) :
    Option.Rel (HandshakeInStep params) ((start p ids).handshake path)
      ((start p ids').handshake path) := by
  have hstart := inStep_start h
  unfold Session.handshake
  rw [hstart.left, show (start p ids').output = (start p ids).output from rfl]
  cases hfirst : firstMessage (start p ids).output.lines with
  | none =>
    dsimp only
    split
    · exact .some (.failed _)
    · exact .none
  | some found =>
    obtain ⟨message, rest⟩ := found
    cases message with
    | error f => exact .some (.failed _)
    | ok members =>
      dsimp only
      cases Handshake.ofMembers members with
      | error e => exact .some (.failed _)
      | ok hello =>
        dsimp only
        cases hello.checkpoint path with
        | error f => exact .some (.failed _)
        | ok checkpoint =>
          obtain ⟨taken, htaken⟩ := firstMessage_suffix hfirst
          exact .some (.ready checkpoint (hstart.withLines htaken htaken rfl))

end Session

end Restoration.Worker
