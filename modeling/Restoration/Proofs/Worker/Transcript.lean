/-
All that a worker has said in a session, and how much of it has been read.

A worker is a function of the lines that it has read, so `Peer.said` can
replay it: everything that it says up to some request, as one output. A
session adds the last words of a worker that has left in the middle of a
line (`said`), and never shows more than a tail of all this. `HasRead` says
which lines are missing in front, and it is the invariant that every call
keeps: a call takes lines off the front of what is unread, and a request
only makes the worker say more behind it. Positions in what has been said
therefore mean the same to all calls of a session.
-/
import Mathlib.Data.List.Infix
import Restoration.Proofs.Worker.Request

namespace Restoration.Worker

-- =============================================================== output

namespace Output

/-- Output with lines put in front of it. -/
def behind (read : List Bytes) (o : Output) : Output :=
  ⟨read ++ o.lines, o.start⟩

/-- Output with what the worker does next. -/
def react (o : Output) (r : Reaction) : Output :=
  if r.leaves then (o.append r.words).close else o.append r.words

/-- Lines may be put in front in two parts. -/
theorem behind_behind (a b : List Bytes) (o : Output) :
    (o.behind b).behind a = o.behind (a ++ b) := by
  unfold behind
  rw [List.append_assoc]

/-- Output ends only once. -/
theorem close_close (o : Output) : o.close.close = o.close := by
  obtain ⟨lines, start⟩ := o
  cases start <;> rfl

/-- Output that ends after a reaction ends as if the worker had left. -/
theorem close_react (o : Output) (r : Reaction) :
    (o.react r).close = o.react ⟨r.words, true⟩ := by
  unfold react
  rw [if_pos rfl]
  split
  · exact close_close _
  · rfl

/-- What stands in front does not touch what comes behind. -/
theorem react_behind (read : List Bytes) (o : Output) (r : Reaction) :
    (o.behind read).react r = (o.react r).behind read := by
  have happend : ∀ bytes,
      (o.behind read).append bytes = (o.append bytes).behind read := by
    intro bytes
    unfold behind append
    dsimp only
    rw [List.append_assoc]
  have hclose : ∀ o : Output, (o.behind read).close = o.close.behind read := by
    rintro ⟨lines, start⟩
    cases start with
    | nil => rfl
    | cons b start =>
        unfold behind close
        dsimp only
        rw [List.append_assoc]
  unfold react
  rw [happend, hclose]
  split <;> rfl

/-- Lines that are there stay in front of new ones. -/
theorem lines_prefix_react (o : Output) (r : Reaction) :
    o.lines <+: (o.react r).lines := by
  have happend : o.lines <+: (o.append r.words).lines := List.prefix_append _ _
  have hclose : ∀ o : Output, o.lines <+: o.close.lines := by
    intro o
    unfold close
    cases o.start with
    | nil => exact List.prefix_refl _
    | cons b start => exact List.prefix_append _ _
  unfold react
  split
  · exact happend.trans (hclose _)
  · exact happend

end Output

-- ================================================================= peer

namespace Peer

/-- A worker that says some lines at first, and others at each request. -/
def script (greeting : List Bytes) (turns : List (List Bytes)) : Peer where
  greeting := ⟨greeting.flatMap (· ++ [10]), false⟩
  react heard := ⟨(turns.getD (heard.length - 1) []).flatMap (· ++ [10]), false⟩

variable (p : Peer)

/-- What a worker does while it reads lines, beginning with its greeting. -/
def reactions (heard : List Bytes) : List Reaction :=
  p.greeting :: heard.inits.tail.map p.react

/-- Everything that a worker says while it reads lines. -/
def said (heard : List Bytes) : Output :=
  (p.reactions heard).foldl Output.react .none

/-- Whether a worker leaves at the last of the lines that it reads. -/
def gone (heard : List Bytes) : Bool :=
  match heard with
  | [] => p.greeting.leaves
  | _ :: _ => (p.react heard).leaves

/-- One line more brings one reaction more. -/
theorem said_concat (heard : List Bytes) (line : Bytes) :
    p.said (heard ++ [line])
      = (p.said heard).react (p.react (heard ++ [line])) := by
  have hreactions : p.reactions (heard ++ [line])
      = p.reactions heard ++ [p.react (heard ++ [line])] := by
    unfold reactions
    rw [List.inits_append]
    cases heard with
    | nil => rfl
    | cons a heard => simp
  unfold said
  rw [hreactions, List.foldl_append]
  rfl

theorem gone_concat (heard : List Bytes) (line : Bytes) :
    p.gone (heard ++ [line]) = (p.react (heard ++ [line])).leaves := by
  cases heard with
  | nil => rfl
  | cons a heard => rfl

end Peer

-- ============================================================== session

namespace Session

variable {s : Session} {read : List Bytes}

/-- All that the worker has said so far. If it has left in the middle of a
line, that ends with what it says to the part that it has read. -/
def said (s : Session) : Output :=
  if s.left = s.peer.gone s.heard then s.peer.said s.heard
  else (s.peer.said (s.heard ++ [s.begun.reverse])).close

/-- The lines that the worker has said so far, read or not. -/
def spoken (s : Session) : List Bytes := s.said.lines

/-- The lines that nobody has read. -/
def unread (s : Session) : List Bytes := s.output.lines

/-- Of what the worker has said, the given lines have been read, and the
rest is there to be read; and it has left if the last line that it has read
made it leave. -/
structure HasRead (s : Session) (read : List Bytes) : Prop where
  said : s.said = s.output.behind read
  left : s.peer.gone s.heard = true → s.left = true

/-- Everything that the worker has said has been read or is unread. -/
theorem HasRead.spoken_eq (h : s.HasRead read) :
    s.spoken = read ++ s.unread := by
  unfold spoken unread
  rw [h.said]
  rfl

/-- A worker that has not left in the middle of a line has only reacted to
whole ones. -/
theorem said_of_gone (h : s.left = s.peer.gone s.heard) :
    s.said = s.peer.said s.heard := if_pos h

/-- A worker that is there has not left at the last line. -/
theorem HasRead.gone_eq (h : s.HasRead read) (hleft : s.left = false) :
    s.left = s.peer.gone s.heard := by
  cases hgone : s.peer.gone s.heard with
  | false => exact hleft
  | true => exact h.left hgone

/-- As long as the worker is there, the lines that it has read tell what it
has said. -/
theorem HasRead.spoken_of_there (h : s.HasRead read) (hleft : s.left = false) :
    s.spoken = (s.peer.said s.heard).lines := by
  unfold spoken
  rw [said_of_gone (h.gone_eq hleft)]

/-- At the start nothing has been read. -/
theorem hasRead_start (peer : Peer) (ids : Nat → String) :
    (start peer ids).HasRead [] := by
  have hgone : (start peer ids).left = peer.gone [] := rfl
  refine ⟨?_, fun h => hgone.trans h⟩
  rw [said_of_gone hgone]
  rfl

/-- A line to the worker brings output, and nothing is read of it. -/
theorem HasRead.hearing (h : s.HasRead read) (hleft : s.left = false)
    (line : Bytes) : (s.hearing line).HasRead read := by
  have hgone : (s.hearing line).left = s.peer.gone (s.heard ++ [line]) :=
    (Peer.gone_concat _ _ _).symm
  have hsaid := h.said
  rw [said_of_gone (h.gone_eq hleft)] at hsaid
  refine ⟨?_, hgone.trans⟩
  rw [said_of_gone hgone]
  show s.peer.said (s.heard ++ [line])
    = (s.output.react (s.peer.react (s.heard ++ [line]))).behind read
  rw [Peer.said_concat, hsaid, Output.react_behind]

/-- Bytes of a line that is not ended yet bring nothing. -/
theorem HasRead.beginning (h : s.HasRead read) (hleft : s.left = false)
    (bytes : Bytes) : (s.beginning bytes).HasRead read := by
  have hgone := h.gone_eq hleft
  have hsaid := h.said
  rw [said_of_gone hgone] at hsaid
  refine ⟨?_, h.left⟩
  rw [said_of_gone (s := s.beginning bytes) hgone]
  exact hsaid

/-- A worker that leaves in the middle of a line says something more, and
nothing is read of that. -/
theorem HasRead.hangUp (h : s.HasRead read) (hleft : s.left = false) :
    s.hangUp.HasRead read := by
  have hgone := h.gone_eq hleft
  have hsaid := h.said
  rw [said_of_gone hgone] at hsaid
  rw [hleft] at hgone
  refine ⟨?_, fun _ => rfl⟩
  have hmidway : ¬ true = s.peer.gone s.heard := by
    rw [← hgone]
    decide
  show (if true = s.peer.gone s.heard then s.peer.said s.heard
    else (s.peer.said (s.heard ++ [s.begun.reverse])).close)
      = (s.output.react
        ⟨(s.peer.react (s.heard ++ [s.begun.reverse])).words, true⟩).behind read
  rw [if_neg hmidway, Peer.said_concat, Output.close_react, hsaid,
    Output.react_behind]

/-- Lines that are taken off the front have been read. -/
theorem HasRead.withLines (h : s.HasRead read) {taken rest : List Bytes}
    (hlines : s.unread = taken ++ rest) :
    (s.withLines rest).HasRead (read ++ taken) := by
  refine ⟨?_, h.left⟩
  show s.said = _
  rw [h.said, ← Output.behind_behind]
  unfold Output.behind
  rw [show s.output.lines = taken ++ rest from hlines]
  rfl

end Session

end Restoration.Worker
