/-
A request on its way into the worker. Its text holds no line feed, so the
one that `requestLine` puts after it is the only one: the worker reads
exactly one line for it, put behind whatever had been begun before. Of a
request that is cut anywhere before that line feed it reads no line at all.
-/
import Restoration.Proofs.Json.Writing
import Restoration.Proofs.Text.Encoding
import Restoration.Worker.Session

namespace Restoration

-- ============================================================== settings

/-- A count is written without line feeds. -/
theorem newline_not_mem_count (n : UInt32) : '\n' ∉ (toString n).toList := by
  intro hmem
  have h : '\n' ∈ (Nat.repr n.toNat).toList := hmem
  rw [Nat.toList_repr] at h
  exact absurd (Binary.isNumeralChar_of_mem_toDigits _ _ h) (by decide)

/-- A temperature is written without line feeds. -/
theorem Params.newline_not_mem_temperature (t : Binary.Number Binary.single) :
    '\n' ∉ (Params.writeTemperature t).toList := by
  intro hmem
  cases t with
  | finite x =>
      exact absurd (Binary.isNumeralChar_of_mem_finite _ x _ hmem) (by decide)
  | infinite _ => exact absurd (show '\n' ∈ "null".toList from hmem) (by decide)
  | undefined _ =>
      exact absurd (show '\n' ∈ "null".toList from hmem) (by decide)

/-- Settings are written without line feeds. -/
theorem Params.newline_not_mem_members (p : Params) :
    '\n' ∉ p.writeMembers.toList := by
  unfold Params.writeMembers
  have hnames : '\n' ∉ "\"beam_width\":".toList
      ∧ '\n' ∉ ",\"temperature\":".toList
      ∧ '\n' ∉ ",\"unk_restoration_max_len\":".toList := by decide
  simp only [String.toList_append, List.mem_append, not_or]
  exact ⟨⟨⟨⟨⟨hnames.1, newline_not_mem_count _⟩, hnames.2.1⟩,
    newline_not_mem_temperature _⟩, hnames.2.2⟩, newline_not_mem_count _⟩

namespace Worker

-- ============================================================== requests

/-- The line of a request without its end. -/
def request (id text : String) (params : Params) : Bytes :=
  Utf8.encode (requestText id text params)

theorem requestLine_eq (id text : String) (params : Params) :
    requestLine id text params = request id text params ++ [10] := rfl

theorem dropLast_requestLine (id text : String) (params : Params) :
    (requestLine id text params).dropLast = request id text params :=
  List.dropLast_concat

/-- A request holds no line feed. -/
theorem newline_not_mem_request (id text : String) (params : Params) :
    (10 : UInt8) ∉ request id text params := by
  refine Utf8.newline_not_mem_encode ?_
  have hmarks : '\n' ∉ "\x7b\"id\":".toList ∧ '\n' ∉ ",\"text\":".toList
      ∧ '\n' ∉ ",".toList ∧ '\n' ∉ "\x7d".toList ∧ '\n' ∉ "".toList := by decide
  unfold requestText
  simp only [String.toList_append, List.mem_append, not_or]
  exact ⟨⟨⟨⟨⟨⟨hmarks.1, Json.newline_not_mem_stringOnto hmarks.2.2.2.2 id⟩,
    hmarks.2.1⟩, Json.newline_not_mem_stringOnto hmarks.2.2.2.2 text⟩,
    hmarks.2.2.1⟩, params.newline_not_mem_members⟩, hmarks.2.2.2.1⟩

/-- The line of a request is longer than its text. -/
theorem length_text_lt_requestLine (id text : String) (params : Params) :
    text.toList.length < (requestLine id text params).length := by
  have hescapes :
      text.toList.length ≤ (text.toList.flatMap Json.escape).length :=
    Utf8.length_le_length_flatMap Json.escape_ne_nil _
  have hchars := Utf8.length_le_length_encode (requestText id text params)
  unfold requestText at hchars
  simp only [String.toList_append, Json.toList_stringOnto, List.length_append,
    List.length_cons] at hchars
  rw [requestLine_eq, List.length_append, List.length_singleton]
  unfold request requestText
  omega

-- =============================================================== writing

namespace Session

variable {s : Session}

/-- The session after the worker has read a line. -/
def hearing (s : Session) (line : Bytes) : Session :=
  { s with heard := s.heard ++ [line], begun := [] }.after
    (s.peer.react (s.heard ++ [line]))

/-- The session after bytes of a line that is not ended yet. -/
def beginning (s : Session) (bytes : Bytes) : Session :=
  { s with begun := bytes.reverse ++ s.begun }

/-- Bytes that come in two parts come as one. -/
theorem beginning_append (a b : Bytes) :
    s.beginning (a ++ b) = (s.beginning a).beginning b := by
  unfold beginning
  rw [List.reverse_append, List.append_assoc]

/-- A byte that is no line feed goes to the line that has been begun. -/
theorem push_other (hleft : s.left = false) {b : UInt8} (hb : b ≠ 10) :
    s.push b = s.beginning [b] := by
  unfold push
  rw [if_neg (by rw [hleft]; decide), if_neg hb]
  rfl

/-- So do bytes without a line feed. -/
theorem foldl_push {bytes : Bytes} (hleft : s.left = false)
    (hline : (10 : UInt8) ∉ bytes) :
    bytes.foldl push s = s.beginning bytes := by
  induction bytes generalizing s with
  | nil => rfl
  | cons b bytes ih =>
      rw [List.mem_cons, not_or] at hline
      rw [List.foldl_cons, push_other hleft (Ne.symm hline.1),
        ih (s := s.beginning [b]) hleft hline.2, ← beginning_append,
        List.singleton_append]

/-- A line feed ends the line that has been begun. -/
theorem push_newline (hleft : s.left = false) :
    s.push 10 = s.hearing s.begun.reverse := by
  unfold push
  rw [if_neg (by rw [hleft]; decide), if_pos rfl]
  rfl

/-- A request that is written whole is read as one line, glued to what had
been begun. -/
theorem write_requestLine (hleft : s.left = false) (id text : String)
    (params : Params) :
    s.write (requestLine id text params)
      = .ok (s.hearing (s.begun.reverse ++ request id text params)) := by
  have hline := newline_not_mem_request id text params
  unfold write
  rw [if_neg (by rw [hleft]; decide), requestLine_eq, List.foldl_append,
    foldl_push hleft hline, List.foldl_cons, List.foldl_nil,
    push_newline (s := s.beginning _) hleft]
  unfold beginning
  rw [List.reverse_append, List.reverse_reverse]
  rfl

/-- A part of a request is a line that has been begun. -/
theorem write_take_request (hleft : s.left = false) (id text : String)
    (params : Params) (n : Nat) :
    s.write ((request id text params).take n)
      = .ok (s.beginning ((request id text params).take n)) := by
  unfold write
  rw [if_neg (by rw [hleft]; decide), foldl_push hleft fun h =>
    newline_not_mem_request id text params (List.mem_of_mem_take h)]

/-- So are the first bytes of its line, up to the line feed. -/
theorem write_take_requestLine (hleft : s.left = false) (id text : String)
    (params : Params) {n : Nat} (hn : n ≤ (request id text params).length) :
    s.write ((requestLine id text params).take n)
      = .ok (s.beginning ((request id text params).take n)) := by
  rw [requestLine_eq, List.take_append_of_le_length hn,
    write_take_request hleft]

/-- The session when the worker has left in the middle of the request for a
text, after so many bytes of it. -/
def leavingMidway (s : Session) (text : String) (params : Params)
    (bytes : Nat) : Session :=
  (s.drawn.beginning ((request s.nextId text params).take bytes)).hangUp

/-- A worker that has left reads nothing any more. -/
theorem write_of_left (hleft : s.left = true) (bytes : Bytes) :
    s.write bytes = .error .brokenPipe := by
  unfold write
  rw [if_pos hleft]

/-- A call to a worker that has left is refused, unless it is given up
before its turn. Only its id is used up. -/
theorem call_of_left (hleft : s.left = true) (text : String) (params : Params)
    (fate : Fate) :
    s.call text params fate
      = some ⟨if fate = .droppedWaiting then none
          else some (.error (.io .brokenPipe)), [], s.drawn⟩ := by
  have hwrite (bytes : Bytes) : s.drawn.write bytes = .error .brokenPipe :=
    write_of_left (s := s.drawn) hleft bytes
  unfold call
  dsimp only
  simp only [hwrite]
  cases fate <;> rfl

/-- A call in which the worker leaves waits for its last words if the pipe
takes what is left of the request, and is cut off if not. -/
theorem call_leftMidway (hleft : s.left = false) (text : String)
    (params : Params) (bytes room : Nat) :
    s.call text params (.leftMidway bytes room)
      = if (requestLine s.nextId text params).length ≤ bytes + room then
          (s.leavingMidway text params bytes).await s.nextId
        else some ⟨some (.error (.io .brokenPipe)), [],
          s.leavingMidway text params bytes⟩ := by
  unfold call
  dsimp only
  rw [dropLast_requestLine, write_take_request (s := s.drawn) hleft]
  rfl

end Session

end Worker

end Restoration
