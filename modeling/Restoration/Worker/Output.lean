/-
What a worker has said and nobody has read: whole lines, and the start of
one. A line ends in a line feed, of which it does not keep the carriage
return before it. When the worker ends, the start of a line is a line too.
-/
import Restoration.Text.Utf8

namespace Restoration.Worker

/-- Unread output. The start of a line is kept last byte first. -/
structure Output where
  lines : List Bytes
  start : Bytes
  deriving DecidableEq, Repr

namespace Output

/-- No output. -/
def none : Output := ⟨[], []⟩

/-- A line from its bytes, last one first. -/
def lineOf : Bytes → Bytes
  | 13 :: before => before.reverse
  | bytes => bytes.reverse

/-- Cuts bytes into lines, the first of which has been started. -/
def cut (start : Bytes) : Bytes → Output
  | [] => ⟨[], start⟩
  | b :: rest =>
    if b = 10 then
      let others := cut [] rest
      ⟨lineOf start :: others.lines, others.start⟩
    else cut (b :: start) rest

/-- Output with more bytes. -/
def append (o : Output) (bytes : Bytes) : Output :=
  let more := cut o.start bytes
  ⟨o.lines ++ more.lines, more.start⟩

/-- Output that has come to its end. -/
def close (o : Output) : Output :=
  match o.start with
  | [] => o
  | start => ⟨o.lines ++ [start.reverse], []⟩

end Output

end Restoration.Worker
