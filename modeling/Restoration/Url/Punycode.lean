/-
Names in ASCII. The ASCII characters of a label are written first; the
others follow as a list of numbers, each of which says where the next one
goes and which it is. The numbers have digits of varying weight, so that
the list needs no separators, and the weights adapt to the numbers.
-/
namespace Restoration.Url.Punycode

-- =============================================================== digits

/-- The digit for a number below 36. -/
def digit (d : Nat) : Char :=
  if d < 26 then Char.ofNat (0x61 + d) else Char.ofNat (0x30 + (d - 26))

/-- The number for a digit. -/
def digitValue? (c : Char) : Option Nat :=
  if 'a' ≤ c && c ≤ 'z' then some (c.toNat - 'a'.toNat)
  else if '0' ≤ c && c ≤ '9' then some (c.toNat - '0'.toNat + 26)
  else none

/-- A digit below the threshold is the last one of its number. -/
def threshold (place bias : Nat) : Nat :=
  if place ≤ bias then 1 else if bias + 26 ≤ place then 26 else place - bias

/-- A threshold is at least one. -/
theorem threshold_pos (place bias : Nat) : 1 ≤ threshold place bias := by
  unfold threshold
  split
  · omega
  · split <;> omega

/-- A threshold is at most twenty-six. -/
theorem threshold_le (place bias : Nat) : threshold place bias ≤ 26 := by
  unfold threshold
  split
  · omega
  · split <;> omega

/-- Divides until little is left, counting places. -/
def scale (delta place : Nat) : Nat × Nat :=
  if 455 < delta then scale (delta / 35) (place + 36) else (delta, place)
termination_by delta
decreasing_by exact Nat.div_lt_self (by omega) (by omega)

/-- The bias after a number has been written, the first or a later one,
when there are so many characters. -/
def adapt (delta count : Nat) (first : Bool) : Nat :=
  let delta := if first then delta / 700 else delta / 2
  let (delta, place) := scale (delta + delta / count) 0
  place + 36 * delta / (delta + 38)

-- ============================================================== writing

/-- The digits of a number, from a place on. -/
def digits (bias place delta : Nat) : List Char :=
  let t := threshold place bias
  if delta < t then [digit delta]
  else digit (t + (delta - t) % (36 - t)) ::
    digits bias (place + 36) ((delta - t) / (36 - t))
termination_by delta
decreasing_by
  have low := threshold_pos place bias
  have high := threshold_le place bias
  calc (delta - threshold place bias) / (36 - threshold place bias)
      ≤ delta - threshold place bias := Nat.div_le_self _ _
    _ < delta := by omega

/-- A text that is being written: the digits so far, the number that comes
next, the bias, and how many characters have been dealt with. -/
structure Writing where
  written : List Char
  delta : Nat
  bias : Nat
  done : Nat

/-- Looks at a character while the code point `m` is dealt with. -/
def Writing.look (m start : Nat) (w : Writing) (c : Char) : Writing :=
  if c.toNat < m then { w with delta := w.delta + 1 }
  else if c.toNat = m then
    { written := w.written ++ digits w.bias 36 w.delta
      delta := 0
      bias := adapt w.delta (w.done + 1) (w.done == start)
      done := w.done + 1 }
  else w

/-- Deals with code points in ascending order, all of which are at least
`n`. -/
def writeFrom (cs : List Char) (start : Nat) :
    Nat → List Nat → Writing → Writing
  | _, [], w => w
  | n, m :: rest, w =>
    let w := { w with delta := w.delta + (m - n) * (w.done + 1) }
    let w := cs.foldl (Writing.look m start) w
    writeFrom cs start (m + 1) rest { w with delta := w.delta + 1 }

/-- Puts a number in its place, once. -/
def insertOnce (n : Nat) : List Nat → List Nat
  | [] => [n]
  | m :: rest =>
    if n < m then n :: m :: rest
    else if n = m then m :: rest else m :: insertOnce n rest

/-- Whether a character is ASCII. -/
def isAscii (c : Char) : Bool := c.toNat < 128

/-- A label in ASCII. -/
def encode (cs : List Char) : List Char :=
  let plain := cs.filter isAscii
  let points :=
    (cs.filter (!isAscii ·)).foldl (fun ns c => insertOnce c.toNat ns) []
  let w := writeFrom cs plain.length 128 points ⟨[], 0, 72, plain.length⟩
  plain ++ (if plain.isEmpty then [] else ['-']) ++ w.written

-- ============================================================== reading

/-- No number is as great as this. -/
def limit : Nat := 0x100000000

/-- Reads a number that is added to `sum`; the next digit has a place and
a weight. -/
def readNumber (bias : Nat) :
    (place weight sum : Nat) → List Char → Option (Nat × List Char)
  | _, _, _, [] => none
  | place, weight, sum, c :: rest =>
    match digitValue? c with
    | none => none
    | some d =>
      let sum := sum + d * weight
      let t := threshold place bias
      if limit ≤ sum then none
      else if d < t then some (sum, rest)
      else if limit ≤ weight * (36 - t) then none
      else readNumber bias (place + 36) (weight * (36 - t)) sum rest

/-- A number takes at least one digit. -/
theorem readNumber_shorter {bias place weight sum n : Nat} {cs rest : List Char}
    (h : readNumber bias place weight sum cs = some (n, rest)) :
    rest.length < cs.length := by
  induction cs generalizing place weight sum with
  | nil => simp [readNumber] at h
  | cons c cs ih =>
    rw [readNumber] at h
    split at h
    · simp at h
    · simp only at h
      split at h
      · simp at h
      · split at h
        · simp at h
          simp [h.2]
        · split at h
          · simp at h
          · have := ih h
            simp only [List.length_cons]
            omega

/-- Whether a number is the code point of a character. -/
def isPoint (n : Nat) : Bool := n < 0xD800 || (0xDFFF < n && n < 0x110000)

/-- Reads the numbers: `n` is the code point that the next one starts from
and `i` the place. -/
def readFrom (out : List Char) (n i bias : Nat)
    (cs : List Char) : Option (List Char) :=
  if cs.isEmpty then some out
  else
    match _h : readNumber bias 36 1 i cs with
    | none => none
    | some (sum, rest) =>
      let count := out.length + 1
      let point := n + sum / count
      let place := sum % count
      if isPoint point then
        readFrom (out.take place ++ Char.ofNat point :: out.drop place)
          point (place + 1) (adapt (sum - i) count (i == 0)) rest
      else none
termination_by cs.length
decreasing_by exact readNumber_shorter _h

/-- The label that is written in ASCII. What stands before the last hyphen
is its ASCII characters, if anything does. -/
def decode (cs : List Char) : Option (List Char) :=
  let backwards := cs.reverse
  match backwards.dropWhile (· ≠ '-') with
  | '-' :: p :: before =>
    readFrom (p :: before).reverse 128 0 72
      (backwards.takeWhile (· ≠ '-')).reverse
  | _ => readFrom [] 128 0 72 cs

end Restoration.Url.Punycode
