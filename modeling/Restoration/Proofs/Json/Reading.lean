/-
What the reader of JSON makes of what the writer puts down. The machine's
moves are followed through a text, wherever it stands and whatever comes
behind it: a string is gathered escape by escape, an integer digit by digit,
a word byte by byte. Where the end of a value leaves the machine, any
separator or bracket finds the value complete (`Ends`).
-/
import Restoration.Proofs.Json.Scanning

namespace Restoration.Json

-- =============================================================== members

namespace Members

/-- A member is found where it has been put. -/
theorem get?_insert (name key : String) (value : Value) (members : Members) :
    get? name (insert key value members)
      = if key = name then some value else get? name members := by
  induction members with
  | nil => rfl
  | cons head rest ih =>
      obtain ⟨k, v⟩ := head
      rw [insert]
      split
      · rfl
      split
      · -- the old member gives way
        next hkey =>
        subst hkey
        rw [get?, get?]
        split <;> rfl
      · next hkey =>
        rw [get?, get?, ih]
        split
        · next hk =>
          rw [if_neg fun h => hkey (h.trans hk.symm)]
        · rfl

/-- Later members hide earlier ones. -/
theorem get?_foldl_insert (name : String) (members found : Members) :
    get? name (members.foldl (fun ms kv => insert kv.1 kv.2 ms) found)
      = (get? name members.reverse).or (get? name found) := by
  have hsnoc : ∀ (ms : Members) (k : String) (v : Value),
      get? name (ms ++ [(k, v)])
        = (get? name ms).or (if k = name then some v else none) := by
    intro ms k v
    induction ms with
    | nil => rfl
    | cons head ms ih =>
        rw [List.cons_append, get?, get?, ih]
        split <;> rfl
  induction members generalizing found with
  | nil => rfl
  | cons head rest ih =>
      obtain ⟨k, v⟩ := head
      rw [List.foldl_cons, ih, get?_insert, List.reverse_cons, hsnoc,
        Option.or_assoc]
      split <;> rfl

/-- Of the members with one key the last counts. -/
theorem get?_ofList (name : String) (members : Members) :
    get? name (ofList members) = get? name members.reverse := by
  rw [ofList, get?_foldl_insert]
  exact Option.or_none

end Members

-- ================================================================= moves

/-- Bytes that take the machine from one state to another, wherever they
stand and whatever comes behind them. -/
def Moves (s : Step) (bytes : Bytes) (t : Step) : Prop :=
  ∀ (place : Position) (rest : Bytes), ∃ place',
    Machine.run ⟨s.1, s.2, place⟩ (bytes ++ rest)
      = Machine.run ⟨t.1, t.2, place'⟩ rest

theorem Moves.refl (s : Step) : Moves s [] s := fun place _ => ⟨place, rfl⟩

theorem Moves.trans {s t u : Step} {before after : Bytes} (h : Moves s before t)
    (h' : Moves t after u) : Moves s (before ++ after) u := by
  intro place rest
  obtain ⟨place₁, h₁⟩ := h place (after ++ rest)
  obtain ⟨place₂, h₂⟩ := h' place₁ rest
  exact ⟨place₂, by rw [List.append_assoc, h₁, h₂]⟩

/-- One byte, and then others. -/
theorem Moves.cons {s t u : Step} {b : UInt8} {after : Bytes}
    (h : Moves s [b] t) (h' : Moves t after u) :
    Moves s (b :: after) u := h.trans h'

/-- A byte outside numerals. -/
theorem Moves.byte {mode : Mode} {frames : List Frame} {b : UInt8} {t : Step}
    (hmode : ∀ numeral, mode ≠ .number numeral)
    (h : mode.step frames b = .ok t) :
    Moves (mode, frames) [b] t := by
  intro place rest
  refine ⟨place.next b, ?_⟩
  have hstep : Machine.step ⟨mode, frames, place⟩ b
      = .ok ⟨t.1, t.2, place.next b⟩ := by
    unfold Machine.step
    cases mode with
    | number numeral => exact absurd rfl (hmode numeral)
    | _ => dsimp only; rw [h]; rfl
  rw [List.singleton_append, Machine.run, hstep]

/-- A byte with which a numeral goes on. -/
theorem Moves.digit {numeral numeral' : Numeral} {b : UInt8}
    (h : numeral.step b = .ok (some numeral')) (frames : List Frame) :
    Moves (.number numeral, frames) [b] (.number numeral', frames) := by
  intro place rest
  refine ⟨place.next b, ?_⟩
  have hstep : Machine.step ⟨.number numeral, frames, place⟩ b
      = .ok ⟨.number numeral', frames, place.next b⟩ := by
    unfold Machine.step
    dsimp only
    rw [h]
  rw [List.singleton_append, Machine.run, hstep]

/-- A mode in which a value is complete: a numeral shows that only by the
byte behind it, which must be one that follows a value. -/
inductive Ends (v : Value) : Mode → Prop
  | after : Ends v (.after v)
  | number {numeral : Numeral} {n : Number} (hv : v = .number n)
      (hfinish : numeral.finish? = some (.ok n))
      (hstep : ∀ b ∈ [0x2C, 0x5D, 0x7D], numeral.step b = .ok none) :
      Ends v (.number numeral)

/-- A separator or a bracket behind a value. -/
theorem Ends.follow {v : Value} {mode : Mode} (h : Ends v mode) {b : UInt8}
    (hb : b ∈ [0x2C, 0x5D, 0x7D]) {frames : List Frame} {t : Step}
    (hfollow : follow v frames b = .ok t) : Moves (mode, frames) [b] t := by
  cases h with
  | after => exact .byte nofun hfollow
  | @number numeral n hv hfinish hstep =>
      subst hv
      intro place rest
      refine ⟨place.next b, ?_⟩
      have hmachine : Machine.step ⟨.number numeral, frames, place⟩ b
          = .ok ⟨t.1, t.2, place.next b⟩ := by
        unfold Machine.step
        dsimp only
        rw [hstep b hb]
        dsimp only
        rw [hfinish]
        dsimp only
        rw [hfollow]
        rfl
      rw [List.singleton_append, Machine.run, hmachine]

/-- A value at the end of the text. -/
theorem Ends.finish {v : Value} {mode : Mode} (h : Ends v mode)
    (place : Position) :
    Machine.finish ⟨mode, [], place⟩ = .ok v := by
  cases h with
  | after => rfl
  | number hv hfinish hstep =>
      subst hv
      unfold Machine.finish
      dsimp only
      rw [hfinish]
      rfl

/-- A state in which a value is due. -/
structure Due (s : Step) (frames : List Frame) : Prop where
  mode : ∀ numeral, s.1 ≠ .number numeral
  step : ∀ b, isSpace b = false → b ≠ 0x5D → s.1.step s.2 b = begin? frames b

theorem due_value (frames : List Frame) : Due (.value, frames) frames where
  mode := nofun
  step b hspace _ := by
    show (if isSpace b = true then _ else _) = _
    rw [hspace]
    rfl

theorem due_firstItem (frames : List Frame) :
    Due (.firstItem, frames) (.array [] :: frames) where
  mode := nofun
  step b hspace hclose := by
    show (if isSpace b = true then _ else if b = 0x5D then _ else _) = _
    rw [hspace, if_neg hclose]
    rfl

theorem due_nextItem (items : List Value) (frames : List Frame) :
    Due (.nextItem items, frames) (.array items :: frames) where
  mode := nofun
  step b hspace hclose := by
    show (if isSpace b = true then _ else if b = 0x5D then _ else _) = _
    rw [hspace, if_neg hclose]
    rfl

/-- The first byte of a value. -/
theorem Due.begin {s t : Step} {frames : List Frame}
    (h : Due s frames) {b : UInt8} (hspace : isSpace b = false)
    (hclose : b ≠ 0x5D) (hbegin : begin? frames b = .ok t) :
    Moves s [b] t :=
  .byte h.mode ((h.step b hspace hclose).trans hbegin)

/-- Bytes that take the machine from its start to the end of a value are
read as that value. -/
theorem read_of_moves {bytes : Bytes} {mode : Mode} {v : Value}
    (h : Moves (.value, []) bytes (mode, []))
    (hends : Ends v mode) : read bytes = .ok v := by
  obtain ⟨place, hrun⟩ := h .start []
  rw [List.append_nil] at hrun
  rw [read, Machine.start, hrun]
  exact hends.finish place

-- =============================================================== strings

/-- The bytes of a string in quotation marks. -/
def quoted (s : String) : Bytes :=
  0x22 :: ((s.toList.flatMap escape).flatMap String.utf8EncodeChar ++ [0x22])

theorem encode_stringOnto (text s : String) :
    Utf8.encode (stringOnto text s) = Utf8.encode text ++ quoted s := by
  rw [Utf8.encode_eq_flatMap, Utf8.encode_eq_flatMap, toList_stringOnto,
    List.flatMap_append, List.flatMap_cons, List.flatMap_append]
  rfl

/-- A string in quotation marks is gathered in a mode that holds its scan. -/
theorem moves_quoted {s : Step} {frames : List Frame} (within : Scan → Mode)
    (behind : String → Mode)
    (hmode : ∀ scan numeral, within scan ≠ .number numeral)
    (hstep : ∀ scan b, (within scan).step frames b
      = if scan.closes b then scan.finish.map fun text => (behind text, frames)
        else (scan.step b).map fun scan => (within scan, frames))
    (h : Moves s [0x22] (within .start, frames)) (text : String) :
    Moves s (quoted text) (behind text, frames) := by
  have hmoves : ∀ {scan scan' : Scan} {bytes : Bytes}, scan.Takes bytes scan' →
      Moves (within scan, frames) bytes (within scan', frames) := by
    intro scan scan' bytes htakes
    induction htakes with
    | nil => exact .refl _
    | cons hopen hscan _ ih =>
        refine .cons (.byte (hmode _) ?_) ih
        rw [hstep, hopen, if_neg Bool.false_ne_true, hscan]
        rfl
  obtain ⟨scan, htakes, hscan⟩ := (Scan.holds_settled "").escapes text.toList
  rw [String.empty_append, String.ofList_toList] at hscan
  have hclose : Moves (within scan, frames) [0x22] (behind text, frames) := by
    refine .byte (hmode _) ?_
    rw [hstep, Scan.closes, hscan.phase, hscan.finish]
    rfl
  exact .cons h ((hmoves htakes).trans hclose)

/-- A string as a value. -/
theorem moves_string {s : Step} {frames : List Frame} (h : Due s frames)
    (text : String) :
    Moves s (quoted text) (.after (.string text), frames) :=
  moves_quoted .string (fun text => .after (.string text)) nofun
    (fun _ _ => rfl) (h.begin rfl (by decide) rfl) text

/-- A string as a key, and its colon. -/
theorem moves_key {s : Step} {members : Members} {frames : List Frame}
    (h : Moves s [0x22] (.key members .start, frames)) (name : String) :
    Moves s (quoted name ++ [0x3A])
      (.value, .object members name :: frames) := by
  have hname : Moves s (quoted name) (.colon members name, frames) :=
    moves_quoted (.key members) (.colon members) nofun (fun _ _ => rfl) h name
  exact hname.trans (.byte nofun rfl)

-- =============================================================== numbers

/-- The digits of a number take a numeral that has its first digit to the
whole number, if it has at most 64 bits. -/
theorem moves_digits {s : Step} {negative : Bool} {frames : List Frame}
    (hfirst : ∀ d < 10, d ≠ 0 →
      Moves s [UInt8.ofNat (0x30 + d)] (.number (.digits negative d), frames))
    {n : Nat} (hn : n ≠ 0) (hwidest : n ≤ widest) :
    Moves s ((Nat.toDigits 10 n).flatMap String.utf8EncodeChar)
      (.number (.digits negative n), frames) := by
  have hdigit : ∀ d < 10,
      String.utf8EncodeChar (Nat.digitChar d) = [UInt8.ofNat (0x30 + d)]
      ∧ Numeral.digit? (UInt8.ofNat (0x30 + d)) = some d := by decide
  induction n using Nat.strongRecOn with
  | ind n ih =>
      by_cases hlt : n < 10
      · rw [Nat.toDigits_of_lt_base hlt, List.flatMap_singleton,
          (hdigit n hlt).1]
        exact hfirst n hlt hn
      · have hlast := hdigit (n % 10) (Nat.mod_lt n (by decide))
        rw [Nat.toDigits_of_base_le (by decide) (Nat.le_of_not_lt hlt),
          List.flatMap_append, List.flatMap_singleton, hlast.1]
        refine (ih (n / 10) (by omega) (by omega) (by omega)).trans
          (.digit ?_ frames)
        simp only [Numeral.step, hlast.2,
          show n / 10 * 10 + n % 10 = n by omega, if_pos hwidest]

/-- Digits that are complete are an integer, if it has at most 64 bits. -/
theorem ends_digits {negative : Bool} {n : Nat} {i : Int} (hn : n ≠ 0)
    (hvalue : (if negative then -(n : Int) else n) = i) (hi : fits i = true) :
    Ends (.number (.integer i hi)) (.number (.digits negative n)) := by
  subst hvalue
  refine .number rfl ?_ ?_
  · simp only [Numeral.finish?, toInteger, dif_pos hi, if_neg fun h : _ ∧
        n = 0 => hn h.2]
  · simp only [List.forall_mem_cons]
    exact ⟨rfl, rfl, rfl, nofun⟩

/-- A digit that is not zero begins a number, or goes on behind a minus. -/
theorem step_digit (frames : List Frame) {d : Nat} (hd : d < 10) (hd0 : d ≠ 0) :
    isSpace (UInt8.ofNat (0x30 + d)) = false ∧ UInt8.ofNat (0x30 + d) ≠ 0x5D
      ∧ begin? frames (UInt8.ofNat (0x30 + d))
        = .ok (.number (.digits false d), frames)
      ∧ Numeral.step .minus (UInt8.ofNat (0x30 + d))
        = .ok (some (.digits true d)) := by
  obtain rfl | rfl | rfl | rfl | rfl | rfl | rfl | rfl | rfl : d = 1 ∨ d = 2 ∨
      d = 3 ∨ d = 4 ∨ d = 5 ∨ d = 6 ∨ d = 7 ∨ d = 8 ∨ d = 9 := by omega
  all_goals exact ⟨rfl, by decide, rfl, rfl⟩

/-- An integer takes the machine to its end. -/
theorem moves_integer {s : Step} {frames : List Frame}
    (h : Due s frames) (i : Int) (hi : fits i = true) :
    ∃ mode, Moves s (Utf8.encode (toString i)) (mode, frames)
      ∧ Ends (.number (.integer i hi)) mode := by
  have hrange : -0x8000000000000000 ≤ i ∧ i < 0x10000000000000000 := by
    simpa only [fits, Bool.and_eq_true, decide_eq_true_eq] using hi
  rw [Utf8.encode_eq_flatMap]
  cases i with
  | ofNat n =>
      have htext : (toString (Int.ofNat n)).toList = Nat.toDigits 10 n :=
        Nat.toList_repr
      have hwidest : n ≤ widest := by
        rw [Int.ofNat_eq_natCast] at hrange
        rw [widest]
        omega
      rw [htext]
      by_cases hn : n = 0
      · subst hn
        refine ⟨.number (.zero false), h.begin rfl (by decide) rfl,
          .number rfl rfl ?_⟩
        simp only [List.forall_mem_cons]
        exact ⟨rfl, rfl, rfl, nofun⟩
      · refine ⟨.number (.digits false n),
          moves_digits (fun d hd hd0 => ?_) hn hwidest,
          ends_digits hn (if_neg Bool.false_ne_true) hi⟩
        obtain ⟨hspace, hclose, hbegin, -⟩ := step_digit frames hd hd0
        exact h.begin hspace hclose hbegin
  | negSucc n =>
      have htext : (toString (Int.negSucc n)).toList
          = '-' :: Nat.toDigits 10 (n + 1) := by
        rw [show toString (Int.negSucc n) = "-" ++ Nat.repr (n + 1) from rfl,
          String.toList_append, Nat.toList_repr]
        rfl
      have hwidest : n + 1 ≤ widest := by
        rw [widest]
        omega
      have hminus : Moves s [0x2D] (.number .minus, frames) :=
        h.begin rfl (by decide) rfl
      have hdigits : Moves (.number .minus, frames)
          ((Nat.toDigits 10 (n + 1)).flatMap String.utf8EncodeChar)
          (.number (.digits true (n + 1)), frames) :=
        moves_digits
          (fun d hd hd0 => .digit (step_digit frames hd hd0).2.2.2 frames)
          n.succ_ne_zero hwidest
      rw [htext]
      exact ⟨.number (.digits true (n + 1)), hminus.cons hdigits,
        ends_digits n.succ_ne_zero (if_pos rfl) hi⟩

-- ================================================================= words

/-- The bytes of a word that are due. -/
theorem moves_word (frames : List Frame) (v : Value) (b : UInt8) (due : Bytes) :
    Moves (.word (b :: due) v, frames) (b :: due) (.after v, frames) := by
  induction due generalizing b with
  | nil => exact .byte nofun (by rw [Mode.step, if_pos rfl]; rfl)
  | cons b' due ih =>
      exact .cons (.byte nofun (by rw [Mode.step, if_pos rfl]; rfl)) (ih b')

/-- A word, from its first byte on. -/
theorem Due.word {s : Step} {frames : List Frame} (h : Due s frames)
    {word : String} {b c : UInt8} {due : Bytes} {v : Value}
    (hword : word.toList.flatMap String.utf8EncodeChar = b :: c :: due)
    (hspace : isSpace b = false) (hclose : b ≠ 0x5D)
    (hbegin : begin? frames b = .ok (.word (c :: due) v, frames)) :
    Moves s (Utf8.encode word) (.after v, frames) := by
  rw [Utf8.encode_eq_flatMap, hword]
  exact .cons (h.begin hspace hclose hbegin) (moves_word frames v c due)

/-- A bracket is opened while there is room. -/
theorem Due.openArray {s : Step} {frames : List Frame} (h : Due s frames)
    (hroom : frames.length < depthLimit) :
    Moves s [0x5B] (.firstItem, frames) := by
  refine h.begin rfl (by decide) ?_
  show (if frames.length < depthLimit then _ else _) = _
  rw [if_pos hroom]

theorem Due.openObject {s : Step} {frames : List Frame} (h : Due s frames)
    (hroom : frames.length < depthLimit) :
    Moves s [0x7B] (.firstKey, frames) := by
  refine h.begin rfl (by decide) ?_
  show (if frames.length < depthLimit then _ else _) = _
  rw [if_pos hroom]

end Restoration.Json
