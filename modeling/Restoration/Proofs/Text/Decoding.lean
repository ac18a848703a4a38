/-
Reading back the bytes of a text. The encoding of a character is one piece,
which the reading cuts off whatever stands behind it, so that the bytes of
a text are read as that text.
-/
import Restoration.Proofs.Text.Encoding

namespace Restoration.Utf8

-- ================================================================= bytes

/-- A number below 256 is a byte. -/
theorem toNat_byte {n : Nat} (h : n < 256) : (UInt8.ofNat n).toNat = n := by
  rw [UInt8.toNat_ofNat', Nat.mod_eq_of_lt h]

/-- What a byte below 128 announces. -/
theorem lead_one {n : Nat} (h : n < 0x80) : lead (UInt8.ofNat n) = .one := by
  unfold lead
  rw [if_pos]
  rw [UInt8.lt_iff_toNat_lt, toNat_byte (by omega)]
  exact h

/-- What the first of two bytes announces. -/
theorem lead_two {n : Nat} (h : 0xC2 ≤ n) (h' : n < 0xE0) :
    lead (UInt8.ofNat n) = .two := by
  have hn := toNat_byte (show n < 256 by omega)
  unfold lead
  simp only [UInt8.lt_iff_toNat_lt, hn, UInt8.reduceToNat]
  rw [if_neg (by omega), if_neg (by omega), if_pos h']

/-- What the first of three bytes announces. -/
theorem lead_three {n : Nat} (h : 0xE0 ≤ n) (h' : n < 0xF0) :
    lead (UInt8.ofNat n)
      = .three (if n = 0xE0 then 0xA0 else 0x80)
        (if n = 0xED then 0x9F else 0xBF) := by
  by_cases hoverlong : n = 0xE0
  · subst hoverlong
    rfl
  by_cases hsurrogate : n = 0xED
  · subst hsurrogate
    rfl
  have hn := toNat_byte (show n < 256 by omega)
  unfold lead
  simp only [UInt8.lt_iff_toNat_lt, ← UInt8.toNat_inj, hn, UInt8.reduceToNat]
  rw [if_neg (by omega), if_neg (by omega), if_neg (by omega), if_neg hoverlong,
    if_neg hsurrogate, if_pos h', if_neg hoverlong, if_neg hsurrogate]

/-- What the first of four bytes announces. -/
theorem lead_four {n : Nat} (h : 0xF0 ≤ n) (h' : n ≤ 0xF4) :
    lead (UInt8.ofNat n)
      = .four (if n = 0xF0 then 0x90 else 0x80)
        (if n = 0xF4 then 0x8F else 0xBF) := by
  by_cases hoverlong : n = 0xF0
  · subst hoverlong
    rfl
  by_cases hlast : n = 0xF4
  · subst hlast
    rfl
  have hn := toNat_byte (show n < 256 by omega)
  unfold lead
  simp only [UInt8.lt_iff_toNat_lt, ← UInt8.toNat_inj, hn, UInt8.reduceToNat]
  rw [if_neg (by omega), if_neg (by omega), if_neg (by omega),
    if_neg (by omega), if_neg (by omega), if_neg (by omega), if_neg hoverlong,
    if_pos (by omega), if_neg hoverlong, if_neg hlast]

/-- Six bits are put into a byte that continues an encoding. -/
theorem continues_byte {n : Nat} (h : n < 64) :
    continues (UInt8.ofNat (n + 128)) = true := by
  have hn := toNat_byte (show n + 128 < 256 by omega)
  simp only [continues, Bool.and_eq_true, decide_eq_true_eq,
    UInt8.le_iff_toNat_le, hn, UInt8.reduceToNat]
  omega

/-- And are found there again. -/
theorem payload_byte {n : Nat} (h : n < 64) :
    payload (UInt8.ofNat (n + 128)) = n := by
  rw [payload, toNat_byte (by omega)]
  omega

/-- A second byte lies between its bounds if its number does. -/
theorem between_byte {n : Nat} {low high : UInt8} (h : n < 256)
    (hlow : low.toNat ≤ n) (hhigh : n ≤ high.toNat) :
    (decide (low ≤ UInt8.ofNat n) && decide (UInt8.ofNat n ≤ high)) = true := by
  simp only [Bool.and_eq_true, decide_eq_true_eq, UInt8.le_iff_toNat_le,
    toNat_byte h]
  exact ⟨hlow, hhigh⟩

-- ============================================================ characters

/-- The encoding of a character is a piece, whatever stands behind it. -/
theorem piecesOnto_utf8EncodeChar (found : List Piece) (c : Char)
    (rest : Bytes) :
    piecesOnto found (String.utf8EncodeChar c ++ rest)
      = piecesOnto (.char c :: found) rest := by
  have hvalid : c.val.toNat < 0xD800 ∨
      (0xDFFF < c.val.toNat ∧ c.val.toNat < 0x110000) := by
    simpa [UInt32.isValidChar, Nat.isValidChar] using c.valid
  have hc : ∀ n, n = c.val.toNat → Char.ofNat n = c := by
    rintro n rfl
    exact Char.ofNat_toNat c
  unfold String.utf8EncodeChar
  dsimp only
  generalize c.val.toNat = v at hvalid hc
  split
  · -- one byte
    rw [List.singleton_append, piecesOnto.eq_def]
    dsimp only
    rw [lead_one (by omega)]
    dsimp only
    rw [hc _ (toNat_byte (by omega))]
  split
  · -- two bytes
    rw [List.cons_append, List.singleton_append, piecesOnto.eq_def]
    dsimp only
    rw [lead_two (by omega) (by omega)]
    dsimp only
    rw [if_pos (continues_byte (by omega)), payload_byte (by omega),
      toNat_byte (by omega), hc]
    omega
  split
  · -- three bytes; the second one's bounds depend on the first
    rw [List.cons_append, List.cons_append, List.singleton_append,
      piecesOnto.eq_def]
    dsimp only
    rw [lead_three (by omega) (by omega)]
    dsimp only
    rw [if_pos, if_pos (continues_byte (by omega)), payload_byte (by omega),
      payload_byte (by omega), toNat_byte (by omega), hc]
    · omega
    · refine between_byte (by omega) ?_ ?_
      all_goals split
      all_goals
        simp only [UInt8.reduceToNat]
        omega
  · -- four bytes; likewise
    rw [List.cons_append, List.cons_append, List.cons_append,
      List.singleton_append, piecesOnto.eq_def]
    dsimp only
    rw [lead_four (by omega) (by omega)]
    dsimp only
    rw [if_pos, if_pos (continues_byte (by omega)),
      if_pos (continues_byte (by omega)), payload_byte (by omega),
      payload_byte (by omega), payload_byte (by omega),
      toNat_byte (by omega), hc]
    · omega
    · refine between_byte (by omega) ?_ ?_
      all_goals split
      all_goals
        simp only [UInt8.reduceToNat]
        omega

/-- The bytes of characters are cut into these characters. -/
theorem piecesOnto_flatMap (found : List Piece) (cs : List Char) :
    piecesOnto found (cs.flatMap String.utf8EncodeChar)
      = found.reverse ++ cs.map Piece.char := by
  induction cs generalizing found with
  | nil =>
      rw [List.flatMap_nil, piecesOnto.eq_def, List.map_nil, List.append_nil]
  | cons c cs ih =>
      rw [List.flatMap_cons, piecesOnto_utf8EncodeChar, ih, List.reverse_cons,
        List.append_assoc, List.singleton_append, List.map_cons]

/-- Characters make the text that they are. -/
theorem ofPieces_map (index : Nat) (text cs : List Char) :
    ofPieces index text (cs.map Piece.char)
      = .ok (String.ofList (text.reverse ++ cs)) := by
  induction cs generalizing index text with
  | nil => rw [List.map_nil, ofPieces, List.append_nil]
  | cons c cs ih =>
      rw [List.map_cons, ofPieces, ih, List.reverse_cons, List.append_assoc,
        List.singleton_append]

/-- A text is read back from its bytes. -/
theorem decode_encode (s : String) : decode (encode s) = .ok s := by
  rw [decode, pieces, encode_eq_flatMap, piecesOnto_flatMap, List.reverse_nil,
    List.nil_append, ofPieces_map, List.reverse_nil, List.nil_append,
    String.ofList_toList]

/-- So does the lossy reading, which has nothing to replace. -/
theorem lossy_encode (s : String) : lossy (encode s) = s := by
  have hpieces : pieces (encode s) = s.toList.map Piece.char := by
    rw [pieces, encode_eq_flatMap, piecesOnto_flatMap, List.reverse_nil,
      List.nil_append]
  rw [lossy, hpieces, List.map_map]
  exact (congrArg String.ofList (List.map_id _)).trans String.ofList_toList

end Restoration.Utf8
