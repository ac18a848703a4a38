/-
The bytes that a text is sent as, character by character. `encode` goes
through a packed array of bytes; here it is taken apart into the encodings
of the single characters, which is the form that proofs about lines need:
a byte of a character beyond ASCII is never an ASCII byte, so the only
character that puts a line feed on the wire is the line feed.
-/
import Restoration.Text.Utf8

namespace Restoration.Utf8

-- ========================================================== packed bytes

/-- The loop of `ByteArray.toList` puts the bytes from its place on behind
those it has. -/
private theorem toList_loop_eq (b : ByteArray) (i : Nat) (found : List UInt8) :
    ByteArray.toList.loop b i found = found.reverse ++
      b.data.toList.drop i := by
  fun_induction ByteArray.toList.loop b i found with
  | case1 i found h ih =>
      have hi : i < b.data.toList.length := by simpa using h
      rw [ih, List.drop_eq_getElem_cons hi]
      simp [ByteArray.get!, getElem!_pos, h]
  | case2 i found h =>
      rw [List.drop_eq_nil_of_le (by simpa using h), List.append_nil]

/-- A text's bytes are those of its characters. -/
theorem encode_eq_flatMap (s : String) :
    encode s = s.toList.flatMap String.utf8EncodeChar := by
  have hbytes : s.toByteArray = s.toList.utf8Encode := by
    rw [← String.toByteArray_ofList, String.ofList_toList]
  unfold encode ByteArray.toList
  rw [toList_loop_eq, String.toUTF8_eq_toByteArray, hbytes, List.utf8Encode,
    List.toList_data_toByteArray]
  rfl

@[simp]
theorem encode_append (s t : String) :
    encode (s ++ t) = encode s ++ encode t := by
  rw [encode_eq_flatMap, encode_eq_flatMap, encode_eq_flatMap,
    String.toList_append, List.flatMap_append]

theorem encode_push (s : String) (c : Char) :
    encode (s.push c) = encode s ++ String.utf8EncodeChar c := by
  rw [encode_eq_flatMap, encode_eq_flatMap, String.toList_push,
    List.flatMap_append, List.flatMap_singleton]

/-- A list in which each element is replaced by one or more is not shorter
than it was. -/
theorem length_le_length_flatMap {α β : Type} {f : α → List β}
    (hf : ∀ a, f a ≠ []) (l : List α) : l.length ≤ (l.flatMap f).length := by
  induction l with
  | nil => exact Nat.le_refl _
  | cons a l ih =>
      have hpos := List.length_pos_iff.mpr (hf a)
      rw [List.flatMap_cons, List.length_append, List.length_cons]
      omega

/-- Each character takes one byte or more. -/
theorem length_le_length_encode (s : String) :
    s.toList.length ≤ (encode s).length := by
  rw [encode_eq_flatMap]
  exact length_le_length_flatMap (fun _ => String.utf8EncodeChar_ne_nil) _

-- ============================================================ ASCII bytes

/-- A byte of a character is the character itself, or has its highest bit
set. -/
theorem toNat_of_mem_utf8EncodeChar {c : Char} {b : UInt8}
    (h : b ∈ String.utf8EncodeChar c) : b.toNat = c.toNat ∨ 128 ≤ b.toNat := by
  show b.toNat = c.val.toNat ∨ _
  unfold String.utf8EncodeChar at h
  dsimp only at h
  split at h
  · -- one byte
    rw [List.mem_singleton] at h
    rw [h, UInt8.toNat_ofNat']
    omega
  · -- more bytes
    repeat' split at h
    all_goals
      simp only [List.mem_cons, List.not_mem_nil, or_false, ← UInt8.toNat_inj,
        UInt8.toNat_ofNat'] at h
      omega

/-- Only the line feed is encoded with a line feed. -/
theorem eq_newline_of_mem_utf8EncodeChar {c : Char}
    (h : (10 : UInt8) ∈ String.utf8EncodeChar c) : c = '\n' := by
  rcases toNat_of_mem_utf8EncodeChar h with heq | hge
  · exact Char.toNat_inj.mp heq.symm
  · exact absurd hge (by decide)

/-- A text without line feeds has no line feed among its bytes. -/
theorem newline_not_mem_encode {s : String} (h : '\n' ∉ s.toList) :
    (10 : UInt8) ∉ encode s := by
  rw [encode_eq_flatMap]
  intro hmem
  obtain ⟨c, hc, hbyte⟩ := List.mem_flatMap.mp hmem
  exact h (eq_newline_of_mem_utf8EncodeChar hbyte ▸ hc)

end Restoration.Utf8
