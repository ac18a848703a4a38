/-
What the writer of JSON puts down, character by character. A string is its
characters' escapes between quotation marks, and no escape holds a line
feed; a number is digits and the four marks of a numeral. So whatever a
request says, its line is one line.
-/
import Restoration.Json.Writer

namespace Restoration.Json

-- ============================================================== strings

@[simp]
theorem toList_pushAll (text : String) (cs : List Char) :
    (pushAll text cs).toList = text.toList ++ cs := by
  unfold pushAll
  induction cs generalizing text with
  | nil => rw [List.foldl_nil, List.append_nil]
  | cons c cs ih =>
      rw [List.foldl_cons, ih, String.toList_push, List.append_assoc,
        List.singleton_append]

@[simp]
theorem toList_escapeOnto (text : String) (cs : List Char) :
    (escapeOnto text cs).toList = text.toList ++ cs.flatMap escape := by
  unfold escapeOnto
  induction cs generalizing text with
  | nil => rw [List.foldl_nil, List.flatMap_nil, List.append_nil]
  | cons c cs ih =>
      rw [List.foldl_cons, ih, toList_pushAll, List.flatMap_cons,
        List.append_assoc]

/-- No character is left out. -/
theorem escape_ne_nil (c : Char) : escape c ≠ [] := by
  unfold escape
  repeat' split
  all_goals exact List.cons_ne_nil _ _

/-- A string is written as its characters' escapes between quotation
marks. -/
theorem toList_stringOnto (text s : String) :
    (stringOnto text s).toList
      = text.toList ++ '"' :: (s.toList.flatMap escape ++ ['"']) := by
  unfold stringOnto
  rw [String.toList_push, toList_escapeOnto, String.toList_push]
  simp only [List.append_assoc, List.cons_append, List.nil_append]

-- ============================================================ line feeds

/-- A hexadecimal digit is no line feed. -/
theorem hexDigit_ne_newline : ∀ n < 16, hexDigit n ≠ '\n' := by decide

/-- No escape holds a line feed; the line feed's own is a letter. -/
theorem newline_not_mem_escape (c : Char) : '\n' ∉ escape c := by
  unfold escape
  split
  · decide
  split
  · decide
  split
  · -- control characters: a letter, or two digits
    next hlow =>
    repeat' split
    all_goals try decide
    have hhigh := hexDigit_ne_newline (c.toNat / 16) (by omega)
    have hlast := hexDigit_ne_newline (c.toNat % 16) (by omega)
    simp only [List.mem_cons, List.not_mem_nil, or_false, not_or]
    exact ⟨by decide, by decide, by decide, by decide, hhigh.symm, hlast.symm⟩
  · -- a character that stands for itself
    next hlow =>
    intro hmem
    rw [List.mem_singleton] at hmem
    subst hmem
    exact hlow (by decide)

/-- A string is written without line feeds. -/
theorem newline_not_mem_stringOnto {text : String} (h : '\n' ∉ text.toList)
    (s : String) : '\n' ∉ (stringOnto text s).toList := by
  rw [toList_stringOnto]
  intro hmem
  simp only [List.mem_append, List.mem_cons, List.mem_flatMap, List.not_mem_nil,
    or_false] at hmem
  rcases hmem with hmem | heq | ⟨c, -, hmem⟩ | heq
  · exact h hmem
  · exact absurd heq (by decide)
  · exact newline_not_mem_escape c hmem
  · exact absurd heq (by decide)

end Restoration.Json

namespace Restoration.Binary

-- ============================================================== numerals

/-- The characters of a numeral. -/
def IsNumeralChar (c : Char) : Prop :=
  c.isDigit = true ∨ c ∈ ['.', 'e', '+', '-']

instance : DecidablePred IsNumeralChar := fun c =>
  inferInstanceAs (Decidable (c.isDigit = true ∨ c ∈ ['.', 'e', '+', '-']))

theorem isNumeralChar_zero : IsNumeralChar '0' := by decide

theorem isNumeralChar_point : IsNumeralChar '.' := by decide

/-- Decimal digits are digits. -/
theorem isNumeralChar_of_mem_toDigits (n : Nat) :
    ∀ c ∈ Nat.toDigits 10 n, IsNumeralChar c := fun _ h =>
  Or.inl (Nat.isDigit_of_mem_toDigits (by decide) (by decide) h)

/-- Zeros that fill up a decimal are digits. -/
theorem isNumeralChar_of_mem_zeros (n : Nat) :
    ∀ c ∈ List.replicate n '0', IsNumeralChar c := fun c h => by
  rw [List.eq_of_mem_replicate h]
  exact isNumeralChar_zero

/-- Zero is written with a point. -/
theorem isNumeralChar_of_mem_zero : ∀ c ∈ ['0', '.', '0'], IsNumeralChar c := by
  simp only [List.forall_mem_cons]
  exact ⟨isNumeralChar_zero, isNumeralChar_point, isNumeralChar_zero,
    fun _ h => absurd h List.not_mem_nil⟩

/-- A decimal is laid out with digits and the marks of a numeral. -/
theorem isNumeralChar_of_mem_layout (l : Layout) (d : Decimal) :
    ∀ c ∈ l.write d, IsNumeralChar c := by
  have hdigits := isNumeralChar_of_mem_toDigits d.digits
  unfold Layout.write
  dsimp only
  generalize Nat.toDigits 10 d.digits = digits at hdigits
  generalize d.exponent + (digits.length : Int) - 1 = first
  split
  · -- zero
    exact isNumeralChar_of_mem_zero
  split
  · -- with a power of ten
    refine List.forall_mem_append.mpr ⟨?_, List.forall_mem_cons.mpr
      ⟨by decide, List.forall_mem_cons.mpr
        ⟨by split <;> decide, isNumeralChar_of_mem_toDigits _⟩⟩⟩
    cases digits with
    | nil => exact hdigits
    | cons c rest =>
        cases rest with
        | nil => exact hdigits
        | cons c' rest =>
            obtain ⟨hc, hrest⟩ := List.forall_mem_cons.mp hdigits
            exact List.forall_mem_cons.mpr
              ⟨hc, List.forall_mem_cons.mpr ⟨isNumeralChar_point, hrest⟩⟩
  split
  · -- a fraction: zeros before the digits
    have hpoint : ∀ c ∈ ['0', '.'], IsNumeralChar c := fun c hc =>
      isNumeralChar_of_mem_zero c (List.mem_append_left ['0'] hc)
    exact List.forall_mem_append.mpr
      ⟨List.forall_mem_append.mpr ⟨hpoint, isNumeralChar_of_mem_zeros _⟩,
        hdigits⟩
  · -- a point among the digits, or zeros after them
    have hpadded := List.forall_mem_append.mpr
      ⟨hdigits, isNumeralChar_of_mem_zeros (first.toNat + 1 - digits.length)⟩
    refine List.forall_mem_append.mpr
      ⟨fun c hc => hpadded c (List.mem_of_mem_take hc),
        List.forall_mem_cons.mpr ⟨isNumeralChar_point, ?_⟩⟩
    split
    · exact isNumeralChar_of_mem_zeros 1
    · exact fun c hc => hpadded c (List.mem_of_mem_drop hc)

/-- A finite number is written as a numeral. -/
theorem isNumeralChar_of_mem_finite {f : Format} (l : Layout) (x : Finite f) :
    ∀ c ∈ (x.write l).toList, IsNumeralChar c := by
  unfold Finite.write
  have hbody : ∀ c ∈ (if x.count = 0 then ['0', '.', '0']
      else l.write (f.shortest x.count)), IsNumeralChar c := by
    split
    · exact isNumeralChar_of_mem_zero
    · exact isNumeralChar_of_mem_layout l _
  rw [String.toList_ofList]
  split
  · exact List.forall_mem_cons.mpr ⟨by decide, hbody⟩
  · exact hbody

end Restoration.Binary
