/-
Integers, written and read.

Reading digits from the left, up to a bound, comes to the value that they
have together: it only grows from digit to digit, so the bound is kept on
the way if it is kept at the end (`digitsWithin_eq_ok_iff`). What is read
holds digits only, and what is written for a number is read as that number
(`readNatural_toString`).
-/
import Restoration.Text.Integer

namespace Restoration.Text

variable {bound value n : Nat} {passed : IntegerFault} {cs : List Char}

/-- Further digits make a number no less. -/
theorem le_ofDigitChars (cs : List Char) (n : Nat) :
    n ≤ Nat.ofDigitChars 10 cs n := by
  rw [Nat.ofDigitChars_eq_ofDigitChars_zero]
  exact Nat.le_trans (Nat.le_mul_of_pos_left n (Nat.pow_pos (by decide)))
    (Nat.le_add_right _ _)

theorem digitsWithin_eq_ok_iff : digitsWithin bound passed value cs = .ok n ↔
    (∀ c ∈ cs, Binary.isDigit c = true) ∧ Nat.ofDigitChars 10 cs value = n ∧
    (cs = [] ∨ n ≤ bound) := by
  induction cs generalizing value with
  | nil => simp [digitsWithin]
  | cons c rest ih =>
    have hvalue : value * 10 + Binary.digitValue c
        = 10 * value + (c.toNat - '0'.toNat) := by
      rw [Nat.mul_comm, Binary.digitValue]
    rw [digitsWithin, Nat.ofDigitChars_cons, ← hvalue, List.forall_mem_cons]
    cases hdigit : Binary.isDigit c with
    | false => simp
    | true =>
      have hmore := le_ofDigitChars rest (value * 10 + Binary.digitValue c)
      dsimp only
      rw [if_pos rfl]
      split
      case isTrue hwithin =>
        rw [ih]
        constructor
        · rintro ⟨hrest, hn, hbound⟩
          refine ⟨⟨rfl, hrest⟩, hn, .inr ?_⟩
          rcases hbound with rfl | hbound
          · exact hn ▸ hwithin
          · exact hbound
        · rintro ⟨⟨-, hrest⟩, hn, hbound⟩
          exact ⟨hrest, hn,
            .inr (hbound.resolve_left (List.cons_ne_nil c rest))⟩
      case isFalse hpassed =>
        refine ⟨nofun, fun ⟨_, hn, hbound⟩ => absurd ?_ hpassed⟩
        exact Nat.le_trans (hn ▸ hmore)
          (hbound.resolve_left (List.cons_ne_nil c rest))

/-- Nothing but digits is read, a plus sign apart. -/
theorem isDigit_of_readNatural {s : String}
    (h : readNatural bound s = .ok n) {c : Char} (hc : c ∈ s.toList) :
    Binary.isDigit c = true ∨ c = '+' := by
  have digits {cs : List Char} (h : someDigitsWithin bound .tooLarge cs = .ok n)
      (hc : c ∈ cs) :
      Binary.isDigit c = true := by
    cases cs with
    | nil => cases hc
    | cons first rest => exact (digitsWithin_eq_ok_iff.mp h).1 c hc
  rw [readNatural] at h
  split at h
  case h_1 => cases h
  case h_2 rest hs =>
    rw [hs] at hc
    rcases List.mem_cons.mp hc with rfl | hc
    · exact .inr rfl
    · exact .inl (digits h hc)
  case h_3 => exact .inl (digits h hc)

/-- A number that is written in digits is read as that number. -/
theorem readNatural_toString (h : n ≤ bound) :
    readNatural bound (toString n) = .ok n := by
  have hdigits : ∀ c ∈ Nat.toDigits 10 n, Binary.isDigit c = true :=
    fun c hc => by
    have hdigit :=
      Nat.isDigit_of_mem_toDigits (b := 10) (by decide) (by decide) hc
    rw [Char.isDigit, Bool.and_eq_true, decide_eq_true_eq, decide_eq_true_eq]
      at hdigit
    rw [Binary.isDigit, Bool.and_eq_true, decide_eq_true_eq, decide_eq_true_eq]
    exact hdigit
  have hread : digitsWithin bound .tooLarge 0 (Nat.toDigits 10 n) = .ok n :=
    digitsWithin_eq_ok_iff.mpr
      ⟨hdigits, Nat.ofDigitChars_toDigits (by decide) (by decide), .inr h⟩
  rw [readNatural, Nat.toString_eq_repr, Nat.toList_repr]
  cases hcs : Nat.toDigits 10 n with
  | nil => exact absurd hcs (List.ne_nil_of_length_pos Nat.length_toDigits_pos)
  | cons c rest =>
    rw [hcs] at hdigits hread
    split
    case h_1 heq => cases heq
    case h_2 heq =>
      -- the sign is no digit
      cases heq
      exact absurd (hdigits '+' List.mem_cons_self) (by decide)
    case h_3 => exact hread

end Restoration.Text
