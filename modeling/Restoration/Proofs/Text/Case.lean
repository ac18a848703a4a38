/-
The lower-case form of a part of a text.

A text is lower-cased as a whole, and what becomes of a part of it can hang
on what stands around it. So the form of a part is taken between two other
texts (`lowerPart`), and the form of a text is made of the forms of its
parts (`lowerFrom_append`).

Only a capital sigma looks around, and it looks at nothing but letters: at
whether one stands before it and none after it (`isFinal`). So a part has
the form that it has by itself exactly if each capital sigma in it sees the
same there as it sees in the part alone (`lowerPart_eq_iff`).
-/
import Restoration.Text.Case

namespace Restoration.Text

-- ================================================================= parts

/-- The lower-case form of a part of a text that stands after `before`,
nearest first, and before `after`. -/
def lowerPart (before : List Char) : List Char → List Char → List Char
  | [], _ => []
  | c :: rest, after =>
    lowerBetween before c (rest ++ after) ++ lowerPart (c :: before) rest after

/-- A text is lower-cased part by part, each in the light of what stands
around it. -/
theorem lowerFrom_append (before part after : List Char) :
    lowerFrom before (part ++ after) =
      lowerPart before part after ++
        lowerFrom (part.reverse ++ before) after := by
  induction part generalizing before with
  | nil => rfl
  | cons c part ih =>
      rw [List.cons_append, lowerFrom, lowerPart, ih, List.append_assoc,
        List.reverse_cons, List.append_assoc, List.singleton_append]

/-- With nothing behind it, a part is lower-cased like a text of its own. -/
theorem lowerPart_nil_after (before part : List Char) :
    lowerPart before part [] = lowerFrom before part := by
  have h := lowerFrom_append before part []
  rw [List.append_nil] at h
  rw [h, lowerFrom, List.append_nil]

/-- A whole text has nothing in front of it. -/
theorem toList_lower (s : String) : (lower s).toList = lowerFrom [] s.toList :=
  String.toList_ofList

-- ================================================================ sigmas

/-- Whether a character is a capital sigma. -/
def isSigma (c : Char) : Bool := c.toNat == 0x3A3

/-- Whether a capital sigma between two texts becomes a final one. -/
def isFinal (before after : List Char) : Bool :=
  meetsLetter before && !meetsLetter after

/-- Only a sigma looks at what stands around it: it is another letter at the
end of a word. -/
theorem lowerBetween_of_sigma {c : Char} (h : isSigma c = true)
    (before after : List Char) :
    lowerBetween before c after =
      if isFinal before after then [Char.ofNat 0x3C2]
        else [Char.ofNat 0x3C3] := by
  rw [lowerBetween, if_pos (by simpa [isSigma] using h)]
  rfl

/-- Every other character is lower-cased the same wherever it stands. -/
theorem lowerBetween_of_not_sigma {c : Char} (h : isSigma c = false)
    (before after : List Char) :
    lowerBetween before c after = lowerChar c := by
  rw [lowerBetween, if_neg (by simpa [isSigma] using h)]

/-- Each capital sigma of a part becomes what it becomes where the part is
all that has been read. -/
def SteadyFrom (read before part after : List Char) : Prop :=
  ∀ above c below, part = above ++ c :: below → isSigma c = true →
    isFinal (above.reverse ++ (read ++ before)) (below ++ after) =
      isFinal (above.reverse ++ read) below

/-- Each capital sigma of a part between two texts becomes what it becomes
in the part by itself. -/
def Steady (before part after : List Char) : Prop :=
  ∀ above c below, part = above ++ c :: below → isSigma c = true →
    isFinal (above.reverse ++ before) (below ++ after)
      = isFinal above.reverse below

/-- Whether a part is steady is asked of its characters one by one, and only
sigmas have to answer. -/
theorem steadyFrom_cons {read before part after : List Char} {c : Char} :
    SteadyFrom read before (c :: part) after ↔
      (isSigma c = true →
        isFinal (read ++ before) (part ++ after) = isFinal read part) ∧
        SteadyFrom (c :: read) before part after := by
  constructor
  · refine fun h =>
      ⟨fun hc => h [] c part rfl hc, fun above d below heq hd => ?_⟩
    have hd := h (c :: above) d below (by rw [heq, List.cons_append]) hd
    simpa using hd
  · rintro ⟨hfirst, hothers⟩ (_ | ⟨e, above⟩) d below heq hd
    · cases heq
      exact hfirst hd
    · cases heq
      simpa using hothers above d below rfl hd

/-- Two lower-cased texts agree if their first characters do and the rests
do; the first characters fail to only where a sigma ends a word in one place
and not in the other. -/
theorem lowerBetween_append_eq_iff {c : Char}
    {before after before' after' p q : List Char} :
    lowerBetween before c after ++ p = lowerBetween before' c after' ++ q ↔
      (isSigma c = true → isFinal before after = isFinal before' after') ∧
      p = q := by
  cases hc : isSigma c with
  | false =>
    rw [lowerBetween_of_not_sigma hc, lowerBetween_of_not_sigma hc,
      List.append_cancel_left_eq]
    simp
  | true =>
    rw [lowerBetween_of_sigma hc, lowerBetween_of_sigma hc]
    cases isFinal before after <;> cases isFinal before' after' <;> simp

/-- A part is lower-cased in a text as it is on its own if and only if it is
steady there, by induction on what is still to be lower-cased. -/
theorem lowerPart_eq_iff_steadyFrom (read before part after : List Char) :
    lowerPart (read ++ before) part after = lowerPart read part [] ↔
      SteadyFrom read before part after := by
  induction part generalizing read with
  | nil => simp [lowerPart, SteadyFrom]
  | cons c part ih =>
      have hrest := ih (c :: read)
      rw [List.cons_append] at hrest
      rw [lowerPart, lowerPart, lowerBetween_append_eq_iff, hrest,
        List.append_nil, steadyFrom_cons]

/-- A part has the form that it has by itself exactly if its capital sigmas
do. -/
theorem lowerPart_eq_iff {before part after : List Char} :
    lowerPart before part after = lowerFrom [] part ↔
      Steady before part after := by
  have h := lowerPart_eq_iff_steadyFrom [] before part after
  simpa [lowerPart_nil_after, SteadyFrom, Steady] using h

/-- A part without a sigma is steady in any text. -/
theorem steady_of_no_sigma {before part after : List Char}
    (h : ∀ c ∈ part, isSigma c = false) : Steady before part after := by
  rintro above c below rfl hc
  rw [h c (by simp)] at hc
  cases hc

end Restoration.Text
