/-
Names that hold the marker.

A name is matched by lower-casing it and the marker, each as a whole, and
looking for the one in the other. The lower-case form of a name has in it,
where the marker stands in the name, the form that the marker takes there
(`lowerPart`). So a name that holds the marker as it is written is matched
wherever the marker keeps its form, and that is a matter of its capital
sigmas alone (`lowerPart_eq_iff`). A marker that ends in one loses its form
before the extension: there the sigma is no longer at the end of a word.
-/
import Restoration.Checkpoint.Matcher
import Restoration.Proofs.Text.Case

namespace Restoration

namespace Text

/-- The check for a beginning is the prefix relation. -/
theorem occursFirst_iff :
    ∀ {part whole : List Char}, occursFirst part whole = true ↔ part <+: whole
  | [], _ => by simp [occursFirst]
  | _ :: _, [] => by simp [occursFirst]
  | a :: part, b :: whole => by
    rw [occursFirst, Bool.and_eq_true, beq_iff_eq, occursFirst_iff,
      List.cons_prefix_cons]

/-- The check for an occurrence is the infix relation. -/
theorem occurs_iff {part : List Char} :
    ∀ {whole : List Char}, occurs part whole = true ↔ part <:+: whole
  | [] => by rw [occurs, occursFirst_iff, List.prefix_nil, List.infix_nil]
  | c :: rest => by
    rw [occurs, Bool.or_eq_true, occursFirst_iff, occurs_iff,
      List.infix_cons_iff]

/-- What a part of a text becomes is in the lower-case form of the text. -/
theorem lowerPart_infix_lower {s : String} {before part after : List Char}
    (h : s.toList = before ++ part ++ after) :
    lowerPart before.reverse part after <:+: (lower s).toList := by
  rw [toList_lower, h, List.append_assoc, lowerFrom_append, lowerFrom_append,
    List.append_nil, ← List.append_assoc]
  exact List.infix_append _ _ _

end Text

namespace Matcher

variable {m : Matcher} {name : String}

/-- What a name must be like: the marker occurs in it, both in lower case,
it ends with the extension, and the exclusion does not occur, if there is
one. -/
theorem accepts_iff :
    m.accepts name = true ↔
      (Text.lower m.marker).toList <:+: (Text.lower name).toList ∧
      '.' :: m.extension.toList <:+ name.toList ∧
      (m.exclusion = "" ∨ ¬ m.exclusion.toList <:+: name.toList) := by
  rw [accepts, Bool.and_eq_true, Bool.and_eq_true, Text.occurs_iff,
    Text.occursFirst_iff, List.reverse_prefix, Bool.or_eq_true, beq_iff_eq,
    Bool.not_eq_true', ← Bool.not_eq_true, Text.occurs_iff, and_assoc]

/-- A name that holds the marker as it is written is accepted, if the
capital sigmas of the marker become in the name what they become in the
marker; without any it is always accepted. -/
theorem accepts_of_literal {before after : List Char}
    (literal : name.toList = before ++ m.marker.toList ++ after)
    (extension : '.' :: m.extension.toList <:+ name.toList)
    (exclusion : m.exclusion = "" ∨ ¬ m.exclusion.toList <:+: name.toList) :
    (Text.Steady before.reverse m.marker.toList after ↔
      Text.lowerPart before.reverse m.marker.toList after
        = (Text.lower m.marker).toList) ∧
    (Text.Steady before.reverse m.marker.toList after → m.accepts name = true) ∧
    ((∀ c ∈ m.marker.toList, Text.isSigma c = false) →
      m.accepts name = true) := by
  have hform : Text.lowerPart before.reverse m.marker.toList after
      = (Text.lower m.marker).toList ↔
      Text.Steady before.reverse m.marker.toList after := by
    rw [Text.toList_lower, Text.lowerPart_eq_iff]
  have hsteady (h : Text.Steady before.reverse m.marker.toList after) :
      m.accepts name = true := by
    refine accepts_iff.mpr ⟨?_, extension, exclusion⟩
    rw [← hform.mpr h]
    exact Text.lowerPart_infix_lower literal
  exact ⟨hform.symm, hsteady,
    fun hplain => hsteady (Text.steady_of_no_sigma hplain)⟩

/-- A marker that is a word with a sigma at its end. -/
def street : Matcher := ⟨"ΟΔΟΣ", "pkl", "emb"⟩

theorem accepts_of_literal_street :
    "Ι_ΟΔΟΣ_2.pkl".toList = "Ι_".toList ++ street.marker.toList ++
      "_2.pkl".toList ∧
    '.' :: street.extension.toList <:+ "Ι_ΟΔΟΣ_2.pkl".toList ∧
    ¬ street.exclusion.toList <:+: "Ι_ΟΔΟΣ_2.pkl".toList ∧
    Text.Steady "Ι_".toList.reverse street.marker.toList "_2.pkl".toList ∧
    street.accepts "Ι_ΟΔΟΣ_2.pkl" = true := by
  have literal : "Ι_ΟΔΟΣ_2.pkl".toList =
      "Ι_".toList ++ street.marker.toList ++ "_2.pkl".toList := by
    decide +kernel
  have extension : '.' :: street.extension.toList
    <:+ "Ι_ΟΔΟΣ_2.pkl".toList := by decide +kernel
  have exclusion : ¬ street.exclusion.toList <:+: "Ι_ΟΔΟΣ_2.pkl".toList := by
    decide +kernel
  obtain ⟨hform, haccepts, -⟩ :=
    accepts_of_literal literal extension (.inr exclusion)
  have steady := hform.mpr (by decide +kernel)
  exact ⟨literal, extension, exclusion, steady, haccepts steady⟩

/-- The name that is the marker and the extension is not accepted: between
the two the sigma is not at the end of a word. -/
theorem accepts_street_alone :
    "ΟΔΟΣ.pkl".toList = street.marker.toList ++ '.' :: street.extension.toList ∧
    ¬ street.exclusion.toList <:+: "ΟΔΟΣ.pkl".toList ∧
    street.accepts "ΟΔΟΣ.pkl" = false :=
  ⟨by decide +kernel, by decide +kernel, by decide +kernel⟩

end Matcher

end Restoration
