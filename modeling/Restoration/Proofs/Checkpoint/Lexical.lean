/-
The order of the walk against the lexical order of paths.

Paths are compared name by name, and names by their bytes. The walk agrees
with that wherever it compares two files of one directory, or two
directories (`Before.lt_or_ahead`). It differs only where it puts a file
before what lies below a directory beside it, although the directory has
the lesser name (`Ahead`). So the checkpoint that is found is the least
candidate but for those below such directories, and it is the least of all
exactly if there are none of these.
-/
import Restoration.Proofs.Checkpoint.Search

namespace Restoration

namespace Search

-- ================================================================= order

/-- A file lies below a directory that stands beside the file with the
given names, and whose name is less than the name of that file. -/
inductive Ahead : List Bytes → List Bytes → Prop
  | beside (above : List Bytes) {file directory name : Bytes}
      {rest : List Bytes}
      (h : directory < file) :
      Ahead (above ++ [file]) (above ++ directory :: name :: rest)

/-- To be found ahead of its turn does not depend on the directories above.
-/
theorem Ahead.cons {names other : List Bytes} (h : Ahead names other)
    (a : Bytes) :
    Ahead (a :: names) (a :: other) := by
  cases h with
  | beside above h => exact .beside (a :: above) h

/-- What is found ahead of a lesser path is not the least. -/
theorem Ahead.lt {names other : List Bytes}
    (h : Ahead names other) : other < names := by
  cases h with
  | beside above h =>
      exact List.append_left_lt (List.cons_lt_cons_iff.mpr (.inl h))

/-- What the walk comes upon later has the greater path, unless it is ahead
in that way. -/
theorem Before.lt_or_ahead {names other : List Bytes} (h : Before names other) :
    names < other ∨ Ahead names other := by
  induction h with
  | files h => exact .inl (List.cons_lt_cons_iff.mpr (.inl h))
  | @file a b c rest =>
    rcases List.le_total a b with hab | hba
    · refine .inl (List.cons_lt_cons_iff.mpr ?_)
      rcases List.le_iff_lt_or_eq.mp hab with hlt | heq
      · exact .inl hlt
      · exact .inr ⟨heq, List.nil_lt_cons c rest⟩
    · rcases List.le_iff_lt_or_eq.mp hba with hlt | heq
      · exact .inr (.beside [] hlt)
      · exact .inl
          (List.cons_lt_cons_iff.mpr (.inr ⟨heq.symm, List.nil_lt_cons c rest⟩))
  | apart h => exact .inl (List.cons_lt_cons_iff.mpr (.inl h))
  | deeper h ih =>
    rcases ih with hlt | hahead
    · exact .inl (List.cons_lt_cons_iff.mpr (.inr ⟨rfl, hlt⟩))
    · exact .inr (hahead.cons _)

/-- The first of the candidates has the least path but for those ahead. -/
theorem First.le_or_ahead {candidate : List Bytes → Prop}
    {names other : List Bytes} (h : First candidate names)
    (hother : candidate other) :
    names ≤ other ∨ Ahead names other := by
  by_cases hne : other = names
  · exact .inl (hne ▸ List.le_refl names)
  · exact (h.before other hother hne).lt_or_ahead.imp List.le_of_lt id

end Search

-- ============================================================ checkpoint

open Search

variable {files : Files} {matcher : Matcher}

/-- Where anything can be found, the checkpoint is a candidate, and no
other one has a lesser path but those below a directory that stands beside
the checkpoint and has a lesser name. So it is the candidate with the least
path exactly if there are none of these. -/
theorem findCheckpoint_lexical (distinct : files.root.Distinct)
    (matcher : Matcher) (root : Path)
    (exists_candidate : ∃ names, IsCandidate files matcher root names) :
    ∃ names, IsCandidate files matcher root names ∧
      (findCheckpoint files matcher root).1 = .ok (root.joinNames names) ∧
      (∀ other, IsCandidate files matcher root other → names ≤ other ∨
        Ahead names other) ∧
      ((∀ other, IsCandidate files matcher root other → names ≤ other) ↔
        ∀ other, IsCandidate files matcher root other →
          ¬ Ahead names other) := by
  rcases findCheckpoint_cases distinct matcher root with
    ⟨names, hfirst, hfound⟩ | ⟨hnone, -⟩
  · have hleast : ∀ other, IsCandidate files matcher root other →
        names ≤ other ∨ Ahead names other := fun other => hfirst.le_or_ahead
    refine ⟨names, hfirst.holds, hfound, hleast, ?_, ?_⟩
    · intro hle other hother hahead
      exact hle other hother hahead.lt
    · intro hnot other hother
      exact (hleast other hother).resolve_right (hnot other hother)
  · obtain ⟨names, hnames⟩ := exists_candidate
    exact absurd hnames (hnone names)

/-- A directory `in` with a checkpoint, and a directory of a lesser name that
holds another one. -/
def mixed : Files where
  root := .directory true [(name "in", .directory true [
    (name "aeneas_b.pkl", .file [] false),
    (name "a", .directory true [(name "aeneas.pkl", .file [] false)])])]
  workingDirectory := []
where name (text : String) : Bytes := Utf8.encode text

/-- The lesser of the two files. -/
theorem mixed_candidate :
    IsCandidate mixed .default (.ofString "/in")
      [mixed.name "a", mixed.name "aeneas.pkl"] := by
  refine ⟨.directory true [(mixed.name "aeneas_b.pkl", .file [] false),
    (mixed.name "a",
      .directory true [(mixed.name "aeneas.pkl", .file [] false)])],
    by with_unfolding_all rfl, ?_⟩
  refine .deeper (by decide +kernel)
    (List.mem_cons_of_mem _ List.mem_cons_self) ?_
  exact .here (by decide +kernel) List.mem_cons_self rfl (fun h => nomatch h)
    (by decide +kernel)

/-- The other one is found, as it stands right in the root. -/
theorem mixed_found :
    (findCheckpoint mixed .default (.ofString "/in")).1 =
      .ok ((Path.ofString "/in").joinNames [mixed.name "aeneas_b.pkl"]) := by
  cbv

theorem findCheckpoint_lexical_mixed :
    mixed.root.Distinct ∧
    IsCandidate mixed .default (.ofString "/in")
      [mixed.name "a", mixed.name "aeneas.pkl"] ∧
    ∃ names, IsCandidate mixed .default (.ofString "/in") names ∧
      (Path.ofString "/in").joinNames [mixed.name "aeneas_b.pkl"] =
        (Path.ofString "/in").joinNames names ∧
      ∀ other, IsCandidate mixed .default (.ofString "/in") other →
        names ≤ other ∨ Ahead names other := by
  have distinct : mixed.root.Distinct := by
    suffices [mixed.name "aeneas_b.pkl", mixed.name "a"].Nodup by
      simpa [mixed] using this
    decide +kernel
  obtain ⟨names, hcandidate, hfound, hleast, -⟩ :=
    findCheckpoint_lexical distinct .default (.ofString "/in")
      ⟨_, mixed_candidate⟩
  rw [mixed_found] at hfound
  injection hfound with hfound
  exact ⟨distinct, mixed_candidate, names, hcandidate, hfound, hleast⟩

/-- The checkpoint that is found need not have the least path. -/
theorem findCheckpoint_not_least :
    (findCheckpoint mixed .default (.ofString "/in")).1 =
      .ok ((Path.ofString "/in").joinNames [mixed.name "aeneas_b.pkl"]) ∧
    IsCandidate mixed .default (.ofString "/in")
      [mixed.name "a", mixed.name "aeneas.pkl"] ∧
    [mixed.name "a", mixed.name "aeneas.pkl"] < [mixed.name "aeneas_b.pkl"] :=
  ⟨mixed_found, mixed_candidate, by decide +kernel⟩

end Restoration
