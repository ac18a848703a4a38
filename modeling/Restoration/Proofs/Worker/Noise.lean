/-
Noise in what a worker says: lines that are text and no object.

A session reads lines through `firstMessage`, `take` and `takeSome`, and
each of the three commutes with taking noise away (`heeded`), so none of
them sees more than that. Noise may be put into a worker's output at the
start of any line (`Inserted`). That is about bytes, and it has to be
followed through the cutting of lines: a worker goes on with the line that
it was in the middle of when it was last asked (`Output.cut_inserted`).
-/
import Restoration.Proofs.Worker.Calls

namespace Restoration.Worker

open Json (Value)

variable {line : Bytes}

-- ========================================================== heeded lines

/-- A line is text and no object. -/
def IsNoise (line : Bytes) : Prop := read line = .noise

instance (line : Bytes) : Decidable (IsNoise line) :=
  match h : read line with
  | .noise => isTrue h
  | .message _ => isFalse fun h' => by rw [IsNoise, h] at h'; cases h'
  | .fault _ => isFalse fun h' => by rw [IsNoise, h] at h'; cases h'

/-- The lines that are not noise. -/
def heeded (lines : List Bytes) : List Bytes :=
  lines.filter fun l => ¬ IsNoise l

theorem heeded_append (a b : List Bytes) :
    heeded (a ++ b) = heeded a ++ heeded b :=
  List.filter_append a b

theorem heeded_noise (h : IsNoise line) (lines : List Bytes) :
    heeded (line :: lines) = heeded lines :=
  List.filter_cons_of_neg (by simpa using h)

theorem heeded_cons (h : ¬ IsNoise line) (lines : List Bytes) :
    heeded (line :: lines) = line :: heeded lines :=
  List.filter_cons_of_pos (by simpa using h)

/-- Every call passes over noise and tells nothing. -/
theorem judge_noise (h : IsNoise line) (id : String) :
    judge id line = .skip [] := by
  unfold judge
  rw [show read line = .noise from h]

namespace Session

/-- The first message is found among the lines that are heeded. -/
theorem firstMessage_heeded (lines : List Bytes) :
    firstMessage (heeded lines)
      = (firstMessage lines).map fun found => (found.1, heeded found.2) := by
  induction lines with
  | nil => rfl
  | cons line lines ih =>
      by_cases h : IsNoise line
      · rw [heeded_noise h, ih, firstMessage, show read line = .noise from h]
      · rw [heeded_cons h, firstMessage, firstMessage]
        cases hread : read line with
        | noise => exact absurd hread h
        | message members => rfl
        | fault f => rfl

/-- What a call takes hangs on the lines that are heeded. -/
theorem take_heeded (id : String) (lines : List Bytes) :
    take id (heeded lines)
      = ⟨(take id lines).result, (take id lines).events,
        heeded (take id lines).rest⟩ := by
  induction lines with
  | nil => rfl
  | cons line lines ih =>
      by_cases h : IsNoise line
      · rw [heeded_noise h, ih, take, judge_noise h]
        rfl
      · rw [heeded_cons h, take, take]
        cases judge id line with
        | decide result => rfl
        | skip events =>
            dsimp only
            rw [ih]

/-- A call that is given up while it reads may have been given up as well
when there was no noise; -/
theorem takeSome_heeded (id : String) (n : Nat) (lines : List Bytes) :
    ∃ m, takeSome id m (heeded lines)
      = ⟨none, (takeSome id n lines).events,
        heeded (takeSome id n lines).rest⟩ := by
  fun_induction takeSome id n lines with
  | case1 lines => exact ⟨0, by rw [takeSome]⟩
  | case2 => exact ⟨0, rfl⟩
  | case3 n line rest result hline =>
      exact ⟨0, by rw [takeSome]⟩
  | case4 n line rest events hline later ih =>
      obtain ⟨m, hm⟩ := ih
      by_cases h : IsNoise line
      · refine ⟨m, ?_⟩
        rw [judge_noise h] at hline
        injection hline with hline
        rw [heeded_noise h, hm, ← hline]
        rfl
      · refine ⟨m + 1, ?_⟩
        rw [heeded_cons h, takeSome, hline]
        dsimp only
        rw [hm]

/-- and the other way round. -/
theorem takeSome_of_heeded (id : String) (m : Nat) (lines : List Bytes) :
    ∃ n, (takeSome id n lines).events = (takeSome id m (heeded lines)).events
      ∧ heeded (takeSome id n lines).rest
        = (takeSome id m (heeded lines)).rest := by
  induction lines generalizing m with
  | nil => exact ⟨m, by cases m <;> exact ⟨rfl, rfl⟩⟩
  | cons line lines ih =>
      cases m with
      | zero =>
          exact ⟨0, by rw [takeSome, takeSome], by rw [takeSome, takeSome]⟩
      | succ m =>
          by_cases h : IsNoise line
          · obtain ⟨n, hevents, hrest⟩ := ih (m + 1)
            refine ⟨n + 1, ?_, ?_⟩
            · rw [heeded_noise h, takeSome, judge_noise h]
              exact hevents
            · rw [heeded_noise h, takeSome, judge_noise h]
              exact hrest
          · rw [heeded_cons h, takeSome]
            cases hjudge : judge id line with
            | decide result =>
                exact ⟨0, by rw [takeSome], by
                  rw [takeSome]; exact heeded_cons h lines⟩
            | skip events =>
                obtain ⟨n, hevents, hrest⟩ := ih m
                refine ⟨n + 1, ?_, ?_⟩
                · rw [takeSome, hjudge]
                  dsimp only
                  rw [hevents]
                · rw [takeSome, hjudge]
                  exact hrest

end Session

-- ============================================================== insertion

/-- Bytes into which lines have been put, each at the start of a line. The
line that is under way at first has been started, last byte first. -/
inductive Inserted (P : Bytes → Prop) : Bytes → Bytes → Bytes → Prop
  | done (start : Bytes) : Inserted P start [] []
  | byte {start x y : Bytes} (b : UInt8)
      (h : Inserted P (if b = 10 then [] else b :: start) x y) :
      Inserted P start (b :: x) (b :: y)
  | line {x y : Bytes} (l : Bytes) (hline : (10 : UInt8) ∉ l)
      (hl : P (Output.lineOf l.reverse)) (h : Inserted P [] x y) :
      Inserted P [] x (l ++ 10 :: y)

/-- Nothing need be put in. -/
theorem Inserted.refl (P : Bytes → Prop) (start x : Bytes) :
    Inserted P start x x := by
  induction x generalizing start with
  | nil => exact .done start
  | cons b x ih => exact .byte b (ih _)

namespace Output

/-- Two outputs are the same but for lines of noise. -/
structure Alike (o o' : Output) : Prop where
  start : o.start = o'.start
  lines : heeded o.lines = heeded o'.lines

/-- A line feed ends the line that has been started. -/
theorem cut_line {l : Bytes} (hline : (10 : UInt8) ∉ l) (start y : Bytes) :
    cut start (l ++ 10 :: y)
      = ⟨lineOf (l.reverse ++ start) :: (cut [] y).lines,
        (cut [] y).start⟩ := by
  induction l generalizing start with
  | nil =>
      rw [List.nil_append, cut, if_pos rfl]
      rfl
  | cons b l ih =>
      rw [List.mem_cons, not_or] at hline
      rw [List.cons_append, cut, if_neg (Ne.symm hline.1), ih hline.2,
        List.reverse_cons, List.append_assoc]
      rfl

/-- Lines of noise that are put into bytes are lines of noise. -/
theorem cut_inserted {start x y : Bytes} (h : Inserted IsNoise start x y) :
    Alike (cut start x) (cut start y) := by
  induction h with
  | done start => exact ⟨rfl, rfl⟩
  | @byte start x y b h ih =>
      rw [cut, cut]
      by_cases hb : b = 10
      · rw [if_pos hb] at ih
        rw [if_pos hb, if_pos hb]
        refine ⟨ih.start, ?_⟩
        dsimp only
        rw [← List.singleton_append, heeded_append, ih.lines, ← heeded_append,
          List.singleton_append]
      · rw [if_neg hb] at ih
        rw [if_neg hb, if_neg hb]
        exact ih
  | line l hline hl h ih =>
      rw [cut_line hline, List.append_nil]
      exact ⟨ih.start, by rw [heeded_noise hl, ih.lines]⟩

/-- Outputs that are alike end alike. -/
theorem Alike.close {o o' : Output} (h : Alike o o') :
    Alike o.close o'.close := by
  obtain ⟨lines, start⟩ := o
  obtain ⟨lines', start'⟩ := o'
  obtain ⟨hstart, hlines⟩ := h
  dsimp only at hstart hlines
  subst hstart
  cases start with
  | nil => exact ⟨rfl, hlines⟩
  | cons b start =>
      exact ⟨rfl, by
        dsimp only [Output.close]
        rw [heeded_append, heeded_append, hlines]⟩

/-- Outputs stay alike if what is said next differs in noise only. -/
theorem Alike.react {o o' : Output} (h : Alike o o') {r r' : Reaction}
    (hwords : Inserted IsNoise o.start r.words r'.words)
    (hleaves : r.leaves = r'.leaves) :
    Alike (o.react r) (o'.react r') := by
  have happend : Alike (o.append r.words) (o'.append r'.words) := by
    obtain ⟨hstart, hlines⟩ := cut_inserted hwords
    unfold append
    rw [← h.start]
    exact ⟨hstart, by rw [heeded_append, heeded_append, h.lines, hlines]⟩
  unfold Output.react
  rw [hleaves]
  split
  · exact happend.close
  · exact happend

end Output

namespace Peer

/-- A worker says what another says, with lines put in, and leaves when
the other leaves. -/
structure Inserted (P : Bytes → Prop) (p q : Peer) : Prop where
  greeting : Worker.Inserted P [] p.greeting.words q.greeting.words
    ∧ p.greeting.leaves = q.greeting.leaves
  react : ∀ heard line, Worker.Inserted P (p.said heard).start
      (p.react (heard ++ [line])).words (q.react (heard ++ [line])).words
    ∧ (p.react (heard ++ [line])).leaves = (q.react (heard ++ [line])).leaves

/-- Two workers say the same but for noise. -/
structure Alike (p q : Peer) : Prop where
  said : ∀ heard, (p.said heard).Alike (q.said heard)
  gone : ∀ heard, p.gone heard = q.gone heard

theorem Alike.symm {p q : Peer} (h : p.Alike q) : q.Alike p :=
  ⟨fun heard => ⟨(h.said heard).start.symm, (h.said heard).lines.symm⟩,
    fun heard => (h.gone heard).symm⟩

/-- Noise that is put in is all that differs. -/
theorem Inserted.alike {p q : Peer} (h : Inserted IsNoise p q) : p.Alike q := by
  constructor
  · intro heard
    induction heard using List.reverseRecOn with
    | nil => exact Output.Alike.react ⟨rfl, rfl⟩ h.greeting.1 h.greeting.2
    | append_singleton heard line ih =>
        obtain ⟨hwords, hleaves⟩ := h.react heard line
        rw [said_concat, said_concat]
        exact ih.react hwords hleaves
  · intro heard
    induction heard using List.reverseRecOn with
    | nil => exact h.greeting.2
    | append_singleton heard line _ =>
        rw [gone_concat, gone_concat]
        exact (h.react heard line).2

end Peer

end Restoration.Worker
