/-
An option more among the arguments of a command.

One argument does one of five things (`Advances`), and of what has been
given nothing is lost again (`readFrom_kept`). So if an option is not
given in a whole run of arguments, no argument of it gives it, and the run
goes on in the same way if it has been given before (`readFrom_beside`).

A value in an argument of its own is taken late, but not so late that it
would matter (`readFrom_settled`): what is read of the arguments after it
is the same whether it has been taken or waits. These two carry a run past
an option that is put in where an argument may begin (`readArguments_inserted`).
-/
import Restoration.CommandLine.Reading
import Restoration.Proofs.Text.Decoding

namespace Restoration.CommandLine

variable {verb : Verb} {b : Bytes} {item : Item} {given given' : Given}
  {values : List Bytes}

-- ================================================================ taking

/-- What the values that were found for an item come to. -/
inductive Brings (item : Item) : List Bytes → Value → Prop
  | on {values : List Bytes} (h : item.takesValue = false) :
      Brings item values .on
  | value {value : Bytes} {others : List Bytes} {v : Value}
      (h : item.takesValue = true)
      (hread : readValue item value = .ok v) : Brings item (value :: others) v

/-- What is taken is put before what was given; it was not given before. -/
theorem take_eq_ok_iff : take given item values = .ok given' ↔
    given.has item = false ∧ ∃ v, Brings item values v ∧
      given' = (item, v) :: given := by
  unfold take
  constructor
  · intro h
    split at h
    · cases h
    · rename_i value others htakes
      split at h
      · cases h
      · rename_i hhas
        cases hread : readValue item value with
        | error e =>
            rw [hread] at h
            cases h
        | ok v =>
            rw [hread] at h
            cases h
            exact ⟨Bool.not_eq_true _ ▸ hhas, v, .value htakes hread, rfl⟩
    · rename_i htakes
      split at h
      · cases h
      · rename_i hhas
        cases h
        exact ⟨Bool.not_eq_true _ ▸ hhas, .on, .on htakes, rfl⟩
  · intro h
    obtain ⟨hhas, v, hbrings, rfl⟩ := h
    cases hbrings with
    | on htakes =>
        rw [htakes]
        dsimp only
        rw [hhas]
        rfl
    | value htakes hread =>
        rw [htakes]
        dsimp only
        rw [hhas, hread]
        rfl

/-- A step that may be a misuse and what follows it. -/
theorem bind_misuse_eq_ok_iff {α β : Type} {x : Except Misuse α}
    {f : α → Except Ending β} {y : β} :
    (x.mapError .misuse >>= f) = .ok y ↔ ∃ a, x = .ok a ∧ f a = .ok y := by
  cases x with
  | error e => exact ⟨nofun, fun ⟨_, ha, _⟩ => nomatch ha⟩
  | ok a =>
      constructor
      · intro h
        exact ⟨a, rfl, h⟩
      · intro h
        obtain ⟨_, ha, h⟩ := h
        cases ha
        exact h

namespace Reading

variable {r s t : Reading}

-- ============================================================== settling

/-- What waits is taken, and nothing else changes. -/
theorem settle_eq_ok_iff : r.settle = .ok s ↔ (r.waiting = none ∧ s = r)
    ∨ ∃ item values given, r.waiting = some (item, values)
      ∧ take r.given item values = .ok given
      ∧ s = { r with given := given, waiting := none } := by
  unfold settle
  rcases hwaiting : r.waiting with - | ⟨item, values⟩
  · simp [eq_comm]
  · cases htake : take r.given item values with
    | error e => simp [Except.map, htake]
    | ok given =>
        simp only [Except.map, htake, Except.ok.injEq, Option.some.injEq,
          Prod.mk.injEq, reduceCtorEq, false_and, false_or]
        constructor
        · intro heq
          subst heq
          exact ⟨item, values, given, ⟨rfl, rfl⟩, htake, rfl⟩
        · intro h
          obtain ⟨_, _, given', ⟨rfl, rfl⟩, htake', rfl⟩ := h
          rw [htake] at htake'
          cases htake'
          rfl

/-- Settling ends the waiting and leaves the words as they are. -/
theorem settle_frame (h : r.settle = .ok s) :
    s.waiting = none ∧ s.words = r.words ∧ s.onlyWords = r.onlyWords := by
  rcases settle_eq_ok_iff.mp h with ⟨hwaiting, rfl⟩ |
    ⟨item, values, given, -, -, rfl⟩
  · exact ⟨hwaiting, rfl, rfl⟩
  · exact ⟨rfl, rfl, rfl⟩

/-- Where nothing waits, nothing is to be taken. -/
theorem settle_of_settled (h : r.settle = .ok s) : s.settle = .ok s :=
  settle_eq_ok_iff.mpr (.inl ⟨(settle_frame h).1, rfl⟩)

-- ========================================================== one argument

/-- An argument names an option and may hold a value for it. -/
def Names (verb : Verb) (b : Bytes) (item : Item)
    (value : Option Bytes) : Prop :=
  (∃ name found, shape b = .named name found
      ∧ findNamed verb.options name found = .ok (item, value))
    ∨ ∃ rest, shape b = .lettered rest ∧
      findLettered verb.options rest = .ok (item, value)

/-- What an argument does to a reading. -/
inductive Advances (verb : Verb) (r : Reading) (b : Bytes) : Reading → Prop
  | divider (h : r.onlyWords = false) (hb : shape b = .divider) :
      Advances verb r b { r with onlyWords := true }
  /-- It is the value of the option before it. -/
  | value {item : Item} (h : r.onlyWords = false) (hb : shape b = .word)
      (hwaiting : r.waiting = some (item, [])) :
      Advances verb r b { r with waiting := some (item, [b]) }
  | word {item : Item} {s : Reading}
      (h : r.onlyWords = true ∨ shape b = .word ∧
        ∀ item, r.waiting ≠ some (item, []))
      (hitem : verb.words[r.words]? = some item) (hsettle : r.settle = .ok s) :
      Advances verb r b
        { s with waiting := some (item, [b]), words := r.words + 1 }
  /-- It is an option whose value is to follow. -/
  | opens {item : Item} {s : Reading} (h : r.onlyWords = false)
      (hb : Names verb b item none)
      (htakes : item.takesValue = true) (hsettle : r.settle = .ok s) :
      Advances verb r b { s with waiting := some (item, []) }
  | takes {item : Item} {value : Option Bytes} {s : Reading} {given : Given}
      (h : r.onlyWords = false) (hb : Names verb b item value)
      (hkind : item.takesValue = value.isSome) (hhelp : item ≠ .help)
      (hsettle : r.settle = .ok s)
      (htake : take s.given item value.toList = .ok given) :
      Advances verb r b { s with given := given }

/-- A word is the next one that the command has, and is read once the item
before it is settled. -/
theorem readWord_eq_ok_iff : r.readWord verb b = .ok t ↔ ∃ item s,
    verb.words[r.words]? = some item ∧ r.settle = .ok s
      ∧ t = { s with waiting := some (item, [b]), words := r.words + 1 } := by
  unfold readWord
  constructor
  · intro h
    split at h
    · cases h
    · rename_i item hitem
      obtain ⟨s, hsettle, h⟩ := bind_misuse_eq_ok_iff.mp h
      cases h
      rw [(settle_frame hsettle).2.1]
      exact ⟨item, s, hitem, hsettle, rfl⟩
  · intro h
    obtain ⟨item, s, hitem, hsettle, rfl⟩ := h
    rw [hitem]
    dsimp only
    refine bind_misuse_eq_ok_iff.mpr ⟨s, hsettle, ?_⟩
    rw [(settle_frame hsettle).2.1]

/-- An option waits for its value unless the value came with it or it takes
none. -/
theorem readOption_eq_ok_iff {found : Except Misuse (Item × Option Bytes)} :
    r.readOption verb found = .ok t ↔ ∃ item value s, found = .ok (item, value)
      ∧ r.settle = .ok s
      ∧ ((value = none ∧ item.takesValue = true ∧
        t = { s with waiting := some (item, []) })
        ∨ (item.takesValue = value.isSome ∧ item ≠ .help ∧ ∃ given,
          take s.given item value.toList = .ok given ∧
          t = { s with given := given })) := by
  unfold readOption
  rw [bind_misuse_eq_ok_iff]
  constructor
  · intro h
    obtain ⟨⟨item, value⟩, hfound, h⟩ := h
    dsimp only at h
    split at h
    · rename_i v htakes
      obtain ⟨s, hsettle, h⟩ := bind_misuse_eq_ok_iff.mp h
      obtain ⟨given, htake, h⟩ := bind_misuse_eq_ok_iff.mp h
      cases h
      refine ⟨item, some v, s, hfound, hsettle,
        .inr ⟨htakes, ?_, given, htake, rfl⟩⟩
      intro heq
      subst heq
      cases htakes
    · rename_i htakes
      obtain ⟨s, hsettle, h⟩ := bind_misuse_eq_ok_iff.mp h
      cases h
      exact ⟨item, none, s, hfound, hsettle, .inl ⟨rfl, htakes, rfl⟩⟩
    · cases h
    · rename_i htakes
      obtain ⟨s, hsettle, h⟩ := bind_misuse_eq_ok_iff.mp h
      split at h
      · cases h
      · rename_i hhelp
        obtain ⟨given, htake, h⟩ := bind_misuse_eq_ok_iff.mp h
        cases h
        exact ⟨item, none, s, hfound, hsettle,
          .inr ⟨htakes, hhelp, given, htake, rfl⟩⟩
  · intro h
    obtain ⟨item, value, s, hfound, hsettle, hcases⟩ := h
    refine ⟨(item, value), hfound, ?_⟩
    dsimp only
    rcases hcases with ⟨rfl, htakes, rfl⟩ | ⟨hkind, hhelp, given, htake, rfl⟩
    · rw [htakes]
      exact bind_misuse_eq_ok_iff.mpr ⟨s, hsettle, rfl⟩
    · rw [hkind]
      cases value with
      | some v =>
          exact bind_misuse_eq_ok_iff.mpr ⟨s, hsettle,
            bind_misuse_eq_ok_iff.mpr ⟨given, htake, rfl⟩⟩
      | none =>
          refine bind_misuse_eq_ok_iff.mpr ⟨s, hsettle, ?_⟩
          rw [if_neg hhelp]
          exact bind_misuse_eq_ok_iff.mpr ⟨given, htake, rfl⟩

/-- An argument that names an option is read as the option. -/
theorem readArgument_of_names {value : Option Bytes} (h : r.onlyWords = false)
    (hb : Names verb b item value) :
    r.readArgument verb b = r.readOption verb (.ok (item, value)) := by
  unfold readArgument
  rw [if_neg (by rw [h]; exact Bool.false_ne_true)]
  rcases hb with ⟨name, found, hb, hfound⟩ | ⟨rest, hb, hfound⟩
  · rw [hb, ← hfound]
  · rw [hb, ← hfound]

/-- Of the arguments that can be read, each does one of these things. -/
theorem readArgument_eq_ok_iff :
    r.readArgument verb b = .ok t ↔ Advances verb r b t := by
  unfold readArgument
  constructor
  · intro h
    by_cases honly : r.onlyWords = true
    · rw [if_pos honly] at h
      obtain ⟨item, s, hitem, hsettle, rfl⟩ := readWord_eq_ok_iff.mp h
      exact .word (.inl honly) hitem hsettle
    · rw [if_neg honly] at h
      have hmore : r.onlyWords = false := Bool.not_eq_true _ ▸ honly
      have hoption {found : Except Misuse (Item × Option Bytes)}
          (hread : r.readOption verb found = .ok t)
          (hnames : ∀ item value, found = .ok (item, value) →
            Names verb b item value) :
          Advances verb r b t := by
        obtain ⟨item, value, s, hfound, hsettle, ⟨rfl, htakes, rfl⟩
          | ⟨hkind, hhelp, given, htake, rfl⟩⟩ := readOption_eq_ok_iff.mp hread
        · exact .opens hmore (hnames item none hfound) htakes hsettle
        · exact .takes hmore (hnames item value hfound) hkind hhelp
            hsettle htake
      split at h
      · rename_i hb
        cases h
        exact .divider hmore hb
      · rename_i item hb hwaiting
        cases h
        exact .value hmore hb hwaiting
      · rename_i hb hwaiting
        obtain ⟨item, s, hitem, hsettle, rfl⟩ := readWord_eq_ok_iff.mp h
        exact .word (.inr ⟨hb, hwaiting⟩) hitem hsettle
      · rename_i name found hb
        exact hoption h fun item value hfound => .inl ⟨name, found, hb, hfound⟩
      · rename_i rest hb
        exact hoption h fun item value hfound => .inr ⟨rest, hb, hfound⟩
  · intro h
    cases h with
    | divider h hb =>
        rw [if_neg (by rw [h]; exact Bool.false_ne_true), hb]
    | value h hb hwaiting =>
        rw [if_neg (by rw [h]; exact Bool.false_ne_true), hb, hwaiting]
    | word h hitem hsettle =>
        have hword :=
          readWord_eq_ok_iff (b := b).mpr ⟨_, _, hitem, hsettle, rfl⟩
        split
        · exact hword
        · rename_i honly
          obtain ⟨hb, hwaiting⟩ := h.resolve_left honly
          rw [hb]
          rcases hvalue : r.waiting with - | ⟨item, - | ⟨value, values⟩⟩
          · exact hword
          · exact absurd hvalue (hwaiting item)
          · exact hword
    | opens h hb htakes hsettle =>
        show r.readArgument verb b = _
        rw [readArgument_of_names h hb]
        exact readOption_eq_ok_iff.mpr
          ⟨_, none, _, rfl, hsettle, .inl ⟨rfl, htakes, rfl⟩⟩
    | takes h hb hkind hhelp hsettle htake =>
        show r.readArgument verb b = _
        rw [readArgument_of_names h hb]
        exact readOption_eq_ok_iff.mpr
          ⟨_, _, _, rfl, hsettle, .inr ⟨hkind, hhelp, _, htake, rfl⟩⟩

/-- An option that waits is one that takes a value, and only words follow
where there has been a divider. -/
structure Open (r : Reading) : Prop where
  waiting : ∀ item values, r.waiting = some (item, values) →
    item.takesValue = true
  more : r.onlyWords = false

/-- As long as no divider is read, options may follow. -/
theorem Advances.open (h : Advances verb r b t) (hopen : r.Open)
    (hb : shape b ≠ .divider)
    (hwords : ∀ item ∈ verb.words, item.takesValue = true) : t.Open := by
  have hsettled {s : Reading} (hsettle : r.settle = .ok s) : s.Open := by
    obtain ⟨hwaiting, -, honly⟩ := settle_frame hsettle
    refine ⟨fun item values h => ?_, honly.trans hopen.more⟩
    rw [hwaiting] at h
    cases h
  cases h with
  | divider _ hdivider => exact absurd hdivider hb
  | @value item _ _ hwaiting =>
      refine ⟨fun i values hi => ?_, hopen.more⟩
      cases hi
      exact hopen.waiting item [] hwaiting
  | @word item s _ hitem hsettle =>
      refine ⟨fun i values hi => ?_, (hsettled hsettle).more⟩
      cases hi
      exact hwords item (List.mem_of_getElem? hitem)
  | @opens item s _ _ htakes hsettle =>
      refine ⟨fun i values hi => ?_, (hsettled hsettle).more⟩
      cases hi
      exact htakes
  | takes _ _ _ _ hsettle _ =>
      exact ⟨(hsettled hsettle).waiting, (hsettled hsettle).more⟩

-- ======================================================== many arguments

/-- What is given when arguments are read from some reading on. -/
def readFrom (verb : Verb) (r : Reading)
    (arguments : List Bytes) : Except Ending Given := do
  let r ← arguments.foldlM (readArgument verb) r
  r.finish verb

variable {g g' : Given} {arguments before after : List Bytes}

/-- The arguments are read one by one. -/
theorem readFrom_cons (verb : Verb) (r : Reading) (b : Bytes)
    (arguments : List Bytes) :
    readFrom verb r (b :: arguments)
      = r.readArgument verb b >>= fun t => readFrom verb t arguments := by
  unfold readFrom
  rw [List.foldlM_cons]
  cases r.readArgument verb b <;> rfl

/-- All are read if the first one is and then the rest are. -/
theorem readFrom_cons_eq_ok_iff : readFrom verb r (b :: arguments) = .ok g ↔
    ∃ t, Advances verb r b t ∧ readFrom verb t arguments = .ok g := by
  rw [readFrom_cons]
  cases hread : r.readArgument verb b with
  | error e =>
      refine ⟨nofun, ?_⟩
      intro h
      obtain ⟨t, hadvances, -⟩ := h
      rw [readArgument_eq_ok_iff.mpr hadvances] at hread
      cases hread
  | ok t =>
      refine ⟨fun h => ⟨t, readArgument_eq_ok_iff.mp hread, h⟩, ?_⟩
      intro h
      obtain ⟨t', hadvances, h⟩ := h
      rw [readArgument_eq_ok_iff.mpr hadvances] at hread
      cases hread
      exact h

/-- At the end what waits is taken, and every word has to be there. -/
theorem readFrom_nil_eq_ok_iff : readFrom verb r [] = .ok g ↔
    ∃ s, r.settle = .ok s ∧ (∀ item ∈ verb.words, s.given.has item = true) ∧
      g = s.given := by
  show r.finish verb = _ ↔ _
  unfold finish
  rw [bind_misuse_eq_ok_iff]
  constructor
  · intro h
    obtain ⟨s, hsettle, h⟩ := h
    split at h
    · rename_i hnil
      cases h
      refine ⟨s, hsettle, fun item hitem => ?_, rfl⟩
      have hhas := List.filter_eq_nil_iff.mp hnil item hitem
      simpa using hhas
    · cases h
  · intro h
    obtain ⟨s, hsettle, hwords, rfl⟩ := h
    have hnil : verb.words.filter (!s.given.has ·) = [] :=
      List.filter_eq_nil_iff.mpr fun item hitem => by
        rw [hwords item hitem]; decide
    refine ⟨s, hsettle, ?_⟩
    rw [hnil]

/-- Reading goes on where the arguments before have got it. -/
theorem readFrom_append (h : before.foldlM (readArgument verb) r = .ok t)
    (after : List Bytes) :
    readFrom verb r (before ++ after) = readFrom verb t after := by
  unfold readFrom
  rw [List.foldlM_append, h]
  rfl

-- ========================================================== what is given

section

variable {P : Given → Prop}
  (hP : ∀ {g : Given} {item : Item} {values : List Bytes} {g' : Given},
    take g item values = .ok g' → P g → P g')

include hP

/-- A property of what is given that taking keeps is kept by settling. -/
theorem settle_kept (h : r.settle = .ok s) (hr : P r.given) : P s.given := by
  rcases settle_eq_ok_iff.mp h with
    ⟨-, rfl⟩ | ⟨item, values, given, -, htake, rfl⟩
  · exact hr
  · exact hP htake hr

/-- An argument keeps what taking keeps. -/
theorem Advances.kept (h : Advances verb r b t)
    (hr : P r.given) : P t.given := by
  cases h with
  | divider => exact hr
  | value => exact hr
  | @word item s _ _ hsettle => exact settle_kept (s := s) hP hsettle hr
  | @opens item s _ _ _ hsettle => exact settle_kept (s := s) hP hsettle hr
  | takes _ _ _ _ hsettle htake => exact hP htake (settle_kept hP hsettle hr)

/-- So do many arguments. -/
theorem readFrom_kept (h : readFrom verb r arguments = .ok g)
    (hr : P r.given) : P g := by
  induction arguments generalizing r with
  | nil =>
      obtain ⟨s, hsettle, -, rfl⟩ := readFrom_nil_eq_ok_iff.mp h
      exact settle_kept hP hsettle hr
  | cons b arguments ih =>
      obtain ⟨t, hadvances, h⟩ := readFrom_cons_eq_ok_iff.mp h
      exact ih h (hadvances.kept hP hr)

end

/-- Nothing that was given is lost. -/
theorem lookup_take {values : List Bytes} {i : Item} {v : Value}
    (h : take g item values = .ok g') (hi : g.lookup i = some v) :
    g'.lookup i = some v := by
  obtain ⟨hhas, _, -, rfl⟩ := take_eq_ok_iff.mp h
  have hne : i ≠ item := by
    intro heq
    subst heq
    rw [Given.has, hi] at hhas
    cases hhas
  rw [List.lookup_cons, beq_false_of_ne hne]
  exact hi

/-- Each value is one that its item can have. -/
def Sound (g : Given) : Prop :=
  ∀ i v, g.lookup i = some v → ∃ values, Brings i values v

/-- Taking a value that can be read keeps what is given sound. -/
theorem Sound.take {values : List Bytes} (h : take g item values = .ok g')
    (hg : Sound g) :
    Sound g' := by
  obtain ⟨-, v, hbrings, rfl⟩ := take_eq_ok_iff.mp h
  intro i w hi
  by_cases heq : i = item
  · rw [heq, List.lookup_cons, beq_self_eq_true] at hi
    cases hi
    exact ⟨values, heq ▸ hbrings⟩
  · rw [List.lookup_cons, beq_false_of_ne heq] at hi
    exact hg i w hi

/-- What is given in the end is sound. -/
theorem readArguments_sound
    (h : readArguments verb arguments = .ok g) : Sound g :=
  readFrom_kept (r := .start) Sound.take h nofun

/-- The value of an item that is no port is a text. -/
theorem Sound.lookup_eq_none (h : Sound g) (htakes : item.takesValue = true)
    (hport : item ≠ .port) (htext : g.text? item = none) :
    g.lookup item = none := by
  cases hvalue : g.lookup item with
  | none => rfl
  | some v =>
      obtain ⟨values, hbrings⟩ := h item v hvalue
      cases hbrings with
      | on hno =>
          rw [htakes] at hno
          cases hno
      | value _ hread =>
          unfold readValue at hread
          split at hread
          · cases hread
          · rw [if_neg hport] at hread
            cases hread
            rw [Given.text?, hvalue] at htext
            cases htext

/-- What is not given in the end has not been given before. -/
theorem lookup_eq_none_of_readFrom (h : readFrom verb r arguments = .ok g)
    {i : Item} (hi : g.lookup i = none) : r.given.lookup i = none := by
  cases hv : r.given.lookup i with
  | none => rfl
  | some v =>
      rw [readFrom_kept lookup_take h hv] at hi
      cases hi

-- ========================================================= one more option

/-- Beside one item and its value, the same is given. -/
structure Beside (item : Item) (v : Value) (g g' : Given) : Prop where
  here : g'.lookup item = some v
  others : ∀ i ≠ item, g'.lookup i = g.lookup i

variable {v : Value}

/-- Another item in front changes nothing about the one in question. -/
theorem Beside.cons (h : Beside item v g g') (i : Item) (w : Value)
    (hne : i ≠ item) :
    Beside item v ((i, w) :: g) ((i, w) :: g') := by
  refine ⟨?_, fun j hj => ?_⟩
  · rw [List.lookup_cons, beq_false_of_ne hne.symm]
    exact h.here
  · rw [List.lookup_cons, List.lookup_cons, h.others j hj]

/-- Other items are taken alike with and without the one in question. -/
theorem Beside.take (h : Beside item v g g') {i : Item} {values : List Bytes}
    {taken : Given} (htake : take g i values = .ok taken)
    (hnone : taken.lookup item = none) :
    ∃ taken', CommandLine.take g' i values = .ok taken' ∧
      Beside item v taken taken' := by
  obtain ⟨hhas, w, hbrings, rfl⟩ := take_eq_ok_iff.mp htake
  have hne : i ≠ item := by
    intro heq
    subst heq
    rw [List.lookup_cons, beq_self_eq_true] at hnone
    cases hnone
  have hhas' : g'.has i = false := by
    rw [Given.has, h.others i hne]
    exact hhas
  exact ⟨_, take_eq_ok_iff.mpr ⟨hhas', w, hbrings, rfl⟩, h.cons i w hne⟩

/-- Other items are settled alike. -/
theorem Beside.settle (h : Beside item v r.given g')
    (hsettle : r.settle = .ok s) (hnone : s.given.lookup item = none) :
    ∃ taken',
      Reading.settle { r with given := g' } = .ok { s with given := taken' }
      ∧ Beside item v s.given taken' := by
  rcases settle_eq_ok_iff.mp hsettle with
    ⟨hwaiting, rfl⟩ | ⟨i, values, taken, hwaiting, htake, rfl⟩
  · exact ⟨g', settle_eq_ok_iff.mpr (.inl ⟨hwaiting, rfl⟩), h⟩
  · obtain ⟨taken', htake', hbeside⟩ := h.take htake hnone
    exact ⟨taken',
      settle_eq_ok_iff.mpr (.inr ⟨i, values, taken', hwaiting, htake', rfl⟩),
      hbeside⟩

/-- An argument that does not give the item does the same beside it. -/
theorem Advances.beside (h : Advances verb r b t)
    (hnone : t.given.lookup item = none) (hbeside : Beside item v r.given g') :
    ∃ h', Advances verb { r with given := g' } b { t with given := h' }
      ∧ Beside item v t.given h' := by
  cases h with
  | divider hmore hb => exact ⟨g', .divider hmore hb, hbeside⟩
  | value hmore hb hwaiting => exact ⟨g', .value hmore hb hwaiting, hbeside⟩
  | word hword hitem hsettle =>
      obtain ⟨taken', hsettle', hbeside'⟩ := hbeside.settle hsettle hnone
      exact ⟨taken', .word (r := { r with given := g' }) hword hitem hsettle',
        hbeside'⟩
  | opens hmore hb htakes hsettle =>
      obtain ⟨taken', hsettle', hbeside'⟩ := hbeside.settle hsettle hnone
      exact ⟨taken',
        .opens (r := { r with given := g' }) hmore hb htakes hsettle', hbeside'⟩
  | @takes i value s taken hmore hb hkind hhelp hsettle htake =>
      have hsettled : s.given.lookup item = none := by
        cases hw : s.given.lookup item with
        | none => rfl
        | some w =>
            have hnone : taken.lookup item = none := hnone
            rw [lookup_take htake hw] at hnone
            cases hnone
      obtain ⟨between, hsettle', hbetween⟩ := hbeside.settle hsettle hsettled
      obtain ⟨taken', htake', hbeside'⟩ := hbetween.take htake hnone
      have hadvances :=
        Advances.takes (r := { r with given := g' }) hmore hb hkind hhelp
        hsettle' htake'
      exact ⟨taken', hadvances, hbeside'⟩

/-- A run that does not give the item goes on in the same way beside it. -/
theorem readFrom_beside (h : readFrom verb r arguments = .ok g)
    (hnone : g.lookup item = none) (hitem : item ∉ verb.words)
    (hbeside : Beside item v r.given g') :
    ∃ h', readFrom verb { r with given := g' } arguments = .ok h' ∧
      Beside item v g h' := by
  induction arguments generalizing r g' with
  | nil =>
      obtain ⟨s, hsettle, hwords, rfl⟩ := readFrom_nil_eq_ok_iff.mp h
      obtain ⟨taken', hsettle', hbeside'⟩ := hbeside.settle hsettle hnone
      refine ⟨taken',
        readFrom_nil_eq_ok_iff.mpr ⟨_, hsettle', fun i hi => ?_, rfl⟩, hbeside'⟩
      have hne : i ≠ item := fun heq => hitem (heq ▸ hi)
      show Given.has taken' i = true
      rw [Given.has, hbeside'.others i hne]
      exact hwords i hi
  | cons b arguments ih =>
      obtain ⟨t, hadvances, h⟩ := readFrom_cons_eq_ok_iff.mp h
      obtain ⟨between, hadvances', hbetween⟩ :=
        hadvances.beside (lookup_eq_none_of_readFrom h hnone) hbeside
      obtain ⟨h', hread, hbeside'⟩ := ih h hbetween
      exact ⟨h', readFrom_cons_eq_ok_iff.mpr ⟨_, hadvances', hread⟩, hbeside'⟩

-- ====================================================== what is taken late

/-- Reading a word settles first. -/
theorem readWord_settled (hsettle : r.settle = .ok s) :
    r.readWord verb b = s.readWord verb b := by
  unfold readWord
  rw [(settle_frame hsettle).2.1, hsettle, settle_of_settled hsettle]

/-- So does reading an option. -/
theorem readOption_settled (hsettle : r.settle = .ok s)
    (found : Except Misuse (Item × Option Bytes)) :
    r.readOption verb found = s.readOption verb found := by
  unfold readOption
  rw [hsettle, settle_of_settled hsettle]

/-- Only a divider leaves what waits as it is. -/
theorem readArgument_settled (hsettle : r.settle = .ok s)
    (hwaiting : ∀ item, r.waiting ≠ some (item, []))
    (hb : r.onlyWords = true ∨ shape b ≠ .divider) :
    r.readArgument verb b = s.readArgument verb b := by
  obtain ⟨hnothing, -, honly⟩ := settle_frame hsettle
  have hword : r.readWord verb b = s.readWord verb b := readWord_settled hsettle
  unfold readArgument
  rw [honly, hnothing]
  by_cases hmore : r.onlyWords = true
  · rw [if_pos hmore, if_pos hmore, hword]
  · rw [if_neg hmore, if_neg hmore]
    cases hshape : shape b with
    | divider => exact absurd hshape (hb.resolve_left hmore)
    | named name found => exact readOption_settled hsettle _
    | lettered rest => exact readOption_settled hsettle _
    | word =>
        rcases hvalue : r.waiting with - | ⟨item, - | ⟨value, values⟩⟩
        · exact hword
        · exact absurd hvalue (hwaiting item)
        · exact hword

/-- It makes no difference to the arguments after it whether a value has
been taken or waits. -/
theorem readFrom_settled (hsettle : r.settle = .ok s)
    (hwaiting : ∀ item, r.waiting ≠ some (item, [])) (arguments : List Bytes) :
    readFrom verb r arguments = readFrom verb s arguments := by
  induction arguments generalizing r s with
  | nil =>
      show r.finish verb = s.finish verb
      unfold finish
      rw [hsettle, settle_of_settled hsettle]
  | cons b arguments ih =>
      rw [readFrom_cons, readFrom_cons]
      by_cases hb : r.onlyWords = true ∨ shape b ≠ .divider
      · rw [readArgument_settled hsettle hwaiting hb]
      · obtain ⟨hmore, hb⟩ := not_or.mp hb
        have hmore : r.onlyWords = false := Bool.not_eq_true _ ▸ hmore
        have hb : shape b = .divider := Decidable.not_not.mp hb
        have hmore' : s.onlyWords = false :=
          (settle_frame hsettle).2.2.trans hmore
        rw [readArgument_eq_ok_iff.mpr (.divider hmore hb),
          readArgument_eq_ok_iff.mpr (.divider hmore' hb)]
        refine ih ?_ hwaiting
        rcases settle_eq_ok_iff.mp hsettle with
          ⟨hnothing, rfl⟩ | ⟨item, values, given, hvalue, htake, rfl⟩
        · exact settle_eq_ok_iff.mpr (.inl ⟨hnothing, rfl⟩)
        · exact settle_eq_ok_iff.mpr
            (.inr ⟨item, values, given, hvalue, htake, rfl⟩)

/-- Options may follow any arguments without a divider. -/
theorem foldlM_open (hread : before.foldlM (readArgument verb) r = .ok t)
    (hopen : r.Open) (hb : ∀ b ∈ before, shape b ≠ .divider)
    (hwords : ∀ item ∈ verb.words, item.takesValue = true) : t.Open := by
  induction before generalizing r with
  | nil =>
      cases hread
      exact hopen
  | cons b before ih =>
      obtain ⟨hdivider, hb⟩ := List.forall_mem_cons.mp hb
      rw [List.foldlM_cons] at hread
      cases hargument : r.readArgument verb b with
      | error e =>
          rw [hargument] at hread
          cases hread
      | ok u =>
          rw [hargument] at hread
          have hargument := readArgument_eq_ok_iff.mp hargument
          exact ih hread (hargument.open hopen hdivider hwords) hb

/-- An option that waits for its value cannot be taken. -/
theorem Open.waiting_ne (hopen : r.Open) (hsettle : r.settle = .ok s)
    (item : Item) :
    r.waiting ≠ some (item, []) := by
  intro hwaiting
  rcases settle_eq_ok_iff.mp hsettle with ⟨hnothing, -⟩ |
    ⟨i, values, given, hvalue, htake, -⟩
  · rw [hnothing] at hwaiting
    cases hwaiting
  · rw [hwaiting] at hvalue
    cases hvalue
    obtain ⟨-, v, hbrings, -⟩ := take_eq_ok_iff.mp htake
    cases hbrings with
    | on htakes =>
        rw [hopen.waiting item [] hwaiting] at htakes
        cases htakes

end Reading

open Reading

variable {before after : List Bytes} {name value : Bytes} {v : Value}
  {g₀ g : Given}

/-- An option and its value are put in where an argument may begin, and
were not given: then they are given, and everything else is as it was. -/
theorem readArguments_inserted (hname : Names verb name item none)
    (htakes : item.takesValue = true) (hvalue : shape value = .word)
    (hread : readValue item value = .ok v)
    (hwords : ∀ i ∈ verb.words, i.takesValue = true ∧ i ≠ item)
    (hbefore : readArguments verb before = .ok g₀)
    (hopen : ∀ b ∈ before, shape b ≠ .divider)
    (hall : readArguments verb (before ++ after) = .ok g)
    (hnone : g.lookup item = none) :
    ∃ g', readArguments verb (before ++ name :: value :: after) = .ok g' ∧
      Beside item v g g' := by
  obtain ⟨r, hr⟩ : ∃ r, before.foldlM (readArgument verb) .start = .ok r := by
    cases hr : before.foldlM (readArgument verb) .start with
    | ok r => exact ⟨r, rfl⟩
    | error e =>
        unfold readArguments at hbefore
        rw [hr] at hbefore
        cases hbefore
  have hsplit (rest : List Bytes) : readArguments verb (before ++ rest)
      = readFrom verb r rest :=
    readFrom_append hr rest
  have hr_open : r.Open :=
    foldlM_open hr ⟨nofun, rfl⟩ hopen fun i hi => (hwords i hi).1
  obtain ⟨s, hsettle, -, -⟩ : ∃ s, r.settle = .ok s
      ∧ (∀ i ∈ verb.words, s.given.has i = true) ∧ g₀ = s.given := by
    have hend := hsplit []
    rw [List.append_nil, hbefore] at hend
    exact readFrom_nil_eq_ok_iff.mp hend.symm
  obtain ⟨hnothing, -, honly⟩ := settle_frame hsettle
  -- what waits before the option is taken as it comes
  rw [hsplit, readFrom_settled hsettle (hr_open.waiting_ne hsettle)] at hall
  have hs_none : s.given.lookup item = none :=
    lookup_eq_none_of_readFrom hall hnone
  have hhas : s.given.has item = false := by
    rw [Given.has, hs_none]
    rfl
  have hbeside : Beside item v s.given ((item, v) :: s.given) := by
    refine ⟨?_, fun i hi => ?_⟩
    · rw [List.lookup_cons, beq_self_eq_true]
    · rw [List.lookup_cons, beq_false_of_ne hi]
  obtain ⟨g', hgiven, hg'⟩ :=
    readFrom_beside hall hnone (fun hi => (hwords item hi).2 rfl) hbeside
  -- and so is what waits behind it
  have htaken : Reading.settle { s with waiting := some (item, [value]) }
      = .ok { s with given := (item, v) :: s.given } := by
    refine settle_eq_ok_iff.mpr (.inr ⟨item, [value], _, rfl,
      take_eq_ok_iff.mpr ⟨hhas, v, .value htakes hread, rfl⟩, ?_⟩)
    rw [hnothing]
  refine ⟨g', ?_, hg'⟩
  rw [hsplit]
  refine readFrom_cons_eq_ok_iff.mpr
    ⟨_, .opens hr_open.more hname htakes hsettle, ?_⟩
  refine readFrom_cons_eq_ok_iff.mpr
    ⟨_, .value (honly.trans hr_open.more) hvalue rfl, ?_⟩
  rw [readFrom_settled htaken nofun]
  exact hgiven

end Restoration.CommandLine
