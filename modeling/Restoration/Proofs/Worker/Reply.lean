/-
What a line of the worker says, in terms of the members of its object. A
line answers a call if it is a well-formed message with the call's id, and
what it tells is then read off its error and its result. It complains if
it has an error and no id. These two kinds are the only ones that end a
call, and a line that is no text is the only other thing that does:
`judge_cases` is the whole of it, and every proof about sessions reads
lines through it.
-/
import Restoration.Worker.Message

namespace Restoration.Worker

open Json (Value)

variable {line : Bytes} {members : Json.Members} {id : String}

-- ============================================================== messages

/-- A line is an object with the given members. -/
def IsMessage (line : Bytes) (members : Json.Members) : Prop :=
  ∃ text, Utf8.decode line = .ok text
    ∧ Json.readText text = .ok (.object members)

/-- Nothing at all, or `null`. -/
def IsNothing (v : Option Value) : Prop := v = none ∨ v = some .null

/-- Nothing, or a string. -/
def IsTextOrNothing (v : Option Value) : Prop :=
  IsNothing v ∨ ∃ s, v = some (.string s)

/-- The members that matter have the right types. -/
structure WellFormed (members : Json.Members) : Prop where
  id : IsTextOrNothing (members.get? "id")
  error : IsTextOrNothing (members.get? "error")

/-- What a message tells: its error if it has one, else its result, and
that it is empty if it has neither. -/
def told (members : Json.Members) : Except Failure Value :=
  match members.get? "error" with
  | some (.string words) => .error (.worker (.stated words))
  | _ =>
    match members.get? "result" with
    | none => .error (.worker .emptyReply)
    | some .null => .error (.worker .emptyReply)
    | some v => .ok v

/-- A line answers the call with a given id. -/
structure Answers (line : Bytes) (id : String) (members : Json.Members) :
    Prop where
  message : IsMessage line members
  wellFormed : WellFormed members
  id : members.get? "id" = some (.string id)

/-- A line complains: it has an error and does not say whom it answers. -/
structure Complains (line : Bytes) (words : String) (members : Json.Members) :
    Prop where
  message : IsMessage line members
  id : IsNothing (members.get? "id")
  error : members.get? "error" = some (.string words)

/-- A line means nothing to the call with a given id. -/
def PassedOver (id : String) (line : Bytes) : Prop :=
  ∃ events, judge id line = .skip events

-- =============================================================== reading

theorem read_eq_message_iff :
    read line = .message members ↔ IsMessage line members := by
  unfold read IsMessage
  constructor
  · intro h
    split at h
    case h_1 => cases h
    case h_2 text htext =>
        split at h
        case h_1 ms hread =>
            injection h with h
            subst h
            exact ⟨text, htext, hread⟩
        case h_2 => cases h
  · rintro ⟨text, htext, hread⟩
    rw [htext]
    dsimp only
    rw [hread]

/-- Members are those of one object only. -/
theorem IsMessage.unique {members' : Json.Members} (h : IsMessage line members)
    (h' : IsMessage line members') : members = members' := by
  have heq :=
    (read_eq_message_iff.mpr h).symm.trans (read_eq_message_iff.mpr h')
  injection heq

/-- A line is not text exactly if its reading says so. -/
theorem read_eq_fault_iff {f : Utf8.Fault} :
    read line = .fault f ↔ Utf8.decode line = .error f := by
  unfold read
  cases Utf8.decode line with
  | error g => simp
  | ok text =>
      dsimp only
      split <;> simp

/-- A line is noise exactly if it is text and no object. -/
theorem read_eq_noise_iff :
    read line = .noise ↔ (∃ text, Utf8.decode line = .ok text)
      ∧ ∀ members, ¬ IsMessage line members := by
  constructor
  · intro h
    refine ⟨?_, fun members hmessage => ?_⟩
    · cases hdecode : Utf8.decode line with
      | ok text => exact ⟨text, rfl⟩
      | error f => rw [read_eq_fault_iff.mpr hdecode] at h; cases h
    · rw [read_eq_message_iff.mpr hmessage] at h
      cases h
  · rintro ⟨⟨text, htext⟩, hmessage⟩
    cases hread : read line with
    | noise => rfl
    | fault f => rw [read_eq_fault_iff.mp hread] at htext; cases htext
    | message members =>
        exact absurd (read_eq_message_iff.mp hread) (hmessage members)

-- ============================================================== decoding

/-- The string that a member is, if it is one. -/
def text? : Option Value → Option String
  | some (.string s) => some s
  | _ => none

/-- Nothing and strings are what an optional string is read from. -/
theorem wantOptionalString_eq_ok {v : Option Value} (h : IsTextOrNothing v) :
    Json.wantOptionalString v = .ok (text? v) := by
  rcases h with (rfl | rfl) | ⟨s, rfl⟩ <;> rfl

theorem isTextOrNothing_of_ok {v : Option Value} {s : Option String}
    (h : Json.wantOptionalString v = .ok s) : IsTextOrNothing v := by
  rcases v with - | v
  · exact Or.inl (Or.inl rfl)
  · cases v with
    | null => exact Or.inl (Or.inr rfl)
    | string t => exact Or.inr ⟨t, rfl⟩
    | bool _ => cases h
    | number _ => cases h
    | array _ => cases h
    | object _ => cases h

/-- Anything else is refused as it stands. -/
theorem wantOptionalString_eq_error_iff {v : Option Value} {e : Json.Error} :
    Json.wantOptionalString v = .error e
      ↔ ∃ w, v = some w ∧ ¬ IsTextOrNothing v ∧
        e = .wrongType w "a string" := by
  constructor
  · intro h
    have hform : ¬ IsTextOrNothing v := by
      intro hform
      rw [wantOptionalString_eq_ok hform] at h
      cases h
    rcases v with - | v
    · exact absurd (Or.inl (Or.inl rfl)) hform
    · refine ⟨v, rfl, hform, ?_⟩
      cases v with
      | null => exact absurd (Or.inl (Or.inr rfl)) hform
      | string t => exact absurd (Or.inr ⟨t, rfl⟩) hform
      | bool _ => cases h; rfl
      | number _ => cases h; rfl
      | array _ => cases h; rfl
      | object _ => cases h; rfl
  · rintro ⟨w, rfl, hform, rfl⟩
    cases w with
    | null => exact absurd (Or.inl (Or.inr rfl)) hform
    | string t => exact absurd (Or.inr ⟨t, rfl⟩) hform
    | bool _ => rfl
    | number _ => rfl
    | array _ => rfl
    | object _ => rfl

/-- A well-formed message is a reply. -/
theorem ofMembers_of_wellFormed (h : WellFormed members) :
    Reply.ofMembers members
      = .ok ⟨text? (members.get? "id"), notNull (members.get? "result"),
          text? (members.get? "error")⟩ := by
  unfold Reply.ofMembers
  rw [wantOptionalString_eq_ok h.error, wantOptionalString_eq_ok h.id]
  rfl

/-- Only a well-formed message is a reply. -/
theorem wellFormed_of_ofMembers {r : Reply}
    (h : Reply.ofMembers members = .ok r) :
    WellFormed members := by
  unfold Reply.ofMembers at h
  cases herror : Json.wantOptionalString (members.get? "error") with
  | error e => rw [herror] at h; cases h
  | ok error =>
      cases hid : Json.wantOptionalString (members.get? "id") with
      | error e => rw [herror, hid] at h; cases h
      | ok id => exact ⟨isTextOrNothing_of_ok hid, isTextOrNothing_of_ok herror⟩

/-- The outcome of a reply is what its message tells. -/
theorem outcome_eq_told (members : Json.Members) (id : Option String) :
    Reply.outcome ⟨id, notNull (members.get? "result"),
      text? (members.get? "error")⟩ = told members := by
  unfold Reply.outcome told
  rcases members.get? "error" with - | error
  · rcases members.get? "result" with - | result
    · rfl
    · cases result <;> rfl
  · cases error with
    | string words => rfl
    | _ =>
        rcases members.get? "result" with - | result
        · rfl
        · cases result <;> rfl

theorem told_of_error {words : String}
    (h : members.get? "error" = some (.string words)) :
    told members = .error (.worker (.stated words)) := by
  unfold told
  rw [h]

/-- Without an error, the result is told unless it is nothing. -/
theorem told_of_result {v : Value} (herror : IsNothing (members.get? "error"))
    (hresult : members.get? "result" = some v) (hne : v ≠ .null) :
    told members = .ok v := by
  unfold told
  rw [hresult]
  rcases herror with herror | herror <;> rw [herror] <;> cases v <;>
    first | rfl | contradiction

theorem told_of_nothing (herror : IsNothing (members.get? "error"))
    (hresult : IsNothing (members.get? "result")) :
    told members = .error (.worker .emptyReply) := by
  unfold told
  rcases herror with herror | herror <;> rcases hresult with
    hresult | hresult <;> rw [herror, hresult]

/-- What a complaint tells is its error. -/
theorem Complains.told_eq {words : String} (h : Complains line words members) :
    told members = .error (.worker (.stated words)) :=
  told_of_error h.error

theorem Complains.wellFormed {words : String}
    (h : Complains line words members) :
    WellFormed members :=
  ⟨Or.inl h.id, Or.inr ⟨words, h.error⟩⟩

-- =============================================================== judging

/-- A line that is no text ends every call. -/
theorem judge_of_fault {f : Utf8.Fault} (h : Utf8.decode line = .error f)
    (id : String) : judge id line = .decide (.error (.io (.notText f))) := by
  unfold judge
  rw [read_eq_fault_iff.mpr h]

/-- A line that answers a call ends it. -/
theorem Answers.judge (h : Answers line id members) :
    judge id line = .decide (told members) := by
  unfold Worker.judge
  rw [read_eq_message_iff.mpr h.message]
  dsimp only
  rw [ofMembers_of_wellFormed h.wellFormed]
  dsimp only
  rw [if_neg (by simp [Reply.isForeign, text?, h.id]), outcome_eq_told]

/-- A complaint ends every call. -/
theorem Complains.judge {words : String} (h : Complains line words members)
    (id : String) :
    judge id line = .decide (.error (.worker (.stated words))) := by
  unfold Worker.judge
  rw [read_eq_message_iff.mpr h.message]
  dsimp only
  rw [ofMembers_of_wellFormed h.wellFormed]
  dsimp only
  have hid : text? (members.get? "id") = none := by
    rcases h.id with hid | hid <;> rw [hid] <;> rfl
  have herror : text? (members.get? "error") = some words := by
    rw [h.error]; rfl
  rw [if_neg (by rw [hid, herror]; exact Bool.false_ne_true), outcome_eq_told,
    h.told_eq]

/-- A reply that is foreign to a call is passed over. -/
theorem passedOver_of_isForeign (hmessage : IsMessage line members)
    (hwell : WellFormed members)
    (hforeign : Reply.isForeign ⟨text? (members.get? "id"),
      notNull (members.get? "result"), text? (members.get? "error")⟩
    id = true) :
    PassedOver id line := by
  unfold PassedOver judge
  rw [read_eq_message_iff.mpr hmessage]
  dsimp only
  rw [ofMembers_of_wellFormed hwell]
  dsimp only
  rw [if_pos hforeign]
  exact ⟨_, rfl⟩

/-- Nothing else ends a call: a line is no text, answers the call,
complains, or is passed over. -/
theorem judge_cases (id : String) (line : Bytes) :
    (∃ f, Utf8.decode line = .error f) ∨ (∃ members, Answers line id members)
      ∨ (∃ words members, Complains line words members) ∨
      PassedOver id line := by
  cases hread : read line with
  | fault f => exact Or.inl ⟨f, read_eq_fault_iff.mp hread⟩
  | noise => exact Or.inr (Or.inr (Or.inr ⟨[], by unfold judge; rw [hread]⟩))
  | message members =>
      have hmessage := read_eq_message_iff.mp hread
      cases hreply : Reply.ofMembers members with
      | error e =>
          refine Or.inr (Or.inr (Or.inr ⟨[.malformedReply e], ?_⟩))
          unfold judge
          rw [hread]
          dsimp only
          rw [hreply]
      | ok reply =>
          have hwell := wellFormed_of_ofMembers hreply
          rcases hwell.id with hid | ⟨other, hid⟩
          · have hnone : text? (members.get? "id") = none := by
              rcases hid with hid | hid <;> rw [hid] <;> rfl
            rcases hwell.error with herror | ⟨words, herror⟩
            · -- neither an id nor an error
              refine Or.inr (Or.inr (Or.inr
                (passedOver_of_isForeign hmessage hwell ?_)))
              rw [hnone]
              rcases herror with herror | herror <;> rw [herror] <;> rfl
            · exact Or.inr (Or.inr (Or.inl
                ⟨words, members, hmessage, hid, herror⟩))
          · by_cases hother : other = id
            · exact Or.inr (Or.inl ⟨members, hmessage, hwell, hother ▸ hid⟩)
            · -- the id of another call
              refine Or.inr (Or.inr (Or.inr
                (passedOver_of_isForeign hmessage hwell ?_)))
              rw [hid]
              simpa [Reply.isForeign, text?] using hother

/-- A call passes over the lines that are text, do not answer it and do
not complain, and no others. -/
theorem passedOver_iff :
    PassedOver id line ↔ (∃ text, Utf8.decode line = .ok text)
      ∧ (∀ members, ¬ Answers line id members)
      ∧ ∀ words members, ¬ Complains line words members := by
  constructor
  · rintro ⟨events, hskip⟩
    refine ⟨?_, ?_, ?_⟩
    · cases hdecode : Utf8.decode line with
      | ok text => exact ⟨text, rfl⟩
      | error f => rw [judge_of_fault hdecode] at hskip; cases hskip
    · intro members hanswers
      rw [hanswers.judge] at hskip
      cases hskip
    · intro words members hcomplains
      rw [hcomplains.judge] at hskip
      cases hskip
  · rintro ⟨⟨text, htext⟩, hanswers, hcomplains⟩
    rcases judge_cases id line with ⟨f, hf⟩ | ⟨ms, h⟩ | ⟨words, ms, h⟩ | h
    · rw [htext] at hf
      cases hf
    · exact absurd h (hanswers ms)
    · exact absurd h (hcomplains words ms)
    · exact h

/-- A line answers one call only. -/
theorem Answers.id_unique {id' : String} {members' : Json.Members}
    (h : Answers line id members)
    (h' : Answers line id' members') : id = id' := by
  have hmembers := h.message.unique h'.message
  subst hmembers
  have hid := h.id.symm.trans h'.id
  injection hid with hid
  injection hid

/-- A line that answers a call does not complain. -/
theorem Answers.not_complains {words : String} {members' : Json.Members}
    (h : Answers line id members) : ¬ Complains line words members' := by
  intro h'
  have hmembers := h.message.unique h'.message
  subst hmembers
  rcases h'.id with hid | hid
  · rw [h.id] at hid
    cases hid
  · rw [h.id] at hid
    cases hid

end Restoration.Worker
