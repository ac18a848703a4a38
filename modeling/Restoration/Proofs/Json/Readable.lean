/-
What the reader of JSON can produce. A value that has been read has at most
`depthLimit` brackets inside each other, and the members of its objects are in
the order of their keys, one a key (`Value.Readable`). The invariant of the
machine is that all it has gathered is of this form, as deep as the brackets
that are open leave room (`InForm`); every move keeps it (`kept_inForm`), and
what is left at the end of the text is such a value (`read_readable`).

A value of this form is its own normal form, so its text is read back but for
its numbers (`readText_write`).
-/
import Restoration.Proofs.Json.Invariant
import Restoration.Proofs.Json.Values

namespace Restoration.Json

-- =============================================================== members

namespace Members

/-- Members in the order of their keys, one member a key. -/
def Ascending (members : Members) : Prop := members.Pairwise (·.1 < ·.1)

variable {members : Members} {key : String} {value : Value}

theorem mem_insert {kv : String × Value} (h : kv ∈ insert key value members) :
    kv = (key, value) ∨ kv ∈ members := by
  induction members with
  | nil => exact Or.inl (List.mem_singleton.mp h)
  | cons head rest ih =>
      obtain ⟨k, v⟩ := head
      rw [insert] at h
      split at h
      · exact List.mem_cons.mp h
      split at h
      · exact (List.mem_cons.mp h).imp_right (List.mem_cons_of_mem _)
      · rcases List.mem_cons.mp h with rfl | h
        · exact Or.inr List.mem_cons_self
        · exact (ih h).imp_right (List.mem_cons_of_mem _)

/-- A member is put where its key belongs. -/
theorem ascending_insert (h : members.Ascending) (key : String)
    (value : Value) :
    (members.insert key value).Ascending := by
  induction members with
  | nil => exact List.pairwise_singleton _ _
  | cons head rest ih =>
      obtain ⟨k, v⟩ := head
      obtain ⟨hhead, hrest⟩ := List.pairwise_cons.mp h
      rw [Members.insert]
      split
      case isTrue hlt =>
        apply List.pairwise_cons.mpr
        refine ⟨List.forall_mem_cons.mpr ⟨hlt, ?_⟩, h⟩
        exact fun kv hkv => String.lt_trans hlt (hhead kv hkv)
      case isFalse hnlt =>
        split
        case isTrue heq =>
          subst heq
          exact List.pairwise_cons.mpr ⟨hhead, hrest⟩
        case isFalse hne =>
          have hgt : k < key := by
            by_contra hle
            exact hne
              (String.le_antisymm (String.not_lt.mp hle)
                (String.not_lt.mp hnlt))
          apply List.pairwise_cons.mpr
          refine ⟨fun kv hkv => ?_, ih hrest⟩
          rcases mem_insert hkv with rfl | hkv
          · exact hgt
          · exact hhead kv hkv

/-- A member with the greatest key comes last. -/
theorem insert_of_greatest (h : ∀ kv ∈ members, kv.1 < key) (value : Value) :
    members.insert key value = members ++ [(key, value)] := by
  induction members with
  | nil => rfl
  | cons head rest ih =>
      obtain ⟨k, v⟩ := head
      obtain ⟨hk, hrest⟩ := List.forall_mem_cons.mp h
      have hne : key ≠ k := fun heq => String.lt_irrefl k (heq ▸ hk)
      have hnlt : ¬ key < k :=
        fun hlt => String.lt_irrefl k (String.lt_trans hk hlt)
      rw [insert, if_neg hnlt, if_neg hne, ih hrest, List.cons_append]

/-- Members in the order of their keys stay as they are. -/
theorem Ascending.ofList_eq (h : members.Ascending) :
    ofList members = members := by
  have hfold : ∀ (rest found : Members), (found ++ rest).Ascending →
      rest.foldl (fun ms kv => insert kv.1 kv.2 ms) found = found ++ rest := by
    intro rest
    induction rest with
    | nil => exact fun found _ => (List.append_nil found).symm
    | cons head rest ih =>
        obtain ⟨k, v⟩ := head
        intro found hfound
        have hless : ∀ kv ∈ found, kv.1 < k := fun kv hkv =>
          (List.pairwise_append.mp hfound).2.2 kv hkv (k, v) List.mem_cons_self
        rw [List.foldl_cons, insert_of_greatest hless,
          ih _ (by simpa using hfound), List.append_assoc,
          List.singleton_append]
  exact hfold members [] h

/-- Each member is found under its key. -/
theorem Ascending.get?_eq_some_iff (h : members.Ascending) :
    members.get? key = some value ↔ (key, value) ∈ members := by
  induction members with
  | nil => simp [get?]
  | cons head rest ih =>
      obtain ⟨k, v⟩ := head
      obtain ⟨hhead, hrest⟩ := List.pairwise_cons.mp h
      rw [get?, List.mem_cons]
      split
      case isTrue heq =>
        subst heq
        constructor
        · rintro ⟨⟩
          exact Or.inl rfl
        · rintro (heq | hmem)
          · injection heq with _ heq
            rw [heq]
          · exact absurd (hhead _ hmem) (String.lt_irrefl _)
      case isFalse hne =>
        rw [ih hrest]
        exact ⟨Or.inr, fun h => h.resolve_left fun heq =>
          hne (Prod.mk.inj heq).1.symm⟩

end Members

-- ================================================================ values

/-- A value as the reader leaves it, with at most so many brackets inside
each other. -/
inductive Value.Readable : Nat → Value → Prop
  | null {room : Nat} : Readable room .null
  | bool {room : Nat} (b : Bool) : Readable room (.bool b)
  | number {room : Nat} (n : Number) : Readable room (.number n)
  | string {room : Nat} (s : String) : Readable room (.string s)
  | array {room : Nat} {items : List Value} (h : ∀ v ∈ items, Readable room v) :
      Readable (room + 1) (.array items)
  | object {room : Nat} {members : Members} (hkeys : members.Ascending)
      (h : ∀ kv ∈ members, Readable room kv.2) :
      Readable (room + 1) (.object members)

namespace Value

variable {room : Nat} {v : Value}

theorem Readable.within (h : v.Readable room) : v.Within room := by
  induction h with
  | null => exact .null
  | bool b => exact .bool b
  | number n => exact .number n
  | string s => exact .string s
  | array _ ih => exact .array ih
  | object _ _ ih => exact .object ih

/-- There may be more room than is needed. -/
theorem Readable.mono (h : v.Readable room) {more : Nat} (hle : room ≤ more) :
    v.Readable more := by
  induction h generalizing more with
  | null => exact .null
  | bool b => exact .bool b
  | number n => exact .number n
  | string s => exact .string s
  | array _ ih =>
      obtain ⟨inner, rfl⟩ : ∃ inner, more = inner + 1 :=
        Nat.exists_eq_succ_of_ne_zero (by omega)
      exact .array fun v hv => ih v hv (by omega)
  | object hkeys _ ih =>
      obtain ⟨inner, rfl⟩ : ∃ inner, more = inner + 1 :=
        Nat.exists_eq_succ_of_ne_zero (by omega)
      exact .object hkeys fun kv hkv => ih kv hkv (by omega)

/-- Nothing is left to be put in order. -/
theorem Readable.normal_eq (h : v.Readable room) : v.normal = v := by
  induction h with
  | null | bool | number | string => rfl
  | array _ ih =>
      rw [normal, normalItems_eq_map, List.map_congr_left (g := id) ih,
        List.map_id]
  | object hkeys _ ih =>
      rw [normal, normalMembers_eq_map, List.map_congr_left (g := id),
        List.map_id, hkeys.ofList_eq]
      intro kv hkv
      rw [ih kv hkv]
      rfl

/-- Other numbers do not change the form. -/
theorem Readable.reread (h : v.Readable room) : v.reread.Readable room := by
  induction h with
  | null => exact .null
  | bool b => exact .bool b
  | number n => exact .number _
  | string s => exact .string s
  | array _ ih =>
      rw [Value.reread, rereadItems_eq_map]
      exact .array (List.forall_mem_map.mpr ih)
  | object hkeys _ ih =>
      rw [Value.reread, rereadMembers_eq_map]
      exact .object (List.pairwise_map.mpr hkeys) (List.forall_mem_map.mpr ih)

end Value

/-- The text of a value that has been read is read as this value with its
numbers as their texts are read. -/
theorem readText_write {v : Value} (h : v.Readable depthLimit) :
    readText v.write = .ok v.reread := by
  rw [readText, read_write_within h.within, h.reread.normal_eq]

-- =============================================================== machine

/-- Members as the reader leaves them. -/
structure Members.Readable (room : Nat) (members : Members) : Prop where
  ascending : members.Ascending
  values : ∀ kv ∈ members, kv.2.Readable room

theorem Members.Readable.insert {room : Nat} {members : Members}
    (h : members.Readable room) {value : Value} (hvalue : value.Readable room)
    (key : String) :
    (members.insert key value).Readable room where
  ascending := Members.ascending_insert h.ascending key value
  values kv hkv := by
    rcases Members.mem_insert hkv with rfl | hkv
    · exact hvalue
    · exact h.values kv hkv

/-- Open brackets, with room for so many more, and what they have gathered. -/
inductive Open : Nat → List Frame → Prop
  | nil : Open depthLimit []
  | array {room : Nat} {items : List Value} {frames : List Frame}
      (h : Open (room + 1) frames)
      (hitems : ∀ v ∈ items, v.Readable room) :
      Open room (.array items :: frames)
  | object {room : Nat} {members : Members} {frames : List Frame}
      (h : Open (room + 1) frames)
      (hmembers : members.Readable room) (key : String) :
      Open room (.object members key :: frames)

theorem Open.length_add {room : Nat} {frames : List Frame}
    (h : Open room frames) :
    frames.length + room = depthLimit := by
  induction h with
  | nil => rfl
  | array _ _ ih | object _ _ _ ih =>
      rw [List.length_cons]
      omega

/-- What a mode has gathered, with room for so many brackets. -/
inductive Mode.Gathers : Nat → Mode → Prop
  | value {room : Nat} : Gathers room .value
  | firstItem {room : Nat} : Gathers (room + 1) .firstItem
  | nextItem {room : Nat} {items : List Value}
      (h : ∀ v ∈ items, v.Readable room) :
      Gathers (room + 1) (.nextItem items)
  | firstKey {room : Nat} : Gathers (room + 1) .firstKey
  | nextKey {room : Nat} {members : Members} (h : members.Readable room) :
      Gathers (room + 1) (.nextKey members)
  | key {room : Nat} {members : Members} (h : members.Readable room)
      (scan : Scan) :
      Gathers (room + 1) (.key members scan)
  | colon {room : Nat} {members : Members} (h : members.Readable room)
      (name : String) :
      Gathers (room + 1) (.colon members name)
  | string {room : Nat} (scan : Scan) : Gathers room (.string scan)
  | word {room : Nat} {v : Value} (h : v.Readable room) (due : Bytes) :
      Gathers room (.word due v)
  | number {room : Nat} (numeral : Numeral) : Gathers room (.number numeral)
  | after {room : Nat} {v : Value} (h : v.Readable room) :
      Gathers room (.after v)

/-- A state in which all that has been gathered is of the form that the
reader produces. -/
def InForm (s : Step) : Prop := ∃ room, Open room s.2 ∧ s.1.Gathers room

variable {room : Nat} {frames : List Frame} {b : UInt8} {s : Step}

/-- The first byte of a value opens a bracket only while there is room. -/
theorem begin?_inForm (h : Open room frames)
    (hstep : begin? frames b = .ok s) : InForm s := by
  have hroom (hlt : frames.length < depthLimit) : ∃ inner, room = inner + 1 :=
    Nat.exists_eq_succ_of_ne_zero (by have := h.length_add; omega)
  unfold begin? at hstep
  split at hstep
  · cases hstep
    exact ⟨room, h, .word .null _⟩
  split at hstep
  · cases hstep
    exact ⟨room, h, .word (.bool true) _⟩
  split at hstep
  · cases hstep
    exact ⟨room, h, .word (.bool false) _⟩
  split at hstep
  · cases hstep
    exact ⟨room, h, .string _⟩
  split at hstep
  · cases hstep
    exact ⟨room, h, .number _⟩
  split at hstep
  · cases hstep
    exact ⟨room, h, .number _⟩
  split at hstep
  · -- an array
    split at hstep
    · next hlt =>
      obtain ⟨inner, rfl⟩ := hroom hlt
      cases hstep
      exact ⟨_, h, .firstItem⟩
    · cases hstep
  split at hstep
  · -- an object
    split at hstep
    · next hlt =>
      obtain ⟨inner, rfl⟩ := hroom hlt
      cases hstep
      exact ⟨_, h, .firstKey⟩
    · cases hstep
  split at hstep
  · cases hstep
    exact ⟨room, h, .number _⟩
  · cases hstep

/-- What follows a value puts it into the innermost bracket, or closes that. -/
theorem follow_inForm {v : Value} (hv : v.Readable room) (h : Open room frames)
    (hstep : follow v frames b = .ok s) : InForm s := by
  unfold follow at hstep
  split at hstep
  · cases hstep
    exact ⟨room, h, .after hv⟩
  cases h with
  | nil => cases hstep
  | array hopen hitems =>
      have hall := List.forall_mem_cons.mpr ⟨hv, hitems⟩
      dsimp only at hstep
      split at hstep
      · cases hstep
        exact ⟨_, hopen, .nextItem hall⟩
      split at hstep
      · cases hstep
        exact ⟨_, hopen,
          .after (.array fun v hv => hall v (List.mem_reverse.mp hv))⟩
      · cases hstep
  | object hopen hmembers key =>
      have hall := hmembers.insert hv key
      dsimp only at hstep
      split at hstep
      · cases hstep
        exact ⟨_, hopen, .nextKey hall⟩
      split at hstep
      · cases hstep
        exact ⟨_, hopen, .after (.object hall.ascending hall.values)⟩
      · cases hstep

/-- A byte in any mode but a number's. -/
theorem Mode.step_inForm {mode : Mode} (h : InForm (mode, frames))
    (hstep : mode.step frames b = .ok s) : InForm s := by
  obtain ⟨room, hopen, hmode⟩ := h
  unfold Mode.step at hstep
  cases hmode with
  | value =>
      dsimp only at hstep
      split at hstep
      · cases hstep
        exact ⟨_, hopen, .value⟩
      · exact begin?_inForm hopen hstep
  | firstItem =>
      dsimp only at hstep
      split at hstep
      · cases hstep
        exact ⟨_, hopen, .firstItem⟩
      split at hstep
      · cases hstep
        exact ⟨_, hopen, .after (.array (List.forall_mem_nil _))⟩
      · exact begin?_inForm (.array hopen (List.forall_mem_nil _)) hstep
  | nextItem hitems =>
      dsimp only at hstep
      split at hstep
      · cases hstep
        exact ⟨_, hopen, .nextItem hitems⟩
      split at hstep
      · cases hstep
      · exact begin?_inForm (.array hopen hitems) hstep
  | firstKey =>
      dsimp only at hstep
      split at hstep
      · cases hstep
        exact ⟨_, hopen, .firstKey⟩
      split at hstep
      · cases hstep
        exact
          ⟨_, hopen, .after (.object List.Pairwise.nil (List.forall_mem_nil _))⟩
      split at hstep
      · cases hstep
        exact ⟨_, hopen, .key ⟨List.Pairwise.nil, List.forall_mem_nil _⟩ _⟩
      · cases hstep
  | nextKey hmembers =>
      dsimp only at hstep
      split at hstep
      · cases hstep
        exact ⟨_, hopen, .nextKey hmembers⟩
      split at hstep
      · cases hstep
      split at hstep
      · cases hstep
        exact ⟨_, hopen, .key hmembers _⟩
      · cases hstep
  | key hmembers scan =>
      dsimp only at hstep
      split at hstep
      · exact of_map_eq_ok hstep fun name => ⟨_, hopen, .colon hmembers name⟩
      · exact of_map_eq_ok hstep fun scan => ⟨_, hopen, .key hmembers scan⟩
  | colon hmembers name =>
      dsimp only at hstep
      split at hstep
      · cases hstep
        exact ⟨_, hopen, .colon hmembers name⟩
      split at hstep
      · cases hstep
        exact ⟨_, .object hopen hmembers name, .value⟩
      · cases hstep
  | string scan =>
      dsimp only at hstep
      split at hstep
      · exact of_map_eq_ok hstep fun text => ⟨_, hopen, .after (.string text)⟩
      · exact of_map_eq_ok hstep fun scan => ⟨_, hopen, .string scan⟩
  | word hv due =>
      cases due with
      | nil => exact follow_inForm hv hopen hstep
      | cons c due =>
          dsimp only at hstep
          split at hstep
          · cases hstep
            refine ⟨_, hopen, ?_⟩
            split
            · exact .after hv
            · exact .word hv due
          · cases hstep
  | number numeral =>
      cases hstep
      exact ⟨_, hopen, .number numeral⟩
  | after hv => exact follow_inForm hv hopen hstep

theorem kept_inForm : Kept InForm where
  move h hstep := Mode.step_inForm h hstep
  figure next h := by
    obtain ⟨room, hopen, -⟩ := h
    exact ⟨room, hopen, .number next⟩
  follow h hstep := by
    obtain ⟨room, hopen, -⟩ := h
    exact follow_inForm (.number _) hopen hstep

namespace Machine

/-- At the end of the text no bracket is open. -/
theorem finish_readable {m : Machine} {v : Value}
    (h : InForm (m.mode, m.frames)) (hfinish : m.finish = .ok v) :
    v.Readable depthLimit := by
  obtain ⟨mode, frames, place⟩ := m
  obtain ⟨room, hopen, hmode⟩ := h
  have hsettle {w : Value} (hw : w.Readable room)
      (heq : settle w frames = .ok v) :
      v.Readable depthLimit := by
    cases hopen with
    | nil =>
        cases heq
        exact hw
    | array | object => cases heq
  cases hmode with
  | value | firstItem | nextItem | firstKey | nextKey | key | colon | string |
    word => cases hfinish
  | after hw =>
      unfold finish at hfinish
      dsimp only at hfinish
      split at hfinish
      · next w heq =>
        cases hfinish
        exact hsettle hw heq
      · cases hfinish
  | number numeral =>
      unfold finish at hfinish
      dsimp only at hfinish
      split at hfinish
      · next w heq =>
        cases hfinish
        split at heq
        · exact hsettle (.number _) heq
        · cases heq
        · cases heq
      · cases hfinish

end Machine

/-- What the reader produces. -/
theorem read_readable {b : Bytes} {v : Value} (h : read b = .ok v) :
    v.Readable depthLimit := by
  unfold read at h
  split at h
  · next m hrun =>
      exact Machine.finish_readable (kept_inForm.run ⟨_, .nil, .value⟩ hrun) h
  · cases h

end Restoration.Json
