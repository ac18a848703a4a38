/-
What the reader of JSON makes of the text of a whole value. Every value whose
brackets are not too deep is read: its numbers each become what their own text
is read as, and the members of its objects end up in the order of their keys,
of those with one key the last (`read_write_within`). The induction is on the
depth, and what it carries is that a value's text moves the machine to the end
of a value wherever one is due (`Value.ReadsAs`). A value without fractions is
read back as it is (`read_write`).
-/
import Restoration.Proofs.Json.Numerals

namespace Restoration.Json

-- ================================================================ values

mutual

/-- Whether a value has no fractions, and at most so many brackets inside
each other. -/
def Value.isExact : Value → Nat → Bool
  | .null, _ => true
  | .bool _, _ => true
  | .number (.integer _ _), _ => true
  | .number (.float _), _ => false
  | .string _, _ => true
  | .array items, room => 0 < room && Value.itemsExact items (room - 1)
  | .object members, room => 0 < room && Value.membersExact members (room - 1)

/-- Whether all items are such values. -/
def Value.itemsExact : List Value → Nat → Bool
  | [], _ => true
  | v :: rest, room => v.isExact room && Value.itemsExact rest room

/-- Whether all members are. -/
def Value.membersExact : List (String × Value) → Nat → Bool
  | [], _ => true
  | (_, v) :: rest, room => v.isExact room && Value.membersExact rest room

end

/-- A value with at most so many brackets inside each other. -/
inductive Value.Within : Nat → Value → Prop
  | null {room : Nat} : Within room .null
  | bool {room : Nat} (b : Bool) : Within room (.bool b)
  | number {room : Nat} (n : Number) : Within room (.number n)
  | string {room : Nat} (s : String) : Within room (.string s)
  | array {room : Nat} {items : List Value} (h : ∀ v ∈ items, Within room v) :
      Within (room + 1) (.array items)
  | object {room : Nat} {members : List (String × Value)}
      (h : ∀ kv ∈ members, Within room kv.2) :
      Within (room + 1) (.object members)

/-- A number stands somewhere in a value. -/
inductive Value.Holds (n : Number) : Value → Prop
  | number : Holds n (.number n)
  | item {items : List Value} {v : Value} (hv : v ∈ items) (h : Holds n v) :
      Holds n (.array items)
  | member {members : List (String × Value)} {kv : String × Value}
      (hkv : kv ∈ members) (h : Holds n kv.2) : Holds n (.object members)

mutual

/-- A value with the members of its objects in the order of their keys,
the last of equal keys winning. -/
def Value.normal : Value → Value
  | .array items => .array (Value.normalItems items)
  | .object members => .object (Members.ofList (Value.normalMembers members))
  | .null => .null
  | .bool b => .bool b
  | .number n => .number n
  | .string s => .string s

/-- Items, each in this form. -/
def Value.normalItems : List Value → List Value
  | [] => []
  | v :: rest => v.normal :: Value.normalItems rest

/-- Members, each in this form, but where they are. -/
def Value.normalMembers : List (String × Value) → List (String × Value)
  | [] => []
  | (k, v) :: rest => (k, v.normal) :: Value.normalMembers rest

end

theorem normalMembers_eq_map (members : List (String × Value)) :
    Value.normalMembers members = members.map fun kv =>
    (kv.1, kv.2.normal) := by
  induction members with
  | nil => rfl
  | cons head rest ih =>
      obtain ⟨k, v⟩ := head
      rw [Value.normalMembers, ih]
      rfl

/-- The last member with a key is the one that is read. -/
theorem get?_normal (name : String) (members : List (String × Value)) :
    Members.get? name (Members.ofList (Value.normalMembers members))
      = (Members.get? name members.reverse).map Value.normal := by
  have hmap : ∀ ms : List (String × Value),
      Members.get? name (ms.map fun kv => (kv.1, kv.2.normal))
        = (Members.get? name ms).map Value.normal := by
    intro ms
    induction ms with
    | nil => rfl
    | cons head ms ih =>
        rw [List.map_cons, Members.get?, Members.get?, ih]
        split <;> rfl
  rw [Members.get?_ofList, normalMembers_eq_map, ← List.map_reverse, hmap]

mutual

/-- A value with each of its numbers as it is read from its own text. -/
def Value.reread : Value → Value
  | .number n => .number n.reread
  | .array items => .array (Value.rereadItems items)
  | .object members => .object (Value.rereadMembers members)
  | .null => .null
  | .bool b => .bool b
  | .string s => .string s

/-- Items, each in this form. -/
def Value.rereadItems : List Value → List Value
  | [] => []
  | v :: rest => v.reread :: Value.rereadItems rest

/-- Members, each in this form. -/
def Value.rereadMembers : List (String × Value) → List (String × Value)
  | [] => []
  | (k, v) :: rest => (k, v.reread) :: Value.rereadMembers rest

end

theorem normalItems_eq_map (items : List Value) :
    Value.normalItems items = items.map Value.normal := by
  induction items with
  | nil => rfl
  | cons v rest ih => rw [Value.normalItems, ih, List.map_cons]

theorem rereadItems_eq_map (items : List Value) :
    Value.rereadItems items = items.map Value.reread := by
  induction items with
  | nil => rfl
  | cons v rest ih => rw [Value.rereadItems, ih, List.map_cons]

theorem rereadMembers_eq_map (members : List (String × Value)) :
    Value.rereadMembers members = members.map fun kv =>
    (kv.1, kv.2.reread) := by
  induction members with
  | nil => rfl
  | cons head rest ih =>
      obtain ⟨k, v⟩ := head
      rw [Value.rereadMembers, ih]
      rfl

/-- A value whose doubles are read back is read back. -/
theorem reread_eq_self {room : Nat} {v : Value} (h : v.Within room)
    (hfloats : ∀ x, v.Holds (.float x) → Number.reread (.float x) = .float x) :
    v.reread = v := by
  induction h with
  | null | bool | string => rfl
  | number n =>
      cases n with
      | integer i hi => rw [Value.reread, reread_integer]
      | float x => rw [Value.reread, hfloats x .number]
  | array _ ih =>
      rw [Value.reread, rereadItems_eq_map, List.map_congr_left (g := id),
        List.map_id]
      exact fun v hv => ih v hv fun x hx => hfloats x (.item hv hx)
  | object _ ih =>
      rw [Value.reread, rereadMembers_eq_map, List.map_congr_left (g := id),
        List.map_id]
      intro kv hkv
      rw [ih kv hkv fun x hx => hfloats x (.member hkv hx)]
      rfl

mutual

/-- A value without fractions is read back, number by number. -/
theorem within_of_isExact (v : Value) {room : Nat} (h : v.isExact room = true) :
    v.Within room ∧ v.reread = v := by
  cases v with
  | null => exact ⟨.null, rfl⟩
  | bool b => exact ⟨.bool b, rfl⟩
  | string s => exact ⟨.string s, rfl⟩
  | number n =>
      cases n with
      | integer i hi => exact ⟨.number _, by rw [Value.reread, reread_integer]⟩
      | float x => exact absurd h Bool.false_ne_true
  | array items =>
      rw [Value.isExact, Bool.and_eq_true, decide_eq_true_eq] at h
      obtain ⟨hpos, hitems⟩ := h
      obtain ⟨hwithin, hreread⟩ := items_within_of_exact items hitems
      obtain ⟨inner, rfl⟩ := Nat.exists_eq_succ_of_ne_zero (Nat.ne_of_gt hpos)
      exact ⟨.array hwithin, by rw [Value.reread, hreread]⟩
  | object members =>
      rw [Value.isExact, Bool.and_eq_true, decide_eq_true_eq] at h
      obtain ⟨hpos, hmembers⟩ := h
      obtain ⟨hwithin, hreread⟩ := members_within_of_exact members hmembers
      obtain ⟨inner, rfl⟩ := Nat.exists_eq_succ_of_ne_zero (Nat.ne_of_gt hpos)
      exact ⟨.object hwithin, by rw [Value.reread, hreread]⟩

/-- Items likewise. -/
theorem items_within_of_exact (items : List Value) {room : Nat}
    (h : Value.itemsExact items room = true) :
    (∀ v ∈ items, v.Within room) ∧ Value.rereadItems items = items := by
  cases items with
  | nil => exact ⟨List.forall_mem_nil _, rfl⟩
  | cons v items =>
      rw [Value.itemsExact, Bool.and_eq_true] at h
      obtain ⟨hv, hrereadV⟩ := within_of_isExact v h.1
      obtain ⟨hitems, hreread⟩ := items_within_of_exact items h.2
      exact ⟨List.forall_mem_cons.mpr ⟨hv, hitems⟩, by
        rw [Value.rereadItems, hrereadV, hreread]⟩

/-- Members likewise. -/
theorem members_within_of_exact (members : List (String × Value)) {room : Nat}
    (h : Value.membersExact members room = true) :
    (∀ kv ∈ members, kv.2.Within room) ∧
    Value.rereadMembers members = members := by
  cases members with
  | nil => exact ⟨List.forall_mem_nil _, rfl⟩
  | cons head members =>
      obtain ⟨k, v⟩ := head
      rw [Value.membersExact, Bool.and_eq_true] at h
      obtain ⟨hv, hrereadV⟩ := within_of_isExact v h.1
      obtain ⟨hmembers, hreread⟩ := members_within_of_exact members h.2
      exact ⟨List.forall_mem_cons.mpr ⟨hv, hmembers⟩,
        by rw [Value.rereadMembers, hrereadV, hreread]⟩

end

-- ================================================================ moving

/-- With room for so many brackets, the text of a value takes the machine to
the end of another one, wherever a value is due. -/
def Value.ReadsAs (room : Nat) (v w : Value) : Prop :=
  ∀ ⦃s : Step⦄ ⦃frames : List Frame⦄, Due s frames →
    frames.length + room ≤ depthLimit → ∀ text : String,
      ∃ bytes mode, Utf8.encode (v.writeOnto text) = Utf8.encode text ++ bytes
      ∧ Moves s bytes (mode, frames) ∧ Ends w mode

namespace Value

variable {room : Nat} {g : Value → Value}

/-- Further items take the machine behind the array. -/
theorem ReadsAs.items {items : List Value}
    (h : ∀ v ∈ items, v.ReadsAs room (g v)) {v : Value} {mode : Mode}
    (hends : Ends v mode) (found : List Value) {frames : List Frame}
    (hroom : frames.length + 1 + room ≤ depthLimit) (text : String) :
    ∃ bytes,
      Utf8.encode (itemsOnto text false items) = Utf8.encode text ++ bytes
      ∧ Moves (mode, .array found :: frames) (bytes ++ [0x5D])
          (.after (.array ((v :: found).reverse ++ items.map g)), frames) := by
  induction items generalizing v mode found text with
  | nil =>
      refine ⟨[], ?_, hends.follow (by decide) ?_⟩
      · rw [itemsOnto, List.append_nil]
      · rw [List.map_nil, List.append_nil]
        rfl
  | cons v' items ih =>
      obtain ⟨hv', hitems⟩ := List.forall_mem_cons.mp h
      have hcomma : Moves (mode, .array found :: frames) [0x2C]
          (.nextItem (v :: found), frames) :=
        hends.follow (by decide) rfl
      obtain ⟨bytes, mode', htext, hmoves, hends'⟩ :=
        hv' (due_nextItem (v :: found) frames) hroom (text.push ',')
      obtain ⟨others, htexts, hothers⟩ :=
        ih hitems hends' (v :: found) (v'.writeOnto (text.push ','))
      refine ⟨0x2C :: (bytes ++ others), ?_, ?_⟩
      · rw [itemsOnto, if_neg Bool.false_ne_true, htexts, htext,
          Utf8.encode_push]
        simp only [List.append_assoc]
        rfl
      · rw [List.reverse_cons, List.append_assoc, List.singleton_append]
          at hothers
        rw [List.cons_append, List.append_assoc]
        exact hcomma.cons (hmoves.trans hothers)

theorem ReadsAs.array {items : List Value}
    (h : ∀ v ∈ items, v.ReadsAs room (g v)) :
    (Value.array items).ReadsAs (room + 1) (.array (items.map g)) := by
  intro s frames hdue hroom text
  have hopen := hdue.openArray (show frames.length < depthLimit by omega)
  cases items with
  | nil =>
      refine ⟨[0x5B, 0x5D], .after (.array []), ?_,
        hopen.cons (.byte nofun rfl), .after⟩
      rw [writeOnto, itemsOnto, Utf8.encode_push, Utf8.encode_push,
        List.append_assoc]
      rfl
  | cons v items =>
      obtain ⟨hv, hitems⟩ := List.forall_mem_cons.mp h
      have hdepth : frames.length + 1 + room ≤ depthLimit := by omega
      obtain ⟨bytes, mode, htext, hmoves, hends⟩ :=
        hv (due_firstItem frames) hdepth (text.push '[')
      obtain ⟨others, htexts, hothers⟩ :=
        ReadsAs.items hitems hends [] hdepth (v.writeOnto (text.push '['))
      refine ⟨0x5B :: (bytes ++ (others ++ [0x5D])), _, ?_,
        hopen.cons (hmoves.trans hothers), .after⟩
      rw [writeOnto, itemsOnto, if_pos rfl, Utf8.encode_push, htexts, htext,
        Utf8.encode_push]
      simp only [List.append_assoc]
      rfl

/-- Further members take it behind the object. -/
theorem ReadsAs.members {members : List (String × Value)}
    (h : ∀ kv ∈ members, kv.2.ReadsAs room (g kv.2)) {v : Value} {mode : Mode}
    (hends : Ends v mode) (found : Members) (key : String) {frames : List Frame}
    (hroom : frames.length + 1 + room ≤ depthLimit) (text : String) :
    ∃ bytes,
      Utf8.encode (membersOnto text false members) = Utf8.encode text ++ bytes
      ∧ Moves (mode, .object found key :: frames) (bytes ++ [0x7D])
          (.after (.object ((members.map fun kv => (kv.1, g kv.2)).foldl
            (fun ms kv => Members.insert kv.1 kv.2 ms)
            (Members.insert key v found))), frames) := by
  induction members generalizing v mode found key text with
  | nil =>
      refine ⟨[], ?_, hends.follow (by decide) rfl⟩
      rw [membersOnto, List.append_nil]
  | cons head members ih =>
      obtain ⟨k, v'⟩ := head
      obtain ⟨hv', hmembers⟩ := List.forall_mem_cons.mp h
      have hcomma : Moves (mode, .object found key :: frames) [0x2C]
          (.nextKey (Members.insert key v found), frames) :=
        hends.follow (by decide) rfl
      have hquote : Moves (.nextKey (Members.insert key v found), frames) [0x22]
          (.key (Members.insert key v found) .start, frames) := .byte nofun rfl
      obtain ⟨bytes, mode', htext, hmoves, hends'⟩ :=
        hv' (due_value (.object (Members.insert key v found) k :: frames)) hroom
          ((stringOnto (text.push ',') k).push ':')
      obtain ⟨others, htexts, hothers⟩ :=
        ih hmembers hends' (Members.insert key v found) k
          (v'.writeOnto ((stringOnto (text.push ',') k).push ':'))
      refine ⟨0x2C :: (quoted k ++ [0x3A] ++ (bytes ++ others)), ?_, ?_⟩
      · rw [membersOnto, if_neg Bool.false_ne_true, htexts, htext,
          Utf8.encode_push, encode_stringOnto, Utf8.encode_push]
        simp only [List.append_assoc]
        rfl
      · rw [List.cons_append, List.append_assoc (quoted k ++ [0x3A]),
          List.append_assoc bytes]
        exact hcomma.cons ((moves_key hquote k).trans (hmoves.trans hothers))

theorem ReadsAs.object {members : List (String × Value)}
    (h : ∀ kv ∈ members, kv.2.ReadsAs room (g kv.2)) :
    (Value.object members).ReadsAs (room + 1)
      (.object (Members.ofList (members.map fun kv => (kv.1, g kv.2)))) := by
  intro s frames hdue hroom text
  have hopen := hdue.openObject (show frames.length < depthLimit by omega)
  cases members with
  | nil =>
      refine ⟨[0x7B, 0x7D], .after (.object []), ?_,
        hopen.cons (.byte nofun rfl), .after⟩
      rw [writeOnto, membersOnto, Utf8.encode_push, Utf8.encode_push,
        List.append_assoc]
      rfl
  | cons head members =>
      obtain ⟨k, v⟩ := head
      obtain ⟨hv, hmembers⟩ := List.forall_mem_cons.mp h
      have hdepth : frames.length + 1 + room ≤ depthLimit := by omega
      have hquote : Moves (.firstKey, frames) [0x22] (.key [] .start, frames) :=
        .byte nofun rfl
      obtain ⟨bytes, mode, htext, hmoves, hends⟩ :=
        hv (due_value (.object [] k :: frames)) hdepth
          ((stringOnto (text.push '\x7b') k).push ':')
      obtain ⟨others, htexts, hothers⟩ :=
        ReadsAs.members hmembers hends [] k hdepth
          (v.writeOnto ((stringOnto (text.push '\x7b') k).push ':'))
      refine ⟨0x7B :: (quoted k ++ [0x3A] ++ (bytes ++ (others ++ [0x7D]))), _,
        ?_, hopen.cons ((moves_key hquote k).trans (hmoves.trans hothers)),
        .after⟩
      rw [writeOnto, membersOnto, if_pos rfl, Utf8.encode_push, htexts, htext,
        Utf8.encode_push, encode_stringOnto, Utf8.encode_push]
      simp only [List.append_assoc]
      rfl

/-- A word takes the machine to its end. -/
theorem ReadsAs.word {v : Value} {word : String} {b c : UInt8} {due : Bytes}
    (hwrite : ∀ text, v.writeOnto text = text ++ word)
    (hword : word.toList.flatMap String.utf8EncodeChar = b :: c :: due)
    (hspace : isSpace b = false) (hclose : b ≠ 0x5D)
    (hbegin : ∀ frames, begin? frames b = .ok (.word (c :: due) v, frames)) :
    v.ReadsAs room v := by
  intro s frames hdue _ text
  rw [hwrite]
  exact ⟨_, _, Utf8.encode_append text word,
    hdue.word hword hspace hclose (hbegin frames), .after⟩

/-- The text of a value takes the machine to the end of what it is read as. -/
theorem Within.readsAs {v : Value} (h : v.Within room) :
    v.ReadsAs room v.reread.normal := by
  induction h with
  | null => exact .word (fun _ => rfl) rfl rfl (by decide) fun _ => rfl
  | bool b =>
      cases b with
      | true => exact .word (fun _ => rfl) rfl rfl (by decide) fun _ => rfl
      | false => exact .word (fun _ => rfl) rfl rfl (by decide) fun _ => rfl
  | number n =>
      intro s frames hdue _ text
      obtain ⟨mode, hmoves, hends⟩ := moves_number hdue n
      exact ⟨_, mode, Utf8.encode_append _ _, hmoves, hends⟩
  | string t =>
      intro s frames hdue _ text
      exact ⟨_, _, encode_stringOnto text t, moves_string hdue t, .after⟩
  | array _ ih =>
      have harray := ReadsAs.array (g := fun v => v.reread.normal) ih
      rwa [reread, normal, rereadItems_eq_map, normalItems_eq_map, List.map_map]
  | object _ ih =>
      have hobject := ReadsAs.object (g := fun v => v.reread.normal) ih
      rw [reread, normal, rereadMembers_eq_map, normalMembers_eq_map,
        List.map_map]
      exact hobject

end Value

-- =============================================================== reading

/-- A value whose brackets are not too deep is read from its text, with its
numbers as their texts are read and the members of its objects in order. -/
theorem read_write_within {v : Value} (h : v.Within depthLimit) :
    read (Utf8.encode v.write) = .ok v.reread.normal := by
  obtain ⟨bytes, mode, htext, hmoves, hends⟩ :=
    h.readsAs (due_value []) (Nat.le_of_eq (Nat.zero_add _)) ""
  have hbytes : Utf8.encode v.write = bytes := by
    rw [Value.write, htext, Utf8.encode_eq_flatMap]
    rfl
  rw [hbytes]
  exact read_of_moves hmoves hends

/-- A value without fractions is read back from its text, with the members
of its objects in order. -/
theorem read_write (v : Value) (h : v.isExact depthLimit = true) :
    read (Utf8.encode v.write) = .ok v.normal := by
  obtain ⟨hwithin, hreread⟩ := within_of_isExact v h
  rw [read_write_within hwithin, hreread]

end Restoration.Json
