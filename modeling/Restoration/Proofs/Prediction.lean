/-
What the answer to a result is, whatever the result looks like. Only a text
that is not JSON has none. Otherwise the answer is said by the first element
of the result's `predictions`, and by nothing else (`top_says_first`):
`Says` is that relation, and every element says one text.

A result and its own text mostly give one answer. Read again, a text gives
the value it was written from with each number as its own text is read, and
a double need not be read back as itself (`top_string_write_float`).
Whatever does not show in the answer may change in this way
(`top_string_write`).
-/
import Restoration.Prediction
import Restoration.Proofs.Json.Readable

namespace Restoration.Prediction

open Json (Value Members)

-- ============================================================= documents

/-- What a result is about: a text is read once, any other value is it. -/
inductive Document : Value → Value → Prop
  | text {s : String} {doc : Value} (h : Json.readText s = .ok doc) :
      Document (.string s) doc
  | itself {v : Value} (h : ∀ s, v ≠ .string s) : Document v v

/-- The first element of the array `predictions` of a document. -/
def FirstIs (doc prediction : Value) : Prop :=
  ∃ members later, doc = .object members
    ∧ ("predictions", Value.array (prediction :: later)) ∈ members

/-- The text that a prediction says. -/
inductive Says : Value → String → Prop
  | string (s : String) : Says (.string s) s
  | member {members : Members} {s : String}
      (h : ("text", .string s) ∈ members) :
      Says (.object members) s
  | written {prediction : Value} (hstring : ∀ s, prediction ≠ .string s)
      (hmember : ∀ members s, prediction = .object members →
        ("text", .string s) ∉ members) :
      Says prediction prediction.write

variable {result doc prediction : Value} {room : Nat}

theorem parseText_eq_ok_iff {s : String} {v : Value} :
    Json.parseText s = .ok v ↔ Json.readText s = .ok v := by
  unfold Json.parseText Json.parse Json.readText
  cases Json.read (Utf8.encode s) with
  | ok w => simp
  | error fault => simp

theorem document_eq_ok_iff :
    document result = .ok doc ↔ Document result doc := by
  constructor
  · intro h
    unfold document at h
    split at h
    case h_1 s => exact .text (parseText_eq_ok_iff.mp h)
    case h_2 hstring =>
      cases h
      exact .itself hstring
  · intro h
    cases h with
    | text hread => exact parseText_eq_ok_iff.mpr hread
    | itself hstring =>
        unfold document
        split
        case h_1 s => exact absurd rfl (hstring s)
        case h_2 => rfl

theorem document_eq_error_iff :
    (∃ error, document result = .error error)
      ↔ ∃ s, result = .string s ∧ ∀ doc, Json.readText s ≠ .ok doc := by
  constructor
  · rintro ⟨error, h⟩
    unfold document at h
    split at h
    case h_1 s =>
      refine ⟨s, rfl, fun doc hread => ?_⟩
      rw [parseText_eq_ok_iff.mpr hread] at h
      cases h
    case h_2 => cases h
  · rintro ⟨s, rfl, hread⟩
    cases h : document (.string s) with
    | error error => exact ⟨error, rfl⟩
    | ok doc => exact absurd (parseText_eq_ok_iff.mp h) (hread doc)

/-- A document of what the reader produces is what the reader produces. -/
theorem Document.readable (h : Document result doc)
    (hresult : result.Readable Json.depthLimit) :
    doc.Readable Json.depthLimit := by
  cases h with
  | text hread => exact Json.read_readable hread
  | itself => exact hresult

-- ============================================================ predictions

theorem first?_eq_some_iff (h : doc.Readable room) :
    first? doc = some prediction ↔ FirstIs doc prediction := by
  cases h with
  | null | bool | number | string | array =>
      simp [first?, FirstIs, Value.get?]
  | @object _ members hkeys hmembers =>
      have hget (v : Value) :
          members.get? "predictions" = some v ↔ ("predictions", v) ∈ members :=
        hkeys.get?_eq_some_iff
      rw [first?, Value.get?]
      constructor
      · intro hfirst
        split at hfirst
        case h_1 v later hsome =>
          cases hfirst
          exact ⟨members, later, rfl, (hget _).mp hsome⟩
        case h_2 => cases hfirst
      · rintro ⟨members', later, ⟨⟩, hmem⟩
        rw [(hget _).mpr hmem]

/-- What is said is the text of the prediction. -/
theorem Says.text_eq (h : prediction.Readable room) {t : String}
    (hsaid : Says prediction t) :
    text prediction = t := by
  cases hsaid with
  | string s => rfl
  | @member members s hmem =>
      cases h with
      | object hkeys _ =>
          rw [text, hkeys.get?_eq_some_iff.mpr hmem]
  | written hstring hmember =>
      unfold text
      split
      case h_1 s => exact absurd rfl (hstring s)
      case h_2 members =>
        cases h with
        | object hkeys _ =>
            split
            case h_1 s hsome =>
              exact absurd (hkeys.get?_eq_some_iff.mp hsome)
                (hmember members s rfl)
            case h_2 => rfl
      case h_3 => rfl

/-- Every prediction says something. -/
theorem says_text (h : prediction.Readable room) :
    Says prediction (text prediction) := by
  by_cases hstring : ∃ s, prediction = .string s
  · obtain ⟨s, rfl⟩ := hstring
    exact .string s
  by_cases hmember : ∃ members s, prediction = .object members ∧
    ("text", .string s) ∈ members
  · obtain ⟨members, s, rfl, hmem⟩ := hmember
    have hsaid : Says (.object members) s := .member hmem
    rwa [hsaid.text_eq h]
  · have hsaid : Says prediction prediction.write :=
      .written (fun s heq => hstring ⟨s, heq⟩)
        fun members s heq hmem => hmember ⟨members, s, heq, hmem⟩
    rwa [hsaid.text_eq h]

-- ============================================================== answers

/-- Without a first element there is no answer but the one for none. -/
theorem top_eq_noResult (hresult : result.Readable Json.depthLimit)
    (hdoc : Document result doc)
    (hnone : ¬ ∃ prediction, FirstIs doc prediction) :
    top result = .ok noResult := by
  rw [top, document_eq_ok_iff.mpr hdoc]
  dsimp only
  cases hfirst : first? doc with
  | none => rfl
  | some prediction =>
      exact absurd ⟨_, (first?_eq_some_iff (hdoc.readable hresult)).mp hfirst⟩
        hnone

/-- The answer is the text of the first element. -/
theorem top_eq_text (hresult : result.Readable Json.depthLimit)
    (hdoc : Document result doc) (hfirst : FirstIs doc prediction) :
    top result = .ok (text prediction) := by
  rw [top, document_eq_ok_iff.mpr hdoc]
  dsimp only
  rw [(first?_eq_some_iff (hdoc.readable hresult)).mpr hfirst]

/-- A first element is no deeper than its document. -/
theorem FirstIs.readable (h : FirstIs doc prediction)
    (hdoc : doc.Readable room) :
    prediction.Readable room := by
  obtain ⟨members, later, rfl, hmem⟩ := h
  cases hdoc with
  | object _ hmembers =>
      have harray := hmembers _ hmem
      cases harray with
      | array hitems =>
          exact (hitems prediction List.mem_cons_self).mono (by omega)

/-- A prediction without fractions is read back from its text. -/
theorem readText_write_of_whole (h : prediction.Readable Json.depthLimit)
    (hwhole : ∀ x, ¬ prediction.Holds (.float x)) :
    Json.readText prediction.write = .ok prediction := by
  rw [Json.readText_write h, Json.reread_eq_self h.within fun x hx =>
      absurd hx (hwhole x)]

/-- A result has no answer only if it is a text that is not JSON. Otherwise
its answer is said by the first element of its document, the one for no
result if there is none; it is the same for all results with this first
element. A prediction that is written without fractions is read back from
the answer. -/
theorem top_says_first {b : Bytes} (hread : Json.read b = .ok result) :
    ((∃ error, top result = .error error)
        ↔ ∃ s, result = .string s ∧ ∀ doc, Json.readText s ≠ .ok doc)
      ∧ (∀ doc, Document result doc →
        ((¬ ∃ prediction, FirstIs doc prediction) →
          top result = .ok "No result")
        ∧ ∀ prediction, FirstIs doc prediction →
          (∃ t, top result = .ok t ∧ ∀ t', Says prediction t' ↔ t' = t)
          ∧ ((∀ x, ¬ prediction.Holds (.float x)) →
            Json.readText prediction.write = .ok prediction))
      ∧ ∀ b' result', Json.read b' = .ok result' → ∀ doc doc' prediction,
        Document result doc → Document result' doc' → FirstIs doc prediction →
          FirstIs doc' prediction → top result' = top result := by
  have hresult := Json.read_readable hread
  refine ⟨?_, fun doc hdoc =>
    ⟨top_eq_noResult hresult hdoc, fun prediction hfirst => ?_⟩, ?_⟩
  · rw [← document_eq_error_iff, top]
    cases h : document result with
    | error error => simp
    | ok doc =>
        dsimp only
        split <;> simp
  · have hprediction := hfirst.readable (hdoc.readable hresult)
    refine ⟨⟨text prediction, top_eq_text hresult hdoc hfirst,
      fun t => ⟨fun hsaid => ?_, ?_⟩⟩, readText_write_of_whole hprediction⟩
    · exact (hsaid.text_eq hprediction).symm
    · rintro rfl
      exact says_text hprediction
  · intro b' result' hread' doc doc' prediction hdoc hdoc' hfirst hfirst'
    rw [top_eq_text hresult hdoc hfirst,
      top_eq_text (Json.read_readable hread') hdoc' hfirst']

/-- An answer taken from an object's `text`, with something behind it. -/
theorem top_says_first_member :
    ∃ b result, Json.read b = .ok result
      ∧ result = .object
        [("predictions", .array [.object [("text", .string "αβ")], .null])]
      ∧ top result = .ok "αβ" := by
  have hread := Json.read_write
    (.object
      [("predictions", .array [.object [("text", .string "αβ")], .null])]) rfl
  refine ⟨_, _, hread, rfl, ?_⟩
  obtain ⟨-, hanswer, -⟩ := top_says_first hread
  obtain ⟨⟨t, htop, hsaid⟩, -⟩ := (hanswer _ (.itself nofun)).2
    (.object [("text", .string "αβ")])
    ⟨_, [.null], rfl, List.mem_singleton_self _⟩
  obtain rfl := (hsaid "αβ").mp (.member (List.mem_singleton_self _))
  exact htop

-- ============================================================ its own text

/-- The first element of a document whose numbers have been read again. -/
theorem firstIs_reread_iff {v : Value} :
    FirstIs v.reread prediction ↔ ∃ first, FirstIs v first ∧
      first.reread = prediction := by
  constructor
  · rintro ⟨members', later, heq, hmem⟩
    cases v with
    | null | bool | number | string | array => cases heq
    | object members =>
        cases heq
        rw [Json.rereadMembers_eq_map] at hmem
        obtain ⟨⟨key, w⟩, hmember, hpair⟩ := List.mem_map.mp hmem
        obtain ⟨rfl, harray⟩ := Prod.mk.inj hpair
        cases w with
        | null | bool | number | string | object => cases harray
        | array items =>
            cases items with
            | nil => cases harray
            | cons first rest =>
                obtain ⟨rfl, -⟩ := List.cons.inj (Value.array.inj harray)
                exact ⟨first, ⟨members, rest, rfl, hmember⟩, rfl⟩
  · rintro ⟨first, ⟨members, later, rfl, hmem⟩, rfl⟩
    refine ⟨_, Value.rereadItems later, rfl, ?_⟩
    rw [Json.rereadMembers_eq_map]
    exact List.mem_map.mpr ⟨_, hmem, rfl⟩

/-- A prediction that has a text of its own, or is written with no double
but such as are read back from their own text. -/
def Steady (prediction : Value) : Prop :=
  (∃ s, prediction = .string s)
    ∨ (∃ members s, prediction = .object members ∧
      ("text", .string s) ∈ members)
    ∨ ∀ x, prediction.Holds (.float x) →
      Json.readText (Json.Number.write (.float x)) = .ok (.number (.float x))

theorem Steady.text_reread (h : Steady prediction)
    (hprediction : prediction.Readable room) :
    text prediction.reread = text prediction := by
  rcases h with ⟨s, rfl⟩ | ⟨members, s, rfl, hmem⟩ | hfloats
  · rfl
  · have hsaid : Says (.object members) s := .member hmem
    have hsaid' : Says (Value.object members).reread s := by
      rw [Value.reread, Json.rereadMembers_eq_map]
      exact .member (List.mem_map.mpr ⟨_, hmem, rfl⟩)
    rw [hsaid.text_eq hprediction, hsaid'.text_eq hprediction.reread]
  · have hreread (x) (hx : prediction.Holds (.float x)) :
        Json.Number.reread (.float x) = .float x := by
      rw [Json.Number.reread, hfloats x hx]
    rw [Json.reread_eq_self hprediction.within hreread]

/-- The text of a result that is not itself a text is always read, and gives
the answer to the result with each of its numbers as that number's own text
is read. That is the answer to the result unless its first element is
written with a double that is not read back. -/
theorem top_string_write {b : Bytes} {v : Value} (hread : Json.read b = .ok v)
    (hstring : ∀ s, v ≠ .string s) :
    (∀ n, v.Holds n → Json.readText n.write = .ok (.number n.reread))
      ∧ (∃ t, top (.string v.write) = .ok t)
      ∧ top (.string v.write) = top v.reread
      ∧ ((∀ first, FirstIs v first → Steady first) →
        top (.string v.write) = top v) := by
  have hv := Json.read_readable hread
  have hdoc : Document v v := .itself hstring
  have hdoc' : Document v.reread v.reread := by
    refine .itself fun s heq => ?_
    cases v with
    | string s => exact hstring s rfl
    | null | bool | number | array | object => cases heq
  have htext : Document (.string v.write) v.reread :=
    .text (Json.readText_write hv)
  have hreread : top (.string v.write) = top v.reread := by
    rw [top, top, document_eq_ok_iff.mpr htext, document_eq_ok_iff.mpr hdoc']
  refine ⟨fun n _ => Json.readText_number n, ?_, hreread, fun hsteady => ?_⟩
  · rw [top, document_eq_ok_iff.mpr htext]
    dsimp only
    split
    · exact ⟨_, rfl⟩
    · exact ⟨_, rfl⟩
  · rw [hreread]
    by_cases hfirst : ∃ first, FirstIs v first
    · obtain ⟨first, hfirst⟩ := hfirst
      have hfirst' : FirstIs v.reread first.reread :=
        firstIs_reread_iff.mpr ⟨first, hfirst, rfl⟩
      rw [top_eq_text hv hdoc hfirst, top_eq_text hv.reread hdoc' hfirst',
        (hsteady first hfirst).text_reread (hfirst.readable hv)]
    · rw [top_eq_noResult hv hdoc hfirst, top_eq_noResult hv.reread hdoc']
      rintro ⟨first', hfirst'⟩
      obtain ⟨first, hfirst', -⟩ := firstIs_reread_iff.mp hfirst'
      exact hfirst ⟨first, hfirst'⟩

theorem eq_ok_of_toOption {ε α : Type} {outcome : Except ε α} {a : α}
    (h : outcome.toOption = some a) : outcome = .ok a := by
  cases outcome with
  | error e => cases h
  | ok a' => rw [Option.some.inj h]

/-- An integer comes before a double that is not read back. -/
theorem top_string_write_integer :
    ∃ v, Json.readText "\x7b\"predictions\":[7,3.0e23]\x7d" = .ok v ∧
      (∀ s, v ≠ .string s)
      ∧ top v = .ok "7" ∧ top (.string v.write) = .ok "7" := by
  have hread :
      ((Json.readText "\x7b\"predictions\":[7,3.0e23]\x7d").toOption.any
        fun v => decide (((first? v).bind Value.natural?) = some 7)
          && decide ((top v).toOption = some "7")) = true := by
    decide +kernel
  obtain ⟨v, hread, hv⟩ := (Option.any_eq_true _ _).mp hread
  rw [Bool.and_eq_true, decide_eq_true_eq, decide_eq_true_eq] at hv
  obtain ⟨hfirst, htop⟩ := hv
  have hread := eq_ok_of_toOption hread
  have hstring : ∀ s, v ≠ .string s := by
    rintro s rfl
    cases hfirst
  refine ⟨v, hread, hstring, eq_ok_of_toOption htop, ?_⟩
  obtain ⟨-, -, -, hsteady⟩ := top_string_write hread hstring
  rw [hsteady ?_, eq_ok_of_toOption htop]
  intro first hfirstIs
  rw [(first?_eq_some_iff (Json.read_readable hread)).mpr hfirstIs,
    Option.bind_some] at hfirst
  refine Or.inr (Or.inr fun x hx => ?_)
  cases hx with
  | number | item | member => cases hfirst

/-- The double `3e23` is not read back from its own text, since ten to the
power of 23 is rounded before it is used. -/
theorem top_string_write_float :
    ∃ v, Json.readText "\x7b\"predictions\":[3.0e23]\x7d" = .ok v ∧
      (∀ s, v ≠ .string s)
      ∧ top v = .ok "3e+23" ∧
      top (.string v.write) = .ok "2.9999999999999997e+23" := by
  have hread :
      ((Json.readText "\x7b\"predictions\":[3.0e23]\x7d").toOption.any fun v =>
      (v.get? "predictions").isSome && decide ((top v).toOption = some "3e+23")
        && decide
        ((top (.string v.write)).toOption = some "2.9999999999999997e+23"))
      = true := by
    decide +kernel
  obtain ⟨v, hread, hv⟩ := (Option.any_eq_true _ _).mp hread
  rw [Bool.and_eq_true, Bool.and_eq_true, decide_eq_true_eq, decide_eq_true_eq]
    at hv
  obtain ⟨⟨hmember, hvalue⟩, htext⟩ := hv
  refine ⟨v, eq_ok_of_toOption hread, ?_, eq_ok_of_toOption hvalue,
    eq_ok_of_toOption htext⟩
  rintro s rfl
  exact Bool.false_ne_true hmember

end Restoration.Prediction
