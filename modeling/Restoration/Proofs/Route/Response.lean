/-
What every request to the route is answered with.

A body of acceptable length gets status 200 and an object with one member,
the prediction (`Carries`). Whatever fails on the way there, be it the
body, the restorer or its result, is told in that prediction (`Fails` lists
the stages at which something can fail). A longer body is refused before
any of this: that response has another status and is no JSON at all, and
the restorer hears nothing of it.
-/
import Restoration.Proofs.Route

namespace Restoration.Route

open Json (Value)

variable {σ : Type} {restore : Restorer σ} {params : Params} {state : σ}

-- ============================================================= responses

/-- A response carries a prediction: its body is an object with this one
member. -/
structure Carries (r : Http.Response) (prediction : String) : Prop where
  status : r.status.code = 200
  contentType : r.contentType = some Http.jsonType
  body : Json.read r.body = .ok (.object [("prediction", .string prediction)])

/-- The text of an answer reads back as the answer. -/
theorem read_answer (prediction : String) :
    Json.read (Utf8.encode (Prediction.answer prediction).write)
      = .ok (Prediction.answer prediction) :=
  Json.read_write (Prediction.answer prediction) rfl

/-- The response of a prediction carries it. -/
theorem carries_predicting (prediction : String) :
    Carries (predicting prediction) prediction where
  status := rfl
  contentType := rfl
  body := read_answer prediction

-- ============================================================== failures

/-- What fails while a body is answered. -/
inductive Fails (restore : Restorer σ) (params : Params) (state : σ)
    (body : Bytes) :
    Failure → Prop
  /-- The body is no request. -/
  | body {f : Failure} (h : textOfBody body = .error f) :
      Fails restore params state body f
  /-- The restorer does not restore the text. -/
  | restorer {text : String} {r : Restored σ} {f : Failure}
      (h : wanted? body = some text)
      (hrestored : restore state text params = some r)
      (hresult : r.result = .error f) : Fails restore params state body f
  /-- Its result cannot be read. -/
  | result {text : String} {r : Restored σ} {document : Value} {e : Json.Error}
      (h : wanted? body = some text)
      (hrestored : restore state text params = some r)
      (hresult : r.result = .ok document)
      (htop : Prediction.top document = .error e) :
      Fails restore params state body (.json e)

/-- A body without a text to restore has nothing to ask of the worker, and
is answered with the failure. -/
theorem refusal_of_error {body : Bytes} {f : Failure}
    (h : textOfBody body = .error f) :
    wanted? body = none ∧ refusal body = failed f := by
  cases taken body with
  | wanted text hwanted htext hne =>
      rw [htext] at h
      cases h
  | empty hwanted htext hrefusal =>
      rw [htext] at h
      cases h
  | refused g hwanted htext hrefusal =>
      rw [htext] at h
      injection h with h
      exact ⟨hwanted, h ▸ hrefusal⟩

/-- The prediction of a body's answer, in which a failure is told. -/
theorem answer_fails {body : Bytes} {a : Answered σ}
    (ha : answer restore params state body = some a) {f : Failure}
    (h : Fails restore params state body f) : a.prediction = failed f := by
  have hmade : ∀ {text : String} {r : Restored σ}, wanted? body = some text →
      restore state text params = some r → a.prediction = outcome r.result := by
    intro text r hwanted hrestored
    have hanswer := answer_wanted hwanted restore params state
    rw [ha, hrestored, Option.map_some, Option.map_some] at hanswer
    exact congrArg Prod.fst (Option.some.inj hanswer)
  cases h with
  | body h =>
      obtain ⟨hwanted, hrefusal⟩ := refusal_of_error h
      obtain ⟨events, hanswer⟩ := answer_refused hwanted restore params state
      rw [ha] at hanswer
      rw [← hrefusal, Option.some.inj hanswer]
  | restorer hwanted hrestored hresult =>
      rw [hmade hwanted hrestored, hresult]
      rfl
  | result hwanted hrestored hresult htop =>
      rw [hmade hwanted hrestored, hresult, outcome, htop]
      rfl

/-- The route answers whenever the worker's call ends. -/
theorem answer_isSome {body : Bytes}
    (hends : ∀ text, wanted? body = some text →
      (restore state text params).isSome) :
    ∃ a, answer restore params state body = some a := by
  cases hwanted : wanted? body with
  | none =>
      obtain ⟨events, hanswer⟩ := answer_refused hwanted restore params state
      exact ⟨_, hanswer⟩
  | some text =>
      obtain ⟨r, hr⟩ := Option.isSome_iff_exists.mp (hends text hwanted)
      have hanswer := answer_wanted hwanted restore params state
      rw [hr, Option.map_some, Option.map_eq_some_iff] at hanswer
      obtain ⟨a, ha, -⟩ := hanswer
      exact ⟨a, ha⟩

-- ============================================================ every body

/-- A body beyond the limit is refused before the route looks at it: no call
is made and the worker stays as it is. -/
theorem respond_tooLarge {r : Http.Request} (hpath : pathOf r = path)
    (hmethod : r.method = "POST") (hlong : bodyLimit < r.body.length) :
    respond restore params state r = some ⟨tooLarge, [], state⟩ := by
  unfold respond
  rw [if_neg fun hne => hne hpath, if_neg fun hne => hne hmethod, if_pos hlong]

/-- What such a refusal says is no JSON. -/
theorem read_tooLarge :
    Json.read tooLarge.body = .error ⟨.expectedValue, ⟨1, 1⟩⟩ := by
  with_unfolding_all rfl

/-- Every body of acceptable length is answered with status 200 and an
object that has one member, a prediction, in which everything that fails
is told. A longer body is refused with another status and a text that is
no JSON, and the restorer is not asked. -/
theorem respond_posted (restore : Restorer σ) (params : Params) (state : σ)
    (r : Http.Request) (hpath : pathOf r = path) (hmethod : r.method = "POST")
    (hends : ∀ text, wanted? r.body = some text →
      (restore state text params).isSome) :
    (r.body.length ≤ bodyLimit → ∃ a prediction,
        respond restore params state r = some a ∧ Carries a.response prediction
          ∧ ∀ f, Fails restore params state r.body f →
            prediction = "Error: " ++ f.message)
      ∧ (bodyLimit < r.body.length → ∃ a,
        respond restore params state r = some a ∧ a.state = state
          ∧ a.response.status.code = 413
          ∧ ∀ v, Json.read a.response.body ≠ .ok v) := by
  constructor
  · intro hbody
    -- an accepted request gets what its body is answered with
    obtain ⟨a, ha⟩ := answer_isSome hends
    have hrespond :=
      respond_accepted ⟨hpath, hmethod, hbody⟩ restore params state
    rw [ha, Option.map_some, Option.map_eq_some_iff] at hrespond
    obtain ⟨b, hb, heq⟩ := hrespond
    refine ⟨b, a.prediction, hb, ?_, fun f hf => answer_fails ha hf⟩
    rw [show b.response = predicting a.prediction from congrArg Prod.fst heq]
    exact carries_predicting a.prediction
  · intro hlong
    refine ⟨_, respond_tooLarge hpath hmethod hlong, rfl, rfl,
      fun v hread => ?_⟩
    rw [show Json.read tooLarge.body = _ from read_tooLarge] at hread
    cases hread

/-- A request with the given body. -/
def posted (body : Bytes) : Http.Request := ⟨"POST", "/restore", none, body⟩

/-- The posted bodies go to the path of the route. -/
theorem pathOf_posted (body : Bytes) : pathOf (posted body) = path := by
  show pathOf (posted []) = path
  with_unfolding_all rfl

/-- An object without members behind blanks, more than two megabytes of
them. -/
def blankBody : Bytes := List.replicate 2097152 0x20 ++ Utf8.encode "\x7b\x7d"

/-- The blank body is longer than the limit. -/
theorem bodyLimit_lt_blankBody : bodyLimit < blankBody.length := by
  rw [blankBody, List.length_append, List.length_replicate]
  exact Nat.lt_add_of_pos_right (by decide +kernel)

/-- A body of the wrong type is told so, and one that is too long is not
read. -/
theorem respond_posted_seven :
    (∃ a,
      respond echo .default 0 (posted (Utf8.encode "\x7b\"text\":7\x7d"))
          = some a
        ∧ Carries a.response
          "Error: invalid type: integer `7`, expected a string")
      ∧ ∃ a, respond echo .default 0 (posted blankBody) = some a
        ∧ a.response.status.code = 413 := by
  have hends : ∀ body text, wanted? body = some text →
      (echo 0 text .default).isSome :=
    fun _ _ _ => rfl
  obtain ⟨a, prediction, ha, hcarries, hfails⟩ :=
    (respond_posted echo .default 0 (posted (Utf8.encode "\x7b\"text\":7\x7d"))
      (pathOf_posted _) rfl (hends _)).1 (by decide +kernel)
  obtain ⟨b, hb, -, hstatus, -⟩ :=
    (respond_posted echo .default 0 (posted blankBody) (pathOf_posted _) rfl
      (hends _)).2 bodyLimit_lt_blankBody
  have htext : textOfBody (Utf8.encode "\x7b\"text\":7\x7d")
      = .error (.json (.wrongType (.number (.integer 7 rfl)) "a string")) := by
    with_unfolding_all rfl
  rw [hfails _ (.body htext)] at hcarries
  exact ⟨⟨a, ha, hcarries⟩, b, hb, hstatus⟩

/-- So not every request to the route is answered with a prediction. -/
theorem respond_posted_blank :
    ¬ ∀ r : Http.Request, pathOf r = path → r.method = "POST" →
      ∀ a, respond echo .default 0 r = some a → ∃ prediction,
        Carries a.response prediction := by
  intro hall
  obtain ⟨prediction, hcarries⟩ :=
    hall (posted blankBody) (pathOf_posted _) rfl _
    (respond_tooLarge (pathOf_posted _) rfl bodyLimit_lt_blankBody)
  have hstatus : (413 : Nat) = 200 := hcarries.status
  cases hstatus

end Restoration.Route
