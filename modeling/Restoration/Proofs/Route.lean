/-
The route as a function of what is asked and what the restorer makes of it.

A body either asks for a text that is not empty (`wanted?`), or is answered
without the restorer, by what is written in it alone (`refusal`). Requests
that come one after the other are therefore answered by giving the
restorer the texts that are wanted, in order (`restoreAll`), and handing
its results out to the bodies that wanted them (`answers`). The restorer
may be any machine whatever, so that the equation also says which calls it
gets: `recording` writes them down.

What a body asks for is the value of its last `text`, character for
character: this is shown for bodies as the writer of JSON puts them down,
with their members in any order and keys that occur more than once.
-/
import Mathlib.Data.List.InsertIdx
import Restoration.Proofs.Json.Values
import Restoration.Route

namespace Restoration

open Json (Value)

namespace Route

-- ============================================================= reference

/-- The text that the value of `text` asks for: a string that is not empty. -/
def asked? : Option Value → Option String
  | some (.string text) => if text = "" then none else some text
  | _ => none

/-- The text that a body wants restored. -/
def wanted? (body : Bytes) : Option String :=
  match Json.read body with
  | .ok (.object members) => asked? (Json.Members.get? "text" members)
  | _ => none

/-- The prediction for a body that wants nothing restored. -/
def refusal (body : Bytes) : String :=
  match Json.read body with
  | .error fault => "Error: " ++ fault.message
  | .ok (.object members) =>
    match Json.Members.get? "text" members with
    | none => ""
    | some .null => ""
    | some (.string _) => ""
    | some other =>
      "Error: invalid type: " ++ other.describe ++ ", expected a string"
  | .ok other =>
    "Error: bad request: expected a JSON object, got " ++ other.write

/-- The prediction for a text, by what the restorer made of it. -/
def outcome (result : Except Failure Value) : String :=
  match result with
  | .error failure => "Error: " ++ failure.message
  | .ok document =>
    match Prediction.top document with
    | .error e => "Error: " ++ e.message
    | .ok prediction => prediction

/-- The predictions for bodies, when the results for the texts that they
want come in order. -/
def answers : List Bytes → List (Except Failure Value) → List String
  | [], _ => []
  | body :: bodies, results =>
    match wanted? body with
    | none => refusal body :: answers bodies results
    | some _ =>
      match results with
      | [] => []
      | result :: results => outcome result :: answers bodies results

variable {σ : Type}

/-- The restorer gets texts, one after the other. -/
def restoreAll (restore : Restorer σ) (params : Params) :
    σ → List String → Option (List (Restored σ))
  | _, [] => some []
  | state, text :: rest => do
    let first ← restore state text params
    let others ← restoreAll restore params first.state rest
    some (first :: others)

/-- A request that the route takes. -/
structure Accepted (r : Http.Request) : Prop where
  path : pathOf r = path
  method : r.method = "POST"
  body : r.body.length ≤ bodyLimit

/-- The response that carries a prediction. -/
def predicting (prediction : String) : Http.Response :=
  ⟨⟨200⟩, some Http.jsonType, none,
    Utf8.encode (Prediction.answer prediction).write⟩

-- ============================================================== one body

/-- What becomes of a body before the restorer is asked. -/
inductive Taken (body : Bytes) : Prop
  /-- It wants a text restored. -/
  | wanted (text : String) (hwanted : wanted? body = some text)
      (htext : textOfBody body = .ok text) (hne : text ≠ "")
  /-- It wants the empty text. -/
  | empty (hwanted : wanted? body = none) (htext : textOfBody body = .ok "")
      (hrefusal : refusal body = "")
  /-- It is no request. -/
  | refused (f : Failure) (hwanted : wanted? body = none)
      (htext : textOfBody body = .error f) (hrefusal : refusal body = failed f)

/-- The wording for a member of the wrong type. -/
theorem failed_wrongType (v : Value) :
    failed (.json (.wrongType v "a string"))
      = "Error: invalid type: " ++ v.describe ++ ", expected a string" := by
  show "Error: " ++
    ("invalid type: " ++ v.describe ++ ", expected " ++ "a string") = _
  rw [String.append_assoc, String.append_assoc, ← String.append_assoc]
  rfl

/-- The wording for a body that is no object. -/
theorem failed_notObject (v : Value) :
    failed (.badRequest (.notObject v))
      = "Error: bad request: expected a JSON object, got " ++ v.write := by
  show "Error: " ++
    ("bad request: " ++ ("expected a JSON object, got " ++ v.write)) = _
  rw [← String.append_assoc, ← String.append_assoc]
  rfl

/-- Every body is one of these. -/
theorem taken (body : Bytes) : Taken body := by
  cases hread : Json.read body with
  | error fault =>
      have hparse : Json.parse body = .error (.malformed fault) := by
        rw [Json.parse, hread]
      exact .refused (.json (.malformed fault)) (by simp only [wanted?, hread])
        (by simp only [textOfBody, hparse]) (by simp only [refusal, hread]; rfl)
  | ok v =>
      have hparse : Json.parse body = .ok v := by rw [Json.parse, hread]
      cases v with
      | object members =>
          cases hget : Json.Members.get? "text" members with
          | none =>
              exact .empty (by simp only [wanted?, asked?, hread, hget])
                (by simp only [textOfBody, hparse, hget]; rfl)
                (by simp only [refusal, hread, hget])
          | some w =>
              cases w with
              | null =>
                  exact .empty (by simp only [wanted?, asked?, hread, hget])
                    (by simp only [textOfBody, hparse, hget]; rfl)
                    (by simp only [refusal, hread, hget])
              | string text =>
                  have htext : textOfBody body = .ok text := by
                    simp only [textOfBody, hparse, hget]
                    rfl
                  by_cases hne : text = ""
                  · exact .empty
                      (by simp only [wanted?, asked?, hread, hget, if_pos hne])
                      (hne ▸ htext) (by simp only [refusal, hread, hget])
                  · exact .wanted text
                      (by simp only [wanted?, asked?, hread, hget, if_neg hne])
                      htext hne
              | _ =>
                  exact .refused (.json (.wrongType _ "a string"))
                    (by simp only [wanted?, asked?, hread, hget])
                    (by simp only [textOfBody, hparse, hget]; rfl)
                    (by simp only [refusal, hread, hget, failed_wrongType])
      | _ =>
          exact .refused (.badRequest (.notObject _))
            (by simp only [wanted?, hread])
            (by rw [textOfBody, hparse])
            (by simp only [refusal, hread, failed_notObject])

/-- A body that is written as an object asks for its last `text`. -/
theorem wanted?_write {members : Json.Members}
    (h : (Value.object members).isExact Json.depthLimit = true) :
    wanted? (Utf8.encode (Value.object members).write)
      = asked? (Json.Members.get? "text" members.reverse) := by
  rw [wanted?, Json.read_write _ h, Value.normal]
  dsimp only
  rw [Json.get?_normal]
  cases Json.Members.get? "text" members.reverse with
  | none => rfl
  | some v =>
      cases v with
      | string text => rfl
      | _ => simp only [Option.map_some, Value.normal, asked?]

/-- A body that wants nothing restored is answered without the restorer. -/
theorem answer_refused {body : Bytes} (h : wanted? body = none)
    (restore : Restorer σ) (params : Params) (state : σ) :
    ∃ events,
      answer restore params state body
        = some ⟨refusal body, events, state⟩ := by
  unfold answer
  cases taken body with
  | wanted text hwanted htext hne =>
      rw [h] at hwanted
      cases hwanted
  | empty hwanted htext hrefusal =>
      rw [htext, hrefusal]
      exact ⟨_, rfl⟩
  | refused f hwanted htext hrefusal =>
      rw [htext, hrefusal]
      exact ⟨_, rfl⟩

/-- A body that wants a text restored is answered by what the restorer
makes of it. -/
theorem answer_wanted {body : Bytes} {text : String}
    (h : wanted? body = some text) (restore : Restorer σ) (params : Params)
    (state : σ) :
    (answer restore params state body).map (fun a => (a.prediction, a.state))
      = (restore state text params).map fun r =>
      (outcome r.result, r.state) := by
  cases taken body with
  | empty hwanted htext hrefusal => rw [h] at hwanted; cases hwanted
  | refused f hwanted htext hrefusal => rw [h] at hwanted; cases hwanted
  | wanted text' hwanted htext hne =>
      rw [h] at hwanted
      injection hwanted with hwanted
      subst hwanted
      unfold answer predict
      rw [htext]
      dsimp only
      rw [if_neg hne]
      cases restore state text params with
      | none => rfl
      | some r =>
          obtain ⟨result, events, state'⟩ := r
          cases result with
          | error f => rfl
          | ok document =>
              simp only [Option.bind_eq_bind, Option.bind_some,
                Option.map_some, outcome]
              cases Prediction.top document with
              | error e => rfl
              | ok prediction => rfl

-- ========================================================== one request

/-- A request that the route takes is answered by its body. -/
theorem respond_accepted {r : Http.Request} (h : Accepted r)
    (restore : Restorer σ) (params : Params) (state : σ) :
    (respond restore params state r).map (fun a => (a.response, a.state))
      = (answer restore params state r.body).map fun a =>
        (predicting a.prediction, a.state) := by
  unfold respond
  rw [if_neg fun hne => hne h.path, if_neg fun hne => hne h.method,
    if_neg (Nat.not_lt.mpr h.body), Option.map_map]
  rfl

/-- Without the restorer, if its body wants nothing restored. -/
theorem respond_refused {r : Http.Request} (h : Accepted r)
    (hwanted : wanted? r.body = none) (restore : Restorer σ) (params : Params)
    (state : σ) :
    (respond restore params state r).map (fun a => (a.response, a.state))
      = some (predicting (refusal r.body), state) := by
  obtain ⟨events, hanswer⟩ := answer_refused hwanted restore params state
  rw [respond_accepted h, hanswer]
  rfl

/-- By what the restorer makes of its text, if it wants one restored. -/
theorem respond_wanted {r : Http.Request} (h : Accepted r) {text : String}
    (hwanted : wanted? r.body = some text) (restore : Restorer σ)
    (params : Params) (state : σ) :
    (respond restore params state r).map (fun a => (a.response, a.state))
      = (restore state text params).map fun x =>
      (predicting (outcome x.result), x.state) := by
  have hanswer :=
    congrArg (Option.map fun p : String × σ => (predicting p.1, p.2))
    (answer_wanted hwanted restore params state)
  rw [Option.map_map, Option.map_map] at hanswer
  rw [respond_accepted h]
  exact hanswer

-- ========================================================= many requests

/-- The texts that requests want restored, in order. -/
def wanted (requests : List Http.Request) : List String :=
  (requests.map (·.body)).filterMap wanted?

/-- The results for texts, and the state of the restorer after them. -/
def made (state : σ) (rs : List (Restored σ)) :
    List (Except Failure Value) × σ :=
  (rs.map (·.result), (rs.getLast?.map (·.state)).getD state)

/-- The responses to requests, and the state of the restorer after them. -/
def seen (state : σ) (rs : List (Responded σ)) : List Http.Response × σ :=
  (rs.map (·.response), (rs.getLast?.map (·.state)).getD state)

theorem made_cons (state : σ) (r : Restored σ) (rs : List (Restored σ)) :
    made state (r :: rs)
      = (r.result :: (made r.state rs).1, (made r.state rs).2) := by
  cases rs <;> rfl

theorem seen_cons (state : σ) (r : Responded σ) (rs : List (Responded σ)) :
    seen state (r :: rs)
      = (r.response :: (seen r.state rs).1, (seen r.state rs).2) := by
  cases rs <;> rfl

variable {restore : Restorer σ} {params : Params}

/-- A body that wants nothing restored takes no result. -/
theorem answers_refused {body : Bytes} (h : wanted? body = none)
    (bodies : List Bytes) (results : List (Except Failure Value)) :
    answers (body :: bodies) results = refusal body ::
      answers bodies results := by
  simp only [answers, h]

/-- Any other takes the next. -/
theorem answers_wanted {body : Bytes} {text : String}
    (h : wanted? body = some text) (bodies : List Bytes)
    (result : Except Failure Value) (results : List (Except Failure Value)) :
    answers (body :: bodies) (result :: results)
      = outcome result :: answers bodies results := by
  simp only [answers, h]

/-- The restorer gets the first text, and then the others. -/
theorem restoreAll_cons (state : σ) (text : String) (texts : List String) :
    (restoreAll restore params state (text :: texts)).map (made state)
      = (restore state text params).bind fun x =>
        ((restoreAll restore params x.state texts).map (made x.state)).map
          fun p => (x.result :: p.1, p.2) := by
  rw [restoreAll]
  cases restore state text params with
  | none => rfl
  | some x =>
      simp only [Option.bind_eq_bind, Option.bind_some]
      cases restoreAll restore params x.state texts with
      | none => rfl
      | some rs => exact congrArg some (made_cons state x rs)

/-- The first request is answered, and then the others. -/
theorem respondAll_cons (state : σ) (r : Http.Request)
    (requests : List Http.Request) :
    (respondAll restore params state (r :: requests)).map (seen state)
      = ((respond restore params state r).map fun a =>
        (a.response, a.state)).bind fun a =>
        ((respondAll restore params a.2 requests).map (seen a.2)).map fun p =>
          (a.1 :: p.1, p.2) := by
  rw [respondAll]
  cases respond restore params state r with
  | none => rfl
  | some a =>
      simp only [Option.bind_eq_bind, Option.bind_some, Option.map_some]
      cases respondAll restore params a.state requests with
      | none => rfl
      | some rs => exact congrArg some (seen_cons state a rs)

/-- Requests are answered by giving the restorer the texts that are wanted,
and it is left where these leave it. -/
theorem respondAll_eq (restore : Restorer σ) (params : Params)
    {requests : List Http.Request} (h : ∀ r ∈ requests, Accepted r)
    (state : σ) :
    (respondAll restore params state requests).map (seen state)
      = ((restoreAll restore params state (wanted requests)).map
          (made state)).map fun p =>
            ((answers (requests.map (·.body)) p.1).map predicting, p.2) := by
  induction requests generalizing state with
  | nil => rfl
  | cons r requests ih =>
      obtain ⟨hr, hrequests⟩ := List.forall_mem_cons.mp h
      rw [respondAll_cons]
      cases hwanted : wanted? r.body with
      | none =>
          have hothers : wanted (r :: requests) = wanted requests :=
            List.filterMap_cons_none hwanted
          rw [respond_refused hr hwanted, Option.bind_some,
            ih hrequests, hothers, List.map_cons]
          cases restoreAll restore params state (wanted requests) with
          | none => rfl
          | some rs =>
              simp only [Option.map_some, answers_refused hwanted,
                List.map_cons]
      | some text =>
          have hothers : wanted (r :: requests) = text :: wanted requests :=
            List.filterMap_cons_some hwanted
          rw [respond_wanted hr hwanted, hothers, restoreAll_cons]
          cases restore state text params with
          | none => rfl
          | some x =>
              rw [Option.map_some, Option.bind_some, Option.bind_some,
                ih hrequests, List.map_cons]
              cases restoreAll restore params x.state (wanted requests) with
              | none => rfl
              | some rs =>
                  simp only [Option.map_some, answers_wanted hwanted,
                    List.map_cons]

-- ============================================================= recording

/-- A restorer that writes down what it is given. -/
def recording (restore : Restorer σ) : Restorer (σ × List (String × Params)) :=
  fun s text params => (restore s.1 text params).map fun r =>
    ⟨r.result, r.events, (r.state, s.2 ++ [(text, params)])⟩

/-- It gets the texts in order, each once. -/
theorem restoreAll_recording (state : σ) (log : List (String × Params))
    (texts : List String) :
    (restoreAll (recording restore) params (state, log) texts).map
        (made (state, log))
      = ((restoreAll restore params state texts).map (made state)).map fun p =>
        (p.1, (p.2, log ++ texts.map (·, params))) := by
  induction texts generalizing state log with
  | nil =>
      show some _ = some _
      rw [List.map_nil, List.append_nil]
      rfl
  | cons text texts ih =>
      rw [restoreAll_cons, restoreAll_cons, recording]
      cases restore state text params with
      | none => rfl
      | some x =>
          rw [Option.map_some, Option.bind_some, Option.bind_some, ih]
          cases restoreAll restore params x.state texts with
          | none => rfl
          | some rs =>
              simp only [Option.map_some, List.map_cons, List.append_assoc,
                List.singleton_append]

/-- A body that wants nothing restored takes no part in the other answers. -/
theorem answers_eraseIdx {body : Bytes} (h : wanted? body = none)
    (before after : List Bytes) (results : List (Except Failure Value)) :
    (answers (before ++ body :: after) results).eraseIdx before.length
      = answers (before ++ after) results := by
  induction before generalizing results with
  | nil =>
      rw [List.nil_append, answers_refused h]
      rfl
  | cons b before ih =>
      rw [List.cons_append, List.cons_append]
      cases hb : wanted? b with
      | none =>
          rw [answers_refused hb, answers_refused hb]
          exact congrArg (refusal b :: ·) (ih results)
      | some text =>
          cases results with
          | nil => simp only [answers, hb, List.eraseIdx_nil]
          | cons result results =>
              rw [answers_wanted hb, answers_wanted hb]
              exact congrArg (outcome result :: ·) (ih results)

/-- It stands where the body stands, if there are results for those before. -/
theorem answers_getElem? {body : Bytes} (h : wanted? body = none)
    (before after : List Bytes) {results : List (Except Failure Value)}
    (hresults : (before.filterMap wanted?).length ≤ results.length) :
    (answers (before ++ body :: after) results)[before.length]?
      = some (refusal body) := by
  induction before generalizing results with
  | nil =>
      rw [List.nil_append, answers_refused h]
      rfl
  | cons b before ih =>
      rw [List.cons_append]
      cases hb : wanted? b with
      | none =>
          rw [List.filterMap_cons_none hb] at hresults
          rw [answers_refused hb, List.length_cons, List.getElem?_cons_succ,
            ih hresults]
      | some text =>
          rw [List.filterMap_cons_some hb, List.length_cons] at hresults
          cases results with
          | nil => exact absurd hresults (Nat.not_succ_le_zero _)
          | cons result results =>
              rw [answers_wanted hb, List.length_cons, List.getElem?_cons_succ,
                ih (Nat.le_of_succ_le_succ hresults)]

/-- A body that wants a text restored has the result of its place among
those that do. -/
theorem answers_getElem?_wanted {body : Bytes} {text : String}
    (h : wanted? body = some text) (before after : List Bytes)
    {results : List (Except Failure Value)} {result : Except Failure Value}
    (hresult : results[(before.filterMap wanted?).length]? = some result) :
    (answers (before ++ body :: after) results)[before.length]?
      = some (outcome result) := by
  induction before generalizing results with
  | nil =>
      obtain ⟨results, rfl⟩ : ∃ others, results = result :: others := by
        cases results with
        | nil => cases hresult
        | cons first others =>
            exact ⟨others, congrArg (· :: others) (Option.some.inj hresult)⟩
      rw [List.nil_append, answers_wanted h]
      rfl
  | cons b before ih =>
      rw [List.cons_append]
      cases hb : wanted? b with
      | none =>
          rw [List.filterMap_cons_none hb] at hresult
          rw [answers_refused hb, List.length_cons,
            List.getElem?_cons_succ, ih hresult]
      | some other =>
          rw [List.filterMap_cons_some hb, List.length_cons] at hresult
          cases results with
          | nil => cases hresult
          | cons first others =>
              rw [answers_wanted hb, List.length_cons,
                List.getElem?_cons_succ, ih hresult]

/-- There are as many results as texts. -/
theorem restoreAll_length {state : σ} {texts : List String}
    {rs : List (Restored σ)}
    (h : restoreAll restore params state texts = some rs) :
    rs.length = texts.length := by
  induction texts generalizing state rs with
  | nil =>
      injection h with h
      subst h
      rfl
  | cons text texts ih =>
      rw [restoreAll] at h
      simp only [Option.bind_eq_bind, Option.bind_eq_some_iff,
        Option.some.injEq] at h
      obtain ⟨first, -, others, hothers, rfl⟩ := h
      rw [List.length_cons, List.length_cons, ih hothers]

-- ============================================================= reference

/-- The responses carry the reference answers to the bodies. -/
theorem respondAll_answers (restore : Restorer σ) (params : Params) (state : σ)
    {requests : List Http.Request} (h : ∀ r ∈ requests, Accepted r) :
    (respondAll restore params state requests).map (·.map (·.response))
      = (restoreAll restore params state (wanted requests)).map fun rs =>
        (answers (requests.map (·.body)) (rs.map (·.result))).map
          predicting := by
  have hseen :=
    congrArg (Option.map Prod.fst) (respondAll_eq restore params h state)
  rw [Option.map_map, Option.map_map, Option.map_map] at hseen
  exact hseen

/-- The restorer gets the texts that are wanted, in order and once each. -/
theorem respondAll_recording (restore : Restorer σ)
    (params : Params) (state : σ) {requests : List Http.Request}
    (h : ∀ r ∈ requests, Accepted r) :
    (respondAll (recording restore) params (state, []) requests).map
        (fun rs => (rs.map (·.response), (seen (state, []) rs).2.2))
      = (respondAll restore params state requests).map
        (fun rs =>
          (rs.map (·.response), (wanted requests).map (·, params))) := by
  have hplain := respondAll_eq restore params h state
  have hrecording := respondAll_eq (recording restore) params h (state, [])
  rw [restoreAll_recording] at hrecording
  have hleft := congrArg (Option.map fun q => (q.1, q.2.2)) hrecording
  have hright := congrArg
    (Option.map fun q => (q.1, (wanted requests).map (·, params))) hplain
  rw [Option.map_map] at hleft hright
  refine hleft.trans (Eq.trans ?_ hright.symm)
  cases restoreAll restore params state (wanted requests) with
  | none => rfl
  | some rs => rfl

section Idle

variable {before after : List Http.Request} {r : Http.Request}

/-- A request that wants nothing restored does not change what is wanted. -/
theorem wanted_idle (hidle : wanted? r.body = none) :
    wanted (before ++ r :: after) = wanted (before ++ after) := by
  unfold wanted
  rw [List.map_append, List.map_append, List.map_cons, List.filterMap_append,
    List.filterMap_append, List.filterMap_cons_none hidle]

/-- Without it the other requests are answered alike. -/
theorem respondAll_eraseIdx (restore : Restorer σ) (params : Params) (state : σ)
    (h : ∀ q ∈ before ++ r :: after, Accepted q)
    (hidle : wanted? r.body = none) :
    (respondAll restore params state (before ++ r :: after)).map
        (fun rs => (rs.map (·.response)).eraseIdx before.length)
      = (respondAll restore params state (before ++ after)).map
        (·.map (·.response)) := by
  have hothers : ∀ q ∈ before ++ after, Accepted q := by
    intro q hq
    rcases List.mem_append.mp hq with hq | hq
    · exact h q (List.mem_append_left _ hq)
    · exact h q (List.mem_append_right _ (List.mem_cons_of_mem _ hq))
  have hlength : before.length = (before.map (·.body)).length := by
    rw [List.length_map]
  have herase := congrArg (Option.map (List.eraseIdx · before.length))
    (respondAll_answers restore params state h)
  rw [Option.map_map, Option.map_map] at herase
  refine herase.trans ?_
  rw [respondAll_answers restore params state hothers, wanted_idle hidle,
    List.map_append, List.map_append, List.map_cons]
  cases restoreAll restore params state (wanted (before ++ after)) with
  | none => rfl
  | some rs =>
      rw [Option.map_some, Option.map_some, Function.comp_apply,
        List.eraseIdx_map, hlength, answers_eraseIdx hidle]

/-- It has an answer of its own. -/
theorem respondAll_getElem? (restore : Restorer σ) (params : Params) (state : σ)
    (h : ∀ q ∈ before ++ r :: after, Accepted q) (hidle : wanted? r.body = none)
    {rs : List (Responded σ)}
    (hrs : respondAll restore params state (before ++ r :: after) = some rs) :
    (rs.map (·.response))[before.length]?
      = some (predicting (refusal r.body)) := by
  have hresponses := respondAll_answers restore params state h
  rw [hrs] at hresponses
  obtain ⟨xs, hxs, hresponses⟩ := Option.map_eq_some_iff.mp hresponses.symm
  have hlength : before.length = (before.map (·.body)).length := by
    rw [List.length_map]
  have hmany : ((before.map (·.body)).filterMap wanted?).length
      ≤ (xs.map (·.result)).length := by
    rw [List.length_map, restoreAll_length hxs, wanted, List.map_append,
      List.filterMap_append, List.length_append]
    exact Nat.le_add_right _ _
  dsimp only at hresponses
  rw [← hresponses, List.getElem?_map, List.map_append, List.map_cons, hlength,
    answers_getElem? hidle _ _ hmany]
  rfl

end Idle

/-- The route as a function of what is asked and what the restorer makes of
it. Whatever the restorer is, the responses to requests that the route
takes carry the reference answers to their bodies, given the results for
the texts that are wanted; it gets these texts and no others, in order and
once each, with the settings of the server; a request that wants nothing
restored may be put in anywhere, with an answer of its own; and an object
wants its last `text`, if that is a string and not empty. -/
theorem respondAll_reference (restore : Restorer σ)
    (params : Params) (state : σ) (requests : List Http.Request)
    (h : ∀ r ∈ requests, Accepted r) :
    (respondAll restore params state requests).map (·.map (·.response))
        = (restoreAll restore params state (wanted requests)).map
          (fun rs =>
            (answers (requests.map (·.body)) (rs.map (·.result))).map
              predicting)
      ∧ (respondAll (recording restore) params (state, []) requests).map
          (fun rs => (rs.map (·.response), (seen (state, []) rs).2.2))
        = (respondAll restore params state requests).map
          (fun rs => (rs.map (·.response), (wanted requests).map (·, params)))
      ∧ (∀ before r after, requests = before ++ r :: after →
        wanted? r.body = none → (respondAll restore params state requests).map
            (fun rs => (rs.map (·.response)).eraseIdx before.length)
          = (respondAll restore params state (before ++ after)).map
            (·.map (·.response))
        ∧ ∀ rs, respondAll restore params state requests = some rs →
          (rs.map (·.response))[before.length]?
            = some (predicting (refusal r.body)))
      ∧ ∀ members :
      Json.Members, (Value.object members).isExact Json.depthLimit = true →
        wanted? (Utf8.encode (Value.object members).write)
          = asked? (Json.Members.get? "text" members.reverse) := by
  refine ⟨respondAll_answers restore params state h,
    respondAll_recording restore params state h, ?_, fun _ => wanted?_write⟩
  rintro before r after rfl hidle
  exact ⟨respondAll_eraseIdx restore params state h hidle,
    fun rs hrs => respondAll_getElem? restore params state h hidle hrs⟩

/-- A restorer that gives back what it is given, and counts. -/
def echo : Restorer Nat := fun count text _ =>
  some ⟨.ok (.object [("predictions", .array [.string text])]), [], count + 1⟩

/-- Bodies that are no JSON, no object or without text, and two that have
one, the first of them twice. -/
def mixedBodies : List Bytes :=
  [[0xFF], Utf8.encode "42",
    Utf8.encode "\x7b\"text\":\"a\",\"text\":\"b\"\x7d",
    Utf8.encode "\x7b\"text\":null\x7d",
    Utf8.encode "\x7b\"text\":\"\\u03b1[-]\"\x7d"]

/-- Requests with these bodies. -/
def mixedRequests : List Http.Request :=
  mixedBodies.map (⟨"POST", "/restore", none, ·⟩)

/-- Of these the restorer gets two texts. -/
theorem respondAll_reference_mixed :
    (∀ r ∈ mixedRequests, Accepted r)
      ∧ wanted mixedRequests = ["b", "α[-]"]
      ∧ (respondAll echo .default 0 mixedRequests).map (·.map (·.response))
        = some (["Error: expected value at line 1 column 1",
            "Error: bad request: expected a JSON object, got 42", "b",
            "", "α[-]"].map
          predicting) := by
  have hpath : pathOf ⟨"POST", "/restore", none, []⟩ = path := by
    with_unfolding_all rfl
  have hlength : ∀ body ∈ mixedBodies, body.length ≤ bodyLimit := by
    decide +kernel
  have haccepted : ∀ r ∈ mixedRequests, Accepted r := by
    intro r hr
    obtain ⟨body, hbody, rfl⟩ := List.mem_map.mp hr
    exact ⟨hpath, rfl, hlength body hbody⟩
  have hwanted : wanted mixedRequests = ["b", "α[-]"] := by
    with_unfolding_all rfl
  refine ⟨haccepted, hwanted, ?_⟩
  rw [(respondAll_reference echo .default 0 mixedRequests haccepted).1, hwanted]
  have hanswers : answers mixedBodies
      [.ok (.object [("predictions", .array [.string "b"])]),
        .ok (.object [("predictions", .array [.string "α[-]"])])]
      = ["Error: expected value at line 1 column 1",
        "Error: bad request: expected a JSON object, got 42", "b", "",
        "α[-]"] := by
    with_unfolding_all rfl
  exact congrArg (fun predictions => some (predictions.map predicting)) hanswers

end Route

end Restoration
