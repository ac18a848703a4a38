/-
Restorers that cannot be told apart through the route.

The route asks a restorer for results and hands its states on unread. So
if a relation of states is kept by every restoration, with the same result
each time (`Simulates`), then it is kept by every request, with the same
response each time (`respondAll_simulates`): what else the states hold
does not reach a client.
-/
import Mathlib.Data.List.Forall2
import Restoration.Route

namespace Restoration

variable {σ τ : Type}

/-- Two restorations have the same result and tell the same, and end in
related states. -/
structure Restored.Alike (related : σ → τ → Prop) (a : Restored σ)
    (b : Restored τ) : Prop where
  result : a.result = b.result
  events : a.events = b.events
  state : related a.state b.state

/-- From related states on, two restorers restore a text alike, or its
restoration ends with neither. -/
def Simulates (related : σ → τ → Prop) (params : Params) (restore : Restorer σ)
    (restore' : Restorer τ) : Prop :=
  ∀ s t, related s t → ∀ text,
    Option.Rel (Restored.Alike related) (restore s text params)
      (restore' t text params)

namespace Route

/-- Two responses are the same, and so is what is told, and they end in
related states. -/
structure Responded.Alike (related : σ → τ → Prop) (a : Responded σ)
    (b : Responded τ) : Prop where
  response : a.response = b.response
  events : a.events = b.events
  state : related a.state b.state

/-- Two answers are alike. -/
structure Answered.Alike (related : σ → τ → Prop) (a : Answered σ)
    (b : Answered τ) : Prop where
  prediction : a.prediction = b.prediction
  events : a.events = b.events
  state : related a.state b.state

variable {related : σ → τ → Prop} {params : Params} {restore : Restorer σ}
  {restore' : Restorer τ} {s : σ} {t : τ}

/-- Restorers that simulate each other predict alike. -/
theorem predict_simulates (h : Simulates related params restore restore')
    (hst : related s t) (text : String) :
    Option.Rel (Answered.Alike related) (predict restore params s text)
      (predict restore' params t text) := by
  unfold predict
  split
  · exact .some ⟨rfl, rfl, hst⟩
  · have hrestored := h s t hst text
    generalize restore s text params = a at hrestored ⊢
    generalize restore' t text params = b at hrestored ⊢
    cases hrestored with
    | none => exact .none
    | @some a b halike =>
      dsimp only [Option.bind_eq_bind, Option.bind_some]
      rw [← halike.result, ← halike.events]
      cases a.result with
      | error f => exact .some ⟨rfl, rfl, halike.state⟩
      | ok document =>
        dsimp only
        cases Prediction.top document with
        | error e => exact .some ⟨rfl, rfl, halike.state⟩
        | ok prediction => exact .some ⟨rfl, rfl, halike.state⟩

/-- So the route answers alike. -/
theorem answer_simulates (h : Simulates related params restore restore')
    (hst : related s t) (body : Bytes) :
    Option.Rel (Answered.Alike related) (answer restore params s body)
      (answer restore' params t body) := by
  unfold answer
  cases textOfBody body with
  | error f => exact .some ⟨rfl, rfl, hst⟩
  | ok text => exact predict_simulates h hst text

/-- A request is answered alike from related states, or with neither
restorer. -/
theorem respond_simulates (h : Simulates related params restore restore')
    (hst : related s t) (r : Http.Request) :
    Option.Rel (Responded.Alike related) (respond restore params s r)
      (respond restore' params t r) := by
  unfold respond
  split
  · exact .some ⟨rfl, rfl, hst⟩
  split
  · exact .some ⟨rfl, rfl, hst⟩
  split
  · exact .some ⟨rfl, rfl, hst⟩
  · have hanswer := answer_simulates h hst r.body
    generalize answer restore params s r.body = a at hanswer ⊢
    generalize answer restore' params t r.body = b at hanswer ⊢
    cases hanswer with
    | none => exact .none
    | @some a b halike =>
      refine .some ⟨?_, halike.events, halike.state⟩
      show a.response = b.response
      unfold Answered.response
      rw [halike.prediction]

/-- So are requests that come one after the other. -/
theorem respondAll_simulates (h : Simulates related params restore restore')
    (hst : related s t) (requests : List Http.Request) :
    Option.Rel (List.Forall₂ (Responded.Alike related))
      (respondAll restore params s requests)
      (respondAll restore' params t requests) := by
  induction requests generalizing s t with
  | nil => exact .some .nil
  | cons r requests ih =>
    rw [respondAll, respondAll]
    have hfirst := respond_simulates h hst r
    generalize respond restore params s r = a at hfirst ⊢
    generalize respond restore' params t r = b at hfirst ⊢
    cases hfirst with
    | none => exact .none
    | @some a b halike =>
      have hothers := ih halike.state
      dsimp only [Option.bind_eq_bind, Option.bind_some]
      generalize respondAll restore params a.state requests = as at hothers ⊢
      generalize respondAll restore' params b.state requests = bs at hothers ⊢
      cases hothers with
      | none => exact .none
      | some hothers => exact .some (.cons halike hothers)

end Route

end Restoration
