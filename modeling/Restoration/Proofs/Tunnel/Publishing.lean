/-
Publishing through an agent.

An answer opens a tunnel or refuses it, never both (`ofAnswer_eq_ok_iff`,
`ofAnswer_eq_error_iff`), so what is asked of the agent is settled answer by
answer. The request for the static domain is the last one exactly if it opens
a tunnel; otherwise one more is made, without a domain and under a new name,
and nothing of the first answer is left in the result (`publish_requests`).
-/
import Restoration.Proofs.Tunnel
import Restoration.Proofs.Worker.Isolation

namespace Restoration.Tunnel

open Json (Value Members)
open Json.Value (ofMembers normal)

-- =============================================================== answers

/-- An answer that opens a tunnel: the request was carried out, and the body
tells the address. -/
def Opens (answer : Except Http.Loss Http.Response)
    (publicUrl : String) : Prop :=
  ∃ response, answer = .ok response ∧ 200 ≤ response.status.code ∧
    response.status.code < 300
    ∧ Json.message? "public_url" response.body = some publicUrl

/-- An answer that opens no tunnel, or none at all, and the failure that it
amounts to. -/
inductive Refuses (url : String) :
    Except Http.Loss Http.Response → Failure → Prop
  | lost (loss : Http.Loss) :
      Refuses url (.error loss) (.http (.unanswered url loss))
  | unreadable (response : Http.Response)
      (hstatus : 200 ≤ response.status.code ∧ response.status.code < 300)
      (hbody : Json.message? "public_url" response.body = none) :
      Refuses url (.ok response) (.http .unreadable)
  | stated (response : Http.Response) (words : String)
      (hstatus : ¬ (200 ≤ response.status.code ∧ response.status.code < 300))
      (hbody : Json.message? "msg" response.body = some words) :
      Refuses url (.ok response) (.tunnel (.stated words))
  | unstated (response : Http.Response)
      (hstatus : ¬ (200 ≤ response.status.code ∧ response.status.code < 300))
      (hbody : Json.message? "msg" response.body = none) :
      Refuses url (.ok response) (.tunnel (.stated response.status.text))

/-- What comes of the answer to a request for a tunnel on a domain or
anywhere. -/
inductive Outcome (url : String) (domain : Option String)
    (answer : Except Http.Loss Http.Response) : Except Failure Tunnel → Prop
  | opened {publicUrl : String} (h : Opens answer publicUrl) :
      Outcome url domain answer (.ok ⟨publicUrl, domain⟩)
  | refused {f : Failure} (h : Refuses url answer f) :
      Outcome url domain answer (.error f)

variable {url : String} {domain : Option String}
  {answer : Except Http.Loss Http.Response}

/-- The successful statuses are those from 200 to 299. -/
theorem isSuccess_iff {s : Http.Status} :
    s.isSuccess = true ↔ 200 ≤ s.code ∧ s.code < 300 := by
  rw [Http.Status.isSuccess, Bool.and_eq_true, decide_eq_true_eq,
    decide_eq_true_eq]

/-- There is exactly one outcome. -/
theorem outcome_iff {result : Except Failure Tunnel} :
    Outcome url domain answer result ↔ result = ofAnswer url domain answer := by
  constructor
  · rintro (⟨response, rfl, hlow, hhigh, hbody⟩ |
      ⟨_ | ⟨response, hstatus, hbody⟩ |
      ⟨response, words, hstatus, hbody⟩ | ⟨response, hstatus, hbody⟩⟩)
    · simp only [ofAnswer, if_pos (isSuccess_iff.mpr ⟨hlow, hhigh⟩), hbody]
    · rfl
    · simp only [ofAnswer, if_pos (isSuccess_iff.mpr hstatus), hbody]
    · simp only [ofAnswer, if_neg (mt isSuccess_iff.mp hstatus), hbody]
    · simp only [ofAnswer, if_neg (mt isSuccess_iff.mp hstatus), hbody]
  rintro rfl
  unfold ofAnswer
  cases answer with
  | error loss => exact .refused (.lost loss)
  | ok response =>
      dsimp only
      split
      case isTrue hstatus =>
        rw [isSuccess_iff] at hstatus
        cases hbody : Json.message? "public_url" response.body with
        | some publicUrl =>
            exact .opened ⟨response, rfl, hstatus.1, hstatus.2, hbody⟩
        | none => exact .refused (.unreadable response hstatus hbody)
      case isFalse hstatus =>
        rw [isSuccess_iff] at hstatus
        cases hbody : Json.message? "msg" response.body with
        | some words => exact .refused (.stated response words hstatus hbody)
        | none => exact .refused (.unstated response hstatus hbody)

/-- A request succeeds if and only if its answer opens a tunnel. -/
theorem opens_of_ok {tunnel : Tunnel}
    (h : ofAnswer url domain answer = .ok tunnel) :
    Opens answer tunnel.publicUrl := by
  cases outcome_iff.mpr h.symm with
  | opened hopens => exact hopens

/-- A failed answer opens no tunnel. -/
theorem not_opens_of_error {f : Failure}
    (h : ofAnswer url domain answer = .error f) (publicUrl : String) :
    ¬ Opens answer publicUrl := by
  intro hopens
  have hopened : Outcome url domain answer (.ok ⟨publicUrl, domain⟩) :=
    .opened hopens
  have hok := outcome_iff.mp hopened
  rw [h] at hok
  cases hok

-- ============================================================== requests

/-- The request for a tunnel of a name to a port, on a domain or anywhere. -/
structure IsRequest (request : Http.Request) (name : String) (port : UInt16)
    (domain : Option String) : Prop where
  method : request.method = "POST"
  path : request.path = tunnelsPath
  contentType : request.contentType = some Http.jsonType
  body : ∃ members, Json.read request.body = .ok (.object members)
    ∧ Members.get? "name" members = some (.string name)
    ∧ Members.get? "addr" members = some (.string (toString port.toNat))
    ∧ Members.get? "proto" members = some (.string "http")
    ∧ Members.get? "domain" members = domain.map Value.string

/-- The request for a tunnel carries the name, the port and the domain, if
there is one. -/
theorem isRequest_tunnelRequest (name : String) (port : UInt16)
    (domain : Option String) :
    IsRequest (tunnelRequest name port domain) s!"aeneas-{name}" port
      domain where
  method := rfl
  path := rfl
  contentType := rfl
  body := by
    refine ⟨_, Json.read_write _ ?_, ?_, ?_, ?_, ?_⟩
    · rw [ofMembers, ofList_request]
      cases domain <;> rfl
    all_goals
      rw [ofList_request, Json.get?_normal]
      cases domain <;> rfl

-- ============================================================ publishing

/-- Where an agent is asked for tunnels. -/
def Running.interface (r : Running) : String :=
  s!"http://{r.address}{tunnelsPath}"

/-- Connecting is one request, under the next name, and what comes of its
answer. -/
theorem connect_spec (r : Running) (port : UInt16) (domain : Option String) :
    ∃ request,
      IsRequest request s!"aeneas-{r.names r.requests.length}" port domain
      ∧ (connect r port domain).2
        = { r with requests := r.requests ++ [request] }
      ∧ (connect r port domain).1
        = ofAnswer r.interface domain
          (r.agent.answer (r.requests ++ [request])) :=
  ⟨_, isRequest_tunnelRequest _ port domain, rfl, rfl⟩

/-- Without a domain there is one request, and its result is the result. -/
theorem publishAnywhere_spec {σ : Type} (connect : Provider σ)
    (told : List Event) (state : σ) (port : UInt16) :
    (publishAnywhere connect told state port).result
      = (connect state port none).1
      ∧ (publishAnywhere connect told state port).state
        = (connect state port none).2 := by
  unfold publishAnywhere
  split <;> simp [*]

/-- Publishing is one request, or two if the first is for a domain and opens
no tunnel. The second is without a domain and under another name. The result
is what comes of the last. -/
theorem publish_requests (r : Running) (hnames : Function.Injective r.names)
    (port : UInt16) (domain : Option String) :
    ∃ first name, IsRequest first name port domain
      ∧ ((domain = none ∨
        ∃ publicUrl, Opens (r.agent.answer (r.requests ++ [first])) publicUrl)
          ∧ (publish connect r port domain).state
            = { r with requests := r.requests ++ [first] }
          ∧ Outcome r.interface domain (r.agent.answer (r.requests ++ [first]))
              (publish connect r port domain).result
        ∨ (domain ≠ none ∧
          ¬ ∃ publicUrl,
            Opens (r.agent.answer (r.requests ++ [first])) publicUrl)
          ∧ ∃ second other, IsRequest second other port none ∧ other ≠ name
            ∧ (publish connect r port domain).state
              = { r with requests := r.requests ++ [first, second] }
            ∧ Outcome r.interface none
              (r.agent.answer (r.requests ++ [first, second]))
                (publish connect r port domain).result) := by
  obtain ⟨first, hfirst, hstate, hresult⟩ := connect_spec r port domain
  refine ⟨first, _, hfirst, ?_⟩
  cases domain with
  | none =>
      obtain ⟨hresult', hstate'⟩ := publishAnywhere_spec connect [] r port
      refine Or.inl ⟨Or.inl rfl, hstate'.trans hstate,
        outcome_iff.mpr (hresult'.trans hresult)⟩
  | some d =>
      unfold publish
      dsimp only
      cases hconnect : connect r port (some d) with
      | mk result next =>
          rw [hconnect] at hstate hresult
          dsimp only at hstate hresult
          cases result with
          | ok tunnel =>
              exact Or.inl ⟨Or.inr ⟨_, opens_of_ok hresult.symm⟩, hstate,
                outcome_iff.mpr hresult⟩
          | error f =>
              have hnot : ¬ ∃ publicUrl,
                  Opens (r.agent.answer (r.requests ++ [first])) publicUrl :=
                not_exists.mpr (not_opens_of_error hresult.symm)
              refine Or.inr ⟨⟨nofun, hnot⟩, ?_⟩
              obtain ⟨second, hsecond, hstate₂, hresult₂⟩ :=
                connect_spec next port none
              obtain ⟨hresult', hstate'⟩ :=
                publishAnywhere_spec connect [.domainFailed d f] next port
              subst hstate
              dsimp only at hsecond hstate₂ hresult₂
              rw [List.append_assoc, List.singleton_append] at hstate₂ hresult₂
              refine ⟨second, _, hsecond, ?_, hstate'.trans hstate₂,
                outcome_iff.mpr (hresult'.trans hresult₂)⟩
              intro hname
              have hcount := hnames ((String.append_right_inj _).mp hname)
              rw [List.length_append, List.length_singleton] at hcount
              omega

/-- An agent that keeps one domain to itself and opens a tunnel anywhere
else. -/
def reservingAgent : Agent where
  poll _ := .running (.error .dropped)
  answer requests :=
    if requests.length = 1 then
      .ok ⟨⟨502⟩, none, none,
        Utf8.encode "\x7b\"error_code\":103,\"msg\":\"domain is reserved\"\x7d"⟩
    else .ok ⟨⟨201⟩, none, none,
      Utf8.encode "\x7b\"public_url\":\"https://a1b2.ngrok-free.app\"\x7d"⟩

/-- The agent before the first request. -/
def reserving : Running :=
  ⟨reservingAgent, "127.0.0.1:4041", Worker.Session.unaryIds, []⟩

theorem publish_requests_reserved :
    Function.Injective reserving.names
      ∧ (publish connect reserving 8000
        (some "demo.ngrok.app")).state.requests.length = 2
      ∧ (publish connect reserving 8000 (some "demo.ngrok.app")).result
        = .ok ⟨"https://a1b2.ngrok-free.app", none⟩ := by
  have hnames : Function.Injective reserving.names :=
    Worker.Session.unaryIds_injective
  refine ⟨hnames, ?_⟩
  obtain ⟨first, name, -, ⟨hlast, -⟩ |
      ⟨-, second, other, -, -, hstate, houtcome⟩⟩ :=
    publish_requests reserving hnames 8000 (some "demo.ngrok.app")
  · obtain hdomain | ⟨publicUrl, response, hanswer, -, hstatus, -⟩ := hlast
    · cases hdomain
    · obtain rfl := Except.ok.inj hanswer
      exact absurd hstatus (by decide)
  · rw [hstate]
    refine ⟨rfl, (outcome_iff.mp houtcome).trans ?_⟩
    with_unfolding_all rfl

end Restoration.Tunnel
