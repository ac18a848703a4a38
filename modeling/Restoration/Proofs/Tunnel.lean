/-
What is asked of a tunnel agent.

Publishing makes one request or two, and both are for the port that is to
be published: whatever holds of a provider after any request for that port
still holds when it is published (`publish_keeps`). So every request to an
agent names the port (`publish_asks`). The agent itself is attempted where
its configuration can be written down, by one command (`startAgent_cases`).
-/
import Restoration.Proofs.Json.Values
import Restoration.Tunnel.Agent

namespace Restoration.Tunnel

open Json (Value Members)
open Json.Value (ofMembers normal)
open Json.Members (ofList)

-- ============================================================ publishing

section Publishing

variable {σ : Type} {connect : Provider σ} {port : UInt16} {Holds : σ → Prop}

/-- What the provider keeps is kept by a request without a domain. -/
theorem publishAnywhere_keeps
    (keeps : ∀ state domain, Holds state → Holds (connect state port domain).2)
    (told : List Event) {state : σ} (h : Holds state) :
    Holds (publishAnywhere connect told state port).state := by
  have hnext := keeps state none h
  unfold publishAnywhere
  cases hconnect : connect state port none with
  | mk result next =>
    rw [hconnect] at hnext
    cases result <;> exact hnext

/-- What holds after every request for a port holds when it is published,
or could not be. -/
theorem publish_keeps
    (keeps : ∀ state domain, Holds state → Holds (connect state port domain).2)
    (domain : Option String) {state : σ} (h : Holds state) :
    Holds (publish connect state port domain).state := by
  cases domain with
  | none => exact publishAnywhere_keeps keeps [] h
  | some d =>
    have hnext := keeps state (some d) h
    unfold publish
    dsimp only
    cases hconnect : connect state port (some d) with
    | mk result next =>
      rw [hconnect] at hnext
      cases result with
      | ok tunnel => exact hnext
      | error f => exact publishAnywhere_keeps keeps _ hnext

end Publishing

-- ============================================================== requests

/-- A request for a tunnel to a port. -/
structure Asks (r : Http.Request) (port : UInt16) : Prop where
  method : r.method = "POST"
  path : r.path = tunnelsPath
  addr : ∃ body, Json.read r.body = .ok body ∧
    body.get? "addr" = some (.string (toString port))

/-- The body of a request, in the order of its names. -/
theorem ofList_request (name address : String) (domain : Option String) :
    ofList
      ([("name", .string name), ("addr", .string address),
        ("proto", .string "http")] ++
        (domain.map fun d => ("domain", Value.string d)).toList) =
      ("addr", .string address) ::
        (domain.map fun d => ("domain", Value.string d)).toList ++
        [("name", .string name), ("proto", .string "http")] := by
  cases domain <;>
    simp only [ofList, Option.map_none, Option.map_some, Option.toList_none,
      Option.toList_some, List.append_nil, List.nil_append, List.cons_append,
      List.foldl_cons, List.foldl_nil, Members.insert, String.reduceLT,
      String.reduceEq, ↓reduceIte]

/-- A request for a tunnel asks for the port. -/
theorem asks_tunnelRequest (name : String) (port : UInt16)
    (domain : Option String) :
    Asks (tunnelRequest name port domain) port where
  method := rfl
  path := rfl
  addr := by
    refine ⟨_, Json.read_write _ ?_, ?_⟩
    · rw [ofMembers, ofList_request]
      cases domain <;> rfl
    · rw [ofMembers, ofList_request, normal, Value.get?, Json.get?_normal]
      cases domain <;> rfl

/-- So do all requests that publishing makes. -/
theorem publish_asks (r : Running) (port : UInt16) (domain : Option String)
    (h : ∀ request ∈ r.requests, Asks request port) :
    ∀ request ∈ (publish connect r port domain).state.requests,
      Asks request port := by
  have keeps : ∀ (r : Running) domain,
      (∀ request ∈ r.requests, Asks request port) →
      ∀ request ∈ (connect r port domain).2.requests, Asks request port := by
    intro r domain hr request hmem
    rcases List.mem_append.mp hmem with hold | hnew
    · exact hr request hold
    · exact List.mem_singleton.mp hnew ▸ asks_tunnelRequest _ port domain
  exact publish_keeps keeps domain h

-- ================================================================= agent

/-- The agent is attempted once, or its start fails for the configuration. -/
theorem startAgent_cases (w : World) (files : Files) (program : String)
    (token : Option String) :
    ((startAgent w files program token).attempt = none ∧
      ∃ reason,
        (startAgent w files program token).result = .error (.io reason)) ∨
    ∃ configured,
      files.put w.environment.temporaryDirectory (configName w)
        (.file (Utf8.encode (configText w.agentAddress)) false)
          = .ok configured ∧
      (startAgent w files program token).attempt
        = some (w.attempt configured
            (agentCommand w configured program token)) := by
  unfold startAgent
  dsimp only
  cases files.put w.environment.temporaryDirectory (configName w)
      (.file (Utf8.encode (configText w.agentAddress)) false) with
  | error reason => exact .inl ⟨rfl, reason, rfl⟩
  | ok configured =>
    refine .inr ⟨configured, rfl, ?_⟩
    dsimp only
    split
    · rfl
    · split <;> rfl

end Restoration.Tunnel
