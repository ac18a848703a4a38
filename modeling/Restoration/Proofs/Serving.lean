/-
Serving over a worker that leaves.

The route hands the texts that are wanted to the worker, one after the
other, and the worker's session gives each of them a result by its place
(`Session.Gives`). Requests that want nothing restored are answered in
between and move no place. So it can be read off a request's place among
those that want a text what it is answered with (`Served`): the prediction
that the reply to its own line relays, then what the last words tell, and
from then on that the pipe is broken.
-/
import Restoration.Proofs.Route.Response
import Restoration.Proofs.Worker.Isolation
import Restoration.Proofs.Worker.Leaving
import Restoration.Startup

namespace Restoration

open Json (Value)
open Worker (IsNothing Session)

-- ================================================================ replies

namespace Prediction

/-- Only a text that is no JSON gives no prediction. -/
theorem top_eq_error {v : Value} {e : Json.Error} (h : top v = .error e) :
    ∃ text, v = .string text ∧ Json.parseText text = .error e := by
  have hdocument : document v = .error e := by
    unfold top at h
    cases hdocument : document v with
    | error e' =>
        rw [hdocument] at h
        injection h with h
        rw [h]
    | ok doc =>
        rw [hdocument] at h
        dsimp only at h
        split at h <;> cases h
  cases v with
  | string text => exact ⟨text, rfl, hdocument⟩
  | _ => cases hdocument

end Prediction

/-- The prediction that a reply with the given members relays. -/
inductive Relayed (members : Json.Members) : String → Prop
  | error {words : String} (h : members.get? "error" = some (.string words)) :
      Relayed members ("Error: worker: " ++ words)
  | prediction {v : Value} {prediction : String}
      (herror : IsNothing (members.get? "error"))
      (hresult : members.get? "result" = some v) (hne : v ≠ .null)
      (htop : Prediction.top v = .ok prediction) : Relayed members prediction
  /-- The result is a text, and that is no JSON. -/
  | unreadable {text : String} {e : Json.Error}
      (herror : IsNothing (members.get? "error"))
      (hresult : members.get? "result" = some (.string text))
      (hparse : Json.parseText text = .error e) :
      Relayed members ("Error: " ++ e.message)
  | empty (herror : IsNothing (members.get? "error"))
      (hresult : IsNothing (members.get? "result")) :
      Relayed members "Error: worker: empty reply"

/-- What a well-formed reply tells is relayed. -/
theorem relayed_told {members : Json.Members} (h : Worker.WellFormed members) :
    Relayed members (Route.outcome (Worker.told members)) := by
  rcases h.error with herror | ⟨words, herror⟩
  · by_cases hresult : IsNothing (members.get? "result")
    · rw [Worker.told_of_nothing herror hresult]
      exact .empty herror hresult
    · obtain ⟨v, hv⟩ :=
        Option.ne_none_iff_exists'.mp fun hnone => hresult (Or.inl hnone)
      have hne : v ≠ .null := fun hnull => hresult (Or.inr (hnull ▸ hv))
      rw [Worker.told_of_result herror hv hne]
      unfold Route.outcome
      dsimp only
      cases htop : Prediction.top v with
      | ok prediction => exact .prediction herror hv hne htop
      | error e =>
          obtain ⟨text, rfl, hparse⟩ := Prediction.top_eq_error htop
          exact .unreadable herror hv hparse
  · have hwords : Route.outcome (.error (.worker (.stated words)))
        = "Error: worker: " ++ words := by
      show "Error: " ++ ("worker: " ++ words) = _
      rw [← String.append_assoc]
      rfl
    rw [Worker.told_of_error herror, hwords]
    exact .error herror

-- =============================================================== sessions

namespace Worker.Session

variable {s : Session} {params : Params} {texts : List String} {reads : Nat}
  {reply : Nat → Json.Members}

/-- The texts of a run get the results of their places, and the worker has
read as many lines as it was to read, those for the first of them. -/
theorem restoreAll_serves (h : s.Serves params texts reads reply) :
    ∃ rs, Route.restoreAll Session.restore params s texts = some rs
      ∧ (∀ i r, rs[i]? = some r → s.Gives params texts reads reply i r.result)
      ∧ (Route.made s rs).2.heard
        = s.heard ++ (requests s.ids params s.calls texts).take reads := by
  induction texts generalizing s reads with
  | nil =>
      refine ⟨[], rfl, fun i r hr => (nomatch hr), ?_⟩
      rw [requests, List.take_nil, List.append_nil]
      rfl
  | cons text texts ih =>
      obtain ⟨first, hfirst, hgives, hserves, hnext, hstays⟩ := h.restore
      obtain ⟨others, hothers, hresults, hheard⟩ := ih hserves
      have hrun : Route.restoreAll Session.restore params s (text :: texts)
          = some (first :: others) := by
        rw [Route.restoreAll, hfirst]
        dsimp only [Option.bind_eq_bind, Option.bind_some]
        rw [hothers]
        rfl
      refine ⟨first :: others, hrun, ?_, ?_⟩
      · intro i r hr
        cases i with
        | zero =>
            obtain rfl : first = r := Option.some.inj hr
            exact hgives
        | succ i =>
            rw [List.getElem?_cons_succ] at hr
            have hrest := hresults i r hr
            cases reads with
            | zero =>
                -- the worker has left, so the place does not matter
                rw [hrest.eq_brokenPipe]
                exact .refused (Nat.zero_le _)
            | succ reads => exact hrest.succ (hnext (Nat.succ_ne_zero reads))
      · rw [Route.made_cons, hheard]
        cases reads with
        | zero => rw [List.take_zero, hstays rfl, List.take_zero]
        | succ reads =>
            obtain ⟨-, hids, hcalls, hline⟩ := hnext (Nat.succ_ne_zero reads)
            rw [hids, hcalls, hline, requests, List.take_succ_cons,
              List.append_assoc]
            rfl

end Worker.Session

-- ================================================================ server

namespace Startup.Server

variable {server : Server} {texts : List String} {reads : Nat}
  {reply : Nat → Json.Members}

/-- The lines that the worker has said when it has read the line for a text
and left. -/
def lastLines (server : Server) (texts : List String) (i : Nat) : List Bytes :=
  (Worker.Output.none.react
    (server.session.reaction server.params texts i)).lines

/-- The id of the call for a text. -/
def idOf (server : Server) (i : Nat) : String :=
  server.session.ids (server.session.calls + i)

/-- The prediction for a body, before which so many texts were wanted. -/
inductive Served (server : Server) (texts : List String) (reads : Nat)
    (reply : Nat → Json.Members) (i : Nat) (body : Bytes) : String → Prop
  /-- The worker hears nothing of it. -/
  | idle (h : Route.wanted? body = none) :
      Served server texts reads reply i body (Route.refusal body)
  /-- The worker answers it and goes on. -/
  | answered {text prediction : String} (h : Route.wanted? body = some text)
      (hi : i + 1 < reads)
      (hrelayed : Relayed (reply (server.session.calls + i)) prediction) :
      Served server texts reads reply i body prediction
  /-- The worker answers it and leaves. -/
  | lastReply {text prediction : String} {line : Bytes} {members : Json.Members}
      (h : Route.wanted? body = some text) (hi : i + 1 = reads)
      (hline : Worker.Stops (server.idOf i) (server.lastLines texts i) line)
      (hanswers : Worker.Answers line (server.idOf i) members)
      (hrelayed : Relayed members prediction) :
      Served server texts reads reply i body prediction
  /-- The worker leaves and does not answer it. -/
  | lastFailure {text : String} {f : Failure}
      (h : Route.wanted? body = some text) (hi : i + 1 = reads)
      (hlast : Worker.Last (server.idOf i) (server.lastLines texts i)
        (.error f)) :
      Served server texts reads reply i body ("Error: " ++ f.message)
  /-- The worker has left. -/
  | refused {text : String} (h : Route.wanted? body = some text)
      (hi : reads ≤ i) :
      Served server texts reads reply i body "Error: Broken pipe (os error 32)"

/-- A request is served with what the worker gives for its text. -/
theorem served_outcome
    (hserves : server.session.Serves server.params texts reads reply) {i : Nat}
    (hi : i < texts.length) {result : Except Failure Value}
    (h : server.session.Gives server.params texts reads reply i result)
    {body : Bytes} {text : String} (hwanted : Route.wanted? body = some text) :
    server.Served texts reads reply i body (Route.outcome result) := by
  cases h with
  | answered hlt =>
      obtain ⟨_, line, _, -, hreply, -⟩ := (hserves.replies i hi hlt).lines
      exact .answered hwanted hlt (relayed_told hreply.wellFormed)
  | last heq hlast =>
      cases hlast with
      | reply hline hanswers =>
          exact .lastReply hwanted heq hline hanswers
            (relayed_told hanswers.wellFormed)
      | complaint hline hcomplains =>
          exact .lastFailure hwanted heq (.complaint hline hcomplains)
      | notText hline hfault =>
          exact .lastFailure hwanted heq (.notText hline hfault)
      | silent hall => exact .lastFailure hwanted heq (.silent hall)
  | refused hle => exact .refused hwanted hle

/-- A server over a worker that leaves answers every request with status
200 and a prediction. The lines that the worker reads are those for the
texts that are wanted, in order, up to the one at which it leaves; each
text that it answers gets what its own reply relays; and when it has left,
texts are answered with an error, whatever was left unread, while bodies
that want nothing restored are answered as ever. -/
theorem respondAll_serves (server : Server) (requests : List Http.Request)
    (h : ∀ r ∈ requests, Route.Accepted r) (reads : Nat)
    (reply : Nat → Json.Members)
    (hserves : server.session.Serves server.params (Route.wanted requests)
      reads reply) :
    ∃ rs, server.respondAll requests = some rs
      ∧ (Route.seen server.session rs).2.heard = server.session.heard
          ++ (Session.requests server.session.ids server.params
            server.session.calls (Route.wanted requests)).take reads
      ∧ ∀ before r after, requests = before ++ r :: after → ∃ a prediction,
          rs[before.length]? = some a ∧ Route.Carries a.response prediction
            ∧ server.Served (Route.wanted requests) reads reply
              (Route.wanted before).length r.body prediction := by
  obtain ⟨xs, hxs, hgives, hheard⟩ := Session.restoreAll_serves hserves
  have hseen :=
    Route.respondAll_eq Session.restore server.params h server.session
  rw [hxs, Option.map_some, Option.map_some, Option.map_eq_some_iff] at hseen
  obtain ⟨rs, hrs, hseen⟩ := hseen
  have hstate : (Route.seen server.session rs).2
      = (Route.made server.session xs).2 :=
    congrArg Prod.snd hseen
  have hresponses : rs.map (·.response) = (Route.answers (requests.map (·.body))
      (xs.map (·.result))).map Route.predicting := congrArg Prod.fst hseen
  refine ⟨rs, hrs, by rw [hstate, hheard], ?_⟩
  rintro before r after rfl
  have hlength := Route.restoreAll_length hxs
  have hplace : before.length = (before.map (·.body)).length := by
    rw [List.length_map]
  -- the prediction that stands where the request stands
  have hanswer : ∃ prediction,
      (Route.answers ((before ++ r :: after).map (·.body))
        (xs.map (·.result)))[before.length]? = some prediction
      ∧ server.Served (Route.wanted (before ++ r :: after)) reads reply
        (Route.wanted before).length r.body prediction := by
    rw [List.map_append, List.map_cons, hplace]
    cases hwanted : Route.wanted? r.body with
    | none =>
        refine ⟨_, Route.answers_getElem? hwanted _ _ ?_, .idle hwanted⟩
        rw [List.length_map, hlength, Route.wanted, List.map_append,
          List.filterMap_append, List.length_append]
        exact Nat.le_add_right _ _
    | some text =>
        have hlt : (Route.wanted before).length < xs.length := by
          rw [hlength, Route.wanted, Route.wanted, List.map_append,
            List.filterMap_append, List.map_cons,
            List.filterMap_cons_some hwanted, List.length_append,
            List.length_cons]
          omega
        have hx := List.getElem?_eq_getElem hlt
        refine ⟨_, Route.answers_getElem?_wanted hwanted _ _ ?_,
          served_outcome hserves (hlength ▸ hlt) (hgives _ _ hx) hwanted⟩
        show (xs.map (·.result))[(Route.wanted before).length]? = _
        rw [List.getElem?_map, hx]
        rfl
  obtain ⟨prediction, hprediction, hserved⟩ := hanswer
  have hresponse := congrArg (·[before.length]?) hresponses
  rw [List.getElem?_map, List.getElem?_map, hprediction, Option.map_some,
    Option.map_eq_some_iff] at hresponse
  obtain ⟨a, ha, hresponse⟩ := hresponse
  exact ⟨a, prediction, ha, hresponse ▸ Route.carries_predicting prediction,
    hserved⟩

/-- A worker that answers one request, and at the next one complains and
says a reply too many before it leaves. -/
def leavingWorker : Worker.Peer where
  greeting := ⟨[], false⟩
  react heard :=
    if heard.length = 1 then
      ⟨Utf8.encode
        "\x7b\"id\":\"\",\"result\":\x7b\"predictions\":[\"one\"]\x7d\x7d\n",
        false⟩
    else
      ⟨Utf8.encode
        ("\x7b\"id\":\"a\",\"error\":\"two\"\x7d\n" ++
          "\x7b\"id\":\"aa\",\"result\":\"three\"\x7d"), true⟩

def firstReply : Json.Members :=
  [("id", .string ""),
    ("result", .object [("predictions", .array [.string "one"])])]

def leavingServer : Server :=
  ⟨.start leavingWorker Session.unaryIds, .default, "127.0.0.1:8000", 8000⟩

/-- Three texts, with a body that is no JSON and an empty text between
them. -/
def leavingRequests : List Http.Request :=
  [Utf8.encode "\x7b\"text\":\"α\"\x7d", [0xFF],
    Utf8.encode "\x7b\"text\":\"β\"\x7d", Utf8.encode "\x7b\"text\":\"\"\x7d",
    Utf8.encode "\x7b\"text\":\"γ\"\x7d"].map Route.posted

/-- The route takes the three requests. -/
theorem leavingRequests_accepted : ∀ r ∈ leavingRequests, Route.Accepted r := by
  intro r hr
  obtain ⟨body, hbody, rfl⟩ := List.mem_map.mp hr
  have hlength : ∀ r ∈ leavingRequests, r.body.length ≤ Route.bodyLimit := by
    decide +kernel
  exact ⟨Route.pathOf_posted body, rfl, hlength _ hr⟩

/-- They want three texts restored. -/
theorem wanted_leavingRequests :
    Route.wanted leavingRequests = ["α", "β", "γ"] := by
  with_unfolding_all rfl

/-- The worker serves two of them. -/
theorem leavingServer_serves :
    leavingServer.session.Serves leavingServer.params
      (Route.wanted leavingRequests) 2 fun _ => firstReply := by
  rw [wanted_leavingRequests]
  refine ⟨fun _ => ⟨rfl, rfl, rfl, fun l hl => ?_⟩,
    fun h => (nomatch h), ?_, ?_⟩
  · exact absurd hl List.not_mem_nil
  · intro i _ hi
    obtain rfl : i = 0 := by omega
    refine ⟨rfl, [], _, [], by with_unfolding_all rfl, Or.inl ?_, by simp⟩
    exact ⟨Worker.read_eq_message_iff.mp (by with_unfolding_all rfl),
      ⟨Or.inr ⟨_, rfl⟩, Or.inl (Or.inl rfl)⟩, rfl⟩
  · intro i _ hi
    obtain rfl : i = 1 := by omega
    rfl

/-- The third text is refused, although a reply to it was left unread. -/
theorem respondAll_serves_refused :
    ∃ rs a, leavingServer.respondAll leavingRequests = some rs ∧ rs[4]? = some a
      ∧ Route.Carries a.response "Error: Broken pipe (os error 32)" := by
  obtain ⟨rs, hrs, -, hserved⟩ :=
    respondAll_serves leavingServer leavingRequests
    leavingRequests_accepted 2 (fun _ => firstReply) leavingServer_serves
  obtain ⟨a, prediction, ha, hcarries, hplace⟩ :=
    hserved (leavingRequests.take 4) leavingRequests[4] [] rfl
  have htexts : (Route.wanted (leavingRequests.take 4)).length = 2 := by
    with_unfolding_all rfl
  have hwanted : Route.wanted? leavingRequests[4].body = some "γ" := by
    with_unfolding_all rfl
  refine ⟨rs, a, hrs, ha, ?_⟩
  rw [htexts] at hplace
  cases hplace with
  | idle h => rw [hwanted] at h; cases h
  | answered h hi => exact absurd hi (by decide)
  | lastReply h hi => exact absurd hi (by decide)
  | lastFailure h hi => exact absurd hi (by decide)
  | refused h hi => exact hcarries

end Startup.Server

end Restoration
