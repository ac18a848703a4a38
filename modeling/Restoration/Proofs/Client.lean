/-
A client and the route, put together.

What the client sends is an object that holds the text, and what the route
answers is an object that holds the prediction. Each is read back by the
other side: the route's reader gives the text (`textOfBody_request`), and
the client's gives the prediction (`ofBody_answer`), although the client
first trims the answer and looks at its first character. Neither of these
can go wrong, since an object begins and ends with a bracket, whatever the
strings in it hold; and no mark of an encoding stands before a bracket.
-/
import Restoration.Client
import Restoration.Proofs.Route.Response

namespace Restoration

open Json (Value)

variable {σ : Type}

-- =============================================================== answers

namespace Text

/-- Trimming leaves a text that neither begins nor ends with a blank. -/
theorem trim_of_ends {s : String} {first last : Char} {between : List Char}
    (hs : s.toList = first :: (between ++ [last]))
    (hfirst : isBlank first = false)
    (hlast : isBlank last = false) : trim s = s := by
  have hstart : s.toList.dropWhile isBlank = s.toList := by
    rw [hs,
      List.dropWhile_cons_of_neg (by rw [hfirst]; exact Bool.false_ne_true)]
  have hend : trimEnd s.toList = s.toList := by
    have hreverse : s.toList.reverse = last :: (first :: between).reverse := by
      rw [hs, ← List.cons_append, List.reverse_append, List.reverse_singleton,
        List.singleton_append]
    rw [trimEnd, hreverse,
      List.dropWhile_cons_of_neg (by rw [hlast]; exact Bool.false_ne_true),
      ← hreverse, List.reverse_reverse]
  rw [trim, hstart, hend, String.ofList_toList]

end Text

namespace Prediction

/-- An answer is written in braces. -/
theorem toList_write_answer (prediction : String) :
    ∃ between,
      (answer prediction).write.toList = '\x7b' :: (between ++ ['\x7d']) := by
  refine ⟨'"' :: (member.toList.flatMap Json.escape ++ ['"']) ++ [':']
    ++ '"' :: (prediction.toList.flatMap Json.escape ++ ['"']), ?_⟩
  simp only [answer, Value.write, Value.writeOnto, Value.membersOnto, if_true,
    String.toList_push, Json.toList_stringOnto, List.append_assoc,
    List.cons_append, List.nil_append]
  rfl

/-- The client reads the prediction out of an answer. -/
theorem ofBody_answer (prediction : String) :
    ofBody (answer prediction).write = .ok prediction := by
  -- the brackets at its ends keep the answer from being trimmed
  obtain ⟨between, hwrite⟩ := toList_write_answer prediction
  have htrim : Text.trim (answer prediction).write
      = (answer prediction).write :=
    Text.trim_of_ends hwrite (by decide) (by decide)
  have hobject : looksLikeObject (answer prediction).write = true := by
    rw [looksLikeObject, hwrite]
    rfl
  have hparse : Json.parseText (answer prediction).write
      = .ok (answer prediction) := by
    rw [Json.parseText, Json.parse, Route.read_answer]
  rw [ofBody, htrim, if_pos hobject, hparse]
  rfl

end Prediction

namespace Route

/-- The text of a response is the answer that it carries. -/
theorem text_predicting (prediction : String) :
    (predicting prediction).text = (Prediction.answer prediction).write := by
  obtain ⟨between, hwrite⟩ := Prediction.toList_write_answer prediction
  have hbody : (predicting prediction).body = 0x7B
      :: (between ++ ['\x7d']).flatMap String.utf8EncodeChar := by
    show Utf8.encode _ = _
    rw [Utf8.encode_eq_flatMap, hwrite, List.flatMap_cons]
    rfl
  -- no mark and no charset, so the body is read as UTF-8
  have hmark : Http.Charset.ofMark? (predicting prediction).body = none := by
    rw [hbody]
    rfl
  have hcharset : Http.Charset.ofContentType? Http.jsonType = none := by
    with_unfolding_all rfl
  have htype : (predicting prediction).contentType = some Http.jsonType := rfl
  rw [Http.Response.text, hmark]
  dsimp only
  rw [htype, Option.bind_some, hcharset]
  exact Utf8.lossy_encode _

end Route

-- ============================================================== requests

namespace Client

variable {c : Client}

/-- The route reads the text out of a request. -/
theorem textOfBody_request (c : Client) (text : String) :
    Route.textOfBody (c.request text).body = .ok text := by
  have hread : Json.read (c.request text).body
      = .ok (.object [("text", .string text)]) :=
    Json.read_write (.object [("text", .string text)]) rfl
  rw [Route.textOfBody, Json.parse, hread]
  rfl

/-- A server whose URL has no directories is asked at the path of the
route. -/
theorem pathOf_request (h : c.server.path.dropLast = []) (text : String) :
    Route.pathOf (c.request text) = Route.path := by
  have hpath : (c.request text).path = "/" ++
      String.intercalate "/" ["restore"] := by
    show "/" ++
      String.intercalate "/" (c.server.path.dropLast ++ ["restore"]) = _
    rw [h]
    rfl
  rw [Route.pathOf, hpath]
  with_unfolding_all rfl

/-- The route takes the requests of a client that knows its address. -/
theorem accepted_request (h : c.server.path.dropLast = []) {text : String}
    (hbody : (c.request text).body.length ≤ Route.bodyLimit) :
    Route.Accepted (c.request text) :=
  ⟨pathOf_request h text, rfl, hbody⟩

/-- It answers them with the prediction for their text. -/
theorem answer_request (c : Client) (text : String) (restore : Restorer σ)
    (params : Params) (state : σ) :
    Route.answer restore params state (c.request text).body
      = Route.predict restore params state text := by
  rw [Route.answer, textOfBody_request]

end Client

-- ============================================================== exchange

namespace Route

/-- A server of which only the route is there: it answers one request. A
request to a restorer that never ends is lost. -/
def serving (restore : Restorer σ) (params : Params) (state : σ) (_ : Url)
    (r : Http.Request) :
    Except Http.Loss Http.Response :=
  match respond restore params state r with
  | some a => .ok a.response
  | none => .error .dropped

/-- A text is answered, unless the restorer never comes to an end. -/
theorem predict_isSome_iff {restore : Restorer σ} {params : Params} {state : σ}
    {text : String} :
    (predict restore params state text).isSome
      ↔ (text ≠ "" → (restore state text params).isSome) := by
  unfold predict
  by_cases hempty : text = ""
  · rw [if_pos hempty]
    exact ⟨fun _ hne => absurd hempty hne, fun _ => rfl⟩
  · rw [if_neg hempty]
    cases restore state text params with
    | none => exact ⟨fun h => absurd h Bool.false_ne_true, fun h => h hempty⟩
    | some r =>
        refine ⟨fun _ _ => rfl, fun _ => ?_⟩
        dsimp only [Option.bind_eq_bind, Option.bind_some]
        split
        · rfl
        · split <;> rfl

end Route

namespace Client

/-- And so it responds to them. -/
theorem respond_request {c : Client} (h : c.server.path.dropLast = [])
    {text : String} (hbody : (c.request text).body.length ≤ Route.bodyLimit)
    (restore : Restorer σ) (params : Params) (state : σ) :
    (Route.respond restore params state (c.request text)).map
        (fun a => (a.response, a.state))
      = (Route.predict restore params state text).map fun a =>
        (Route.predicting a.prediction, a.state) := by
  rw [Route.respond_accepted (accepted_request h hbody), answer_request]

/-- The restorer gets the text once, unless it is empty. -/
theorem predict_recording (restore : Restorer σ) (params : Params) (state : σ)
    (log : List (String × Params)) (text : String) :
    (Route.predict (Route.recording restore) params (state, log) text).map
        (fun a => (a.prediction, a.state))
      = (Route.predict restore params state text).map fun a =>
        (a.prediction,
          (a.state, log ++ if text = "" then [] else [(text, params)])) := by
  unfold Route.predict Route.recording
  by_cases hempty : text = ""
  · simp only [if_pos hempty, Option.map_some, List.append_nil]
  · simp only [if_neg hempty]
    cases restore state text params with
    | none => rfl
    | some r =>
        obtain ⟨result, events, state'⟩ := r
        cases result with
        | error f => rfl
        | ok document =>
            dsimp only [Option.map_some, Option.bind_eq_bind, Option.bind_some]
            cases Prediction.top document with
            | error e => rfl
            | ok prediction => rfl

/-- Client and route agree on the wire. Whatever characters a text holds,
the route hands this text to the restorer, once, unless it is empty, and
whatever characters the prediction holds that comes of it, this prediction
is what the client returns; it does return one if the restorer ends. -/
theorem restore_serving (c : Client) (hpath : c.server.path.dropLast = [])
    (hsendable : c.restoreUrl.isSendable = true) (restore : Restorer σ)
    (params : Params) (state : σ) (text : String)
    (hbody : (c.request text).body.length ≤ Route.bodyLimit) :
    Route.textOfBody (c.request text).body = .ok text
      ∧ (∀ log, (Route.respond (Route.recording restore) params (state, log)
            (c.request text)).map (fun a => (a.response, a.state.2))
          = (Route.respond restore params state (c.request text)).map fun a =>
            (a.response, log ++ if text = "" then [] else [(text, params)]))
      ∧ (∀ a, Route.predict restore params state text = some a →
          c.restore (Route.serving restore params state) text
            = .ok a.prediction)
      ∧ ((Route.predict restore params state text).isSome
          ↔ (text ≠ "" → (restore state text params).isSome)) := by
  refine ⟨textOfBody_request c text, fun log => ?_, fun a ha => ?_,
    Route.predict_isSome_iff⟩
  · have hrecording := congrArg (Option.map fun p => (p.1, p.2.2))
      (respond_request hpath hbody (Route.recording restore) params
        (state, log))
    have hplain := congrArg
      (Option.map fun p =>
        (p.1, log ++ if text = "" then [] else [(text, params)]))
      (respond_request hpath hbody restore params state)
    have hpredict :=
      congrArg (Option.map fun p => (Route.predicting p.1, p.2.2))
      (predict_recording restore params state log text)
    rw [Option.map_map, Option.map_map] at hrecording hplain hpredict
    exact hrecording.trans (hpredict.trans hplain.symm)
  · have hrespond := respond_request hpath hbody restore params state
    rw [ha, Option.map_some, Option.map_eq_some_iff] at hrespond
    obtain ⟨b, hb, heq⟩ := hrespond
    have hresponse : b.response = Route.predicting a.prediction :=
      congrArg Prod.fst heq
    have hstatus : (Route.predicting a.prediction).status.isClientError = false
        ∧ (Route.predicting a.prediction).status.isServerError = false :=
      ⟨rfl, rfl⟩
    rw [Client.restore, if_pos hsendable, Route.serving, hb]
    show Client.prediction c (.ok b.response) = _
    rw [hresponse, Client.prediction, hstatus.1, hstatus.2, Bool.or_self,
      if_neg Bool.false_ne_true, Route.text_predicting,
      Prediction.ofBody_answer]

/-- A text with white space around it, brackets, and whatever has to be
escaped. -/
def bracedText : String := " \x7b\"\\\x00\x1f😀\x7d \n"

/-- A client of a server on this machine. -/
def localClient : Client :=
  ⟨⟨.http, "", "", .eight [0, 0, 0, 0, 0, 0, 0, 1], some 8000, [""]⟩⟩

/-- It comes back from a restorer that changes nothing. -/
theorem restore_serving_braced :
    ofText "[::1]:8000" = .ok localClient
      ∧ localClient.restore (Route.serving Route.echo .default 0) bracedText
        = .ok bracedText := by
  have hclient : ofText "[::1]:8000" = .ok localClient := by
    with_unfolding_all rfl
  have hpredict :
      (Route.predict Route.echo .default 0 bracedText).map (·.prediction)
      = some bracedText := by
    with_unfolding_all rfl
  obtain ⟨a, ha, hprediction⟩ := Option.map_eq_some_iff.mp hpredict
  obtain ⟨-, -, hserving, -⟩ :=
    restore_serving localClient rfl (by decide +kernel) Route.echo
    .default 0 bracedText (by decide +kernel)
  refine ⟨hclient, ?_⟩
  rw [hserving a ha, hprediction]

end Client

end Restoration
