import NodeAgent.Log.Template
import NodeAgent.Proofs.Health.History
import NodeAgent.Proofs.Http.Get
/-!
What the endpoints answer over any history of events that are set and cleared, handlers that are
made and requests that come in. A reply is settled by its path, by the event that its handler is
bound to, and by the metrics; it is recorded once, whatever its path is made of.

Main results:
* `serves_iff`: what is served at a path, spelled out in `Serves`.
* `request_answered_by_last_set`: what a request comes to behind any history (`Answered`), over any
  `Scraper`.
-/

namespace NodeAgent

/-! ## Templates of texts -/

namespace Log.Template

theorem directive_text (s : String) (values : List Datum) (rest : List Char) :
    directive ⟨.text s :: values, none⟩ ('s' :: rest) = .ok (s.toList, ⟨values, none⟩, rest) := by
  have hwidth : readSize widthLimit ('s' :: rest) = .ok (0, 's' :: rest) := rfl
  simp [directive, readName, readFlags, readWidth, hwidth, readPrecision, skipSize, Supply.take,
    convert, ifWritable, Datum.isWritable, showText, layoutText, bind, Except.bind, pure,
    Except.pure, Datum.plain]

/-- A text is filled in as it stands: percent signs in it are no directives. -/
theorem fillFrom_text (s : String) (values : List Datum) (fuel : Nat) (rest : List Char) :
    fillFrom ⟨.text s :: values, none⟩ (fuel + 1) ('%' :: 's' :: rest) =
      (fillFrom ⟨values, none⟩ fuel rest).map (s.toList ++ ·) := by
  rw [fillFrom, directive_text]
  · rfl
  · simp

theorem fillFrom_plain {c : Char} (h : c ≠ '%') (supply : Supply) (fuel : Nat) (rest : List Char) :
    fillFrom supply (fuel + 1) (c :: rest) = (fillFrom supply fuel rest).map (c :: ·) := by
  rw [fillFrom]
  · rfl
  · exact fun _ hc _ => h hc
  · exact h

/-- The template of the record of a request. -/
theorem fill_request (line status size : String) :
    fill "\"%s\" %s %s" (.ofList [.text line, .text status, .text size]) =
      .ok ("\"" ++ line ++ "\" " ++ status ++ " " ++ size) := by
  have hchars : "\"%s\" %s %s".toList = ['"', '%', 's', '"', ' ', '%', 's', ' ', '%', 's'] := rfl
  have hlength : "\"%s\" %s %s".length = 10 := rfl
  have harguments : Arguments.ofList [.text line, .text status, .text size] =
      .positional [.text line, .text status, .text size] := rfl
  rw [harguments, fill, hchars, hlength]
  simp only [fillFrom_text, fillFrom_plain (c := '"') (by decide),
    fillFrom_plain (c := ' ') (by decide)]
  simp [fillFrom, Except.map, ← String.toList_inj]

end Log.Template

namespace Health

/-! ## Endpoints -/

/-- What is served at a path while an event is set or clear. -/
inductive Serves (scraper : Scraper) (isSet : Prop) (metrics : Metrics) : String → Response → Prop
  | alive : Serves scraper isSet metrics "/healthz" { status := 200, body := "ok" }
  | ready (h : isSet) :
    Serves scraper isSet metrics "/readyz" { status := 200, body := "ready=true" }
  | unready (h : ¬ isSet) :
    Serves scraper isSet metrics "/readyz" { status := 503, body := "ready=false" }
  | metrics : Serves scraper isSet metrics "/metrics"
      { status := 200, contentType := some scraper.contentType, body := scraper.text metrics }
  | unknown {path : String} (h : path ∉ ["/healthz", "/readyz", "/metrics"]) :
      Serves scraper isSet metrics path { status := 404, body := "" }

section

variable {scraper : Scraper}

theorem respond_serves (state : State) {isSet : Prop} (h : state.ready = true ↔ isSet)
    (path : String) : Serves scraper isSet state.metrics path (respond scraper state path) := by
  unfold respond
  split
  · rename_i hpath
    exact hpath ▸ .alive
  split
  · rename_i hpath
    split
    · rename_i hready
      exact hpath ▸ .ready (h.mp hready)
    · rename_i hready
      exact hpath ▸ .unready fun hset => hready (h.mpr hset)
  split
  · rename_i hpath
    exact hpath ▸ .metrics
  · exact .unknown (by simp_all)

/-- No path is served in two ways. -/
theorem serves_iff (state : State) {isSet : Prop} (h : state.ready = true ↔ isSet) {path : String}
    {response : Response} :
    Serves scraper isSet state.metrics path response ↔ response = respond scraper state path := by
  constructor
  · intro hserves
    cases hserves with
    | alive => rfl
    | ready hset => simp [respond, h.mpr hset]
    | unready hclear => simp [respond, mt h.mp hclear]
    | metrics => simp [respond]
    | unknown hpath =>
      simp only [List.mem_cons, List.not_mem_nil, or_false, not_or] at hpath
      simp [respond, hpath]
  · rintro rfl
    exact respond_serves state h path

/-- Only at its own path does readiness show. -/
theorem respond_of_not_readyz {state other : State} (metrics : state.metrics = other.metrics)
    {path : String} (h : path ≠ "/readyz") :
    respond scraper state path = respond scraper other path := by
  simp only [respond, if_neg h, metrics]

end

/-! ## Records -/

/-- The record of a request: its line in quotes, the status of the reply, and a dash in the place
of a size. -/
structure TellsOf (line : String) (status : Nat) (record : Log.Event) : Prop where
  level : record.level = .debug
  logger : record.logger = "kubeip.health"
  message : record.message = "\"" ++ line ++ "\" " ++ toString status ++ " -"
  /-- It is filled in from a template of three texts. -/
  filled : Log.Template.fill "\"%s\" %s %s"
      (.ofList [.text line, .text (toString status), .text "-"]) = .ok record.message

theorem answerEvent_tells (line : String) (status : Nat) :
    TellsOf line status (answerEvent line status) where
  level := rfl
  logger := rfl
  message := rfl
  filled := by
    have hdash : " " ++ "-" = " -" := by decide
    rw [Log.Template.fill_request, String.append_assoc, hdash]
    rfl

/-! ## Replies over a history -/

section

variable {scraper : Scraper} {before : List Step} {handler event : Nat}

theorem replyBehind_eq (bound : (before.filterMap Step.made?)[handler]? = some event)
    (bytes : ByteArray) :
    replyBehind scraper before handler bytes =
      Prod.map some id
        (answer scraper ((siteAfter before).state event) (Http.Request.ofBytes bytes)) := by
  rw [← siteAfter_handlers] at bound
  simp only [replyBehind, Site.reply?, bound]
  rfl

/-- A handler answers by its own event: whatever is done about others does not show in it. -/
theorem replyBehind_isolated (bound : (before.filterMap Step.made?)[handler]? = some event)
    {others : List Step}
    (alike : others.filter (Step.concerns (· == event)) =
      before.filter (Step.concerns (· == event))) (bytes : ByteArray) :
    replyBehind scraper others handler bytes = replyBehind scraper before handler bytes := by
  have agree := agreeOn_of_filter alike
  have hstate : (siteAfter others).state event = (siteAfter before).state event := by
    simp only [Site.state, agree.events event (by simp), agree.metrics]
  rw [← siteAfter_handlers] at bound
  simp only [replyBehind, Site.reply?, agree.handlers, bound, hstate]

variable {get : Http.Get} {bytes : ByteArray}

theorem replyBehind_of_get (bound : (before.filterMap Step.made?)[handler]? = some event)
    (sent : Http.characters bytes = get.text) :
    let response := respond scraper ((siteAfter before).state event) get.path
    replyBehind scraper before handler bytes =
      (some (.response .full response), [answerEvent get.line response.status]) := by
  intro response
  rw [replyBehind_eq bound, Http.Request.ofBytes, sent, get.read_text]
  rfl

theorem replyBehind_of_not_readyz (bound : (before.filterMap Step.made?)[handler]? = some event)
    (sent : Http.characters bytes = get.text) (hpath : get.path ≠ "/readyz") {others : List Step}
    (alike : others.filter (Step.concerns fun _ => false) =
      before.filter (Step.concerns fun _ => false)) :
    replyBehind scraper others handler bytes = replyBehind scraper before handler bytes := by
  have agree := agreeOn_of_filter alike
  have bound' : (others.filterMap Step.made?)[handler]? = some event := by
    rw [← siteAfter_handlers] at bound ⊢
    rw [agree.handlers, bound]
  have hmetrics : ((siteAfter others).state event).metrics =
      ((siteAfter before).state event).metrics := agree.metrics
  rw [replyBehind_of_get bound sent, replyBehind_of_get bound' sent,
    respond_of_not_readyz hmetrics hpath]

end

/-- What a request to a handler comes to that is bound to an event, behind a history and in front of
what follows. -/
structure Answered (scraper : Scraper) (before later : List Step) (handler event : Nat)
    (bytes : ByteArray) (get : Http.Get) : Prop where
  /-- It is answered by its path, and recorded once; it leaves the site as it was. -/
  served : ∃ response record,
    (({} : Site).run scraper (before ++ .request handler bytes :: later))[before.length]? =
        some (siteAfter before, some (.response .full response), [record]) ∧
      Serves scraper (LastSet event before) (siteAfter before).metrics get.path response ∧
      TellsOf get.line response.status record
  /-- Later steps come to what they would come to without the request. -/
  later_alike :
    (({} : Site).run scraper (before ++ .request handler bytes :: later)).drop (before.length + 1) =
      (({} : Site).run scraper (before ++ later)).drop before.length
  /-- What is done about other events, and what else is asked, does not show. -/
  isolated : ∀ others : List Step,
    others.filter (Step.concerns (· == event)) = before.filter (Step.concerns (· == event)) →
      replyBehind scraper others handler bytes = replyBehind scraper before handler bytes
  /-- Nor does what is done about any event, at the other paths. -/
  readiness_hidden : get.path ≠ "/readyz" → ∀ others : List Step,
    others.filter (Step.concerns fun _ => false) = before.filter (Step.concerns fun _ => false) →
      replyBehind scraper others handler bytes = replyBehind scraper before handler bytes

/-- Over any history, a well-formed request to a handler is answered by its path and by whether the
event of the handler was last set, is recorded once, and changes nothing. -/
theorem request_answered_by_last_set (scraper : Scraper) (before later : List Step)
    {handler event : Nat} (bound : (before.filterMap Step.made?)[handler]? = some event)
    {bytes : ByteArray} {get : Http.Get} (sent : Http.characters bytes = get.text) :
    Answered scraper before later handler event bytes get where
  served := by
    have hreply : replyBehind scraper before handler bytes = _ := replyBehind_of_get bound sent
    have hserves : Serves scraper _ _ get.path _ :=
      respond_serves ((siteAfter before).state event) (siteAfter_events before event) get.path
    exact ⟨_, _, (run_request_getElem? ..).trans (by rw [hreply]), hserves, answerEvent_tells ..⟩
  later_alike := run_request_drop scraper before later handler bytes
  isolated := fun _ alike => replyBehind_isolated bound alike bytes
  readiness_hidden := fun hpath _ alike => replyBehind_of_not_readyz bound sent hpath alike

/-- A request whose target is full of percent signs. -/
def percentGet : Http.Get where
  target := "/readyz?%s=%d%%".toList
  minor := ['1']
  headers := [⟨"Host: h".toList, by decide, by decide, by decide⟩]
  target_nonempty := by decide
  target_solid := by simp [Text.isBlank]
  minor_nonempty := by decide
  minor_digits := by simp
  minor_short := by decide
  fits := by decide
  few_headers := by decide

def percentBytes : ByteArray := "GET /readyz?%s=%d%% HTTP/1.1\r\nHost: h\r\n\r\n".toUTF8

def readyGet : Http.Get where
  target := "/readyz".toList
  minor := ['0']
  target_nonempty := by decide
  target_solid := by simp [Text.isBlank]
  minor_nonempty := by decide
  minor_digits := by simp
  minor_short := by decide
  fits := by decide
  few_headers := by decide

def readyBytes : ByteArray := "GET /readyz HTTP/1.0\r\n\r\n".toUTF8

/-- A way to write metrics out that tells nothing of them. -/
def silentScraper : Scraper := { contentType := "text/plain", text := fun _ => "" }

/-- Two handlers, of which the event of the first is set. -/
def twoHandlers : List Step := [.makeHandler 0, .makeHandler 1, .setReady 0 true]

/-- The second handler does not see that the event of the first is set; and a target full of percent
signs is recorded as it stands. -/
theorem request_answered_by_last_set_two_handlers :
    (∃ record, (({} : Site).run silentScraper (twoHandlers ++ [.request 1 readyBytes]))[3]? =
        some (siteAfter twoHandlers,
          some (.response .full { status := 503, body := "ready=false" }), [record]) ∧
      record.message = "\"GET /readyz HTTP/1.0\" 503 -") ∧
    ∃ record, (({} : Site).run silentScraper (twoHandlers ++ [.request 0 percentBytes]))[3]? =
        some (siteAfter twoHandlers, some (.response .full { status := 404 }), [record]) ∧
      record.message = "\"GET /readyz?%s=%d%% HTTP/1.1\" 404 -" := by
  constructor
  · have sent : Http.characters readyBytes = readyGet.text := by decide +kernel
    have answered : Answered silentScraper twoHandlers [] 1 1 readyBytes readyGet :=
      request_answered_by_last_set silentScraper twoHandlers [] rfl sent
    obtain ⟨response, record, hentry, hserves, htells⟩ := answered.served
    have hresponse : response = { status := 503, body := "ready=false" } :=
      (serves_iff ((siteAfter twoHandlers).state 1) (siteAfter_events twoHandlers 1)).mp hserves
    rw [hresponse] at hentry htells
    exact ⟨record, hentry, htells.message.trans (by decide +kernel)⟩
  · have sent : Http.characters percentBytes = percentGet.text := by decide +kernel
    have answered : Answered silentScraper twoHandlers [] 0 0 percentBytes percentGet :=
      request_answered_by_last_set silentScraper twoHandlers [] rfl sent
    obtain ⟨response, record, hentry, hserves, htells⟩ := answered.served
    have hresponse : response = { status := 404 } :=
      (serves_iff ((siteAfter twoHandlers).state 0) (siteAfter_events twoHandlers 0)).mp hserves
    rw [hresponse] at hentry htells
    exact ⟨record, hentry, htells.message.trans (by decide +kernel)⟩

end Health

end NodeAgent
