import NodeAgent.Http.Request
import NodeAgent.Log.Event
import NodeAgent.Metrics
/-!
The health of an agent, as it is served: whether it lives, whether it has resolved its node, and
its metrics. Nothing that is asked changes what is served. The text of the metrics is written by
another library, which is a parameter (`Scraper`).

Correspondence:
* `respond`: `do_GET` with `_respond`; `answerEvent`, `refusalEvent`: `log_message`.
* `Step.makeHandler`: `make_health_handler`; `Site.run`: what handlers answer over time.
* `startEvent`: what `start_health_server` logs.
* `Scraper`: `generate_latest` and `CONTENT_TYPE_LATEST`.
-/

namespace NodeAgent.Health

/-- What is served from. -/
structure State where
  ready : Bool := false
  metrics : Metrics := {}
  deriving DecidableEq

structure Response where
  status : Nat
  contentType : Option String := none
  body : String := ""
  deriving DecidableEq

def Response.reason (response : Response) : String :=
  if response.status = 200 then "OK"
  else if response.status = 503 then "Service Unavailable"
  else "Not Found"

/-- How another library writes metrics out to be scraped. What it tells beyond them, of the process
or of its own, is left aside. -/
structure Scraper where
  contentType : String
  text : Metrics → String

/-- The response at a path. -/
def respond (scraper : Scraper) (state : State) (path : String) : Response :=
  if path = "/healthz" then { status := 200, body := "ok" }
  else if path = "/readyz" then
    if state.ready then { status := 200, body := "ready=true" }
    else { status := 503, body := "ready=false" }
  else if path = "/metrics" then
    { status := 200, contentType := some scraper.contentType, body := scraper.text state.metrics }
  else { status := 404 }

/-- What is sent back: nothing, a response, or a refusal with or without its page. -/
inductive Reply
  | nothing
  | response (style : Http.Style) (response : Response)
  | refused (style : Http.Style) (refusal : Http.Refusal) (page : Bool)
  deriving DecidableEq

def requestLogger : String := "kubeip.health"

def answerEvent (line : String) (status : Nat) : Log.Event :=
  { level := .debug, logger := requestLogger
    message := "\"" ++ line ++ "\" " ++ toString status ++ " -" }

def refusalEvent (refusal : Http.Refusal) : Log.Event :=
  { level := .debug, logger := requestLogger
    message := "code " ++ toString refusal.status ++ ", message " ++ refusal.message }

/-- What is sent back for a request and what is logged of it. -/
def answer (scraper : Scraper) (state : State) : Http.Request → Reply × List Log.Event
  | .nothing => (.nothing, [])
  | .refused line style refusal headersOnly =>
    (.refused style refusal (!headersOnly),
      [refusalEvent refusal, answerEvent line refusal.status])
  | .get line path style =>
    let response := respond scraper state path
    (.response style response, [answerEvent line response.status])

/-- What is logged once a server listens on a port. -/
def startEvent (port : Int) : Log.Event :=
  { level := .info, logger := "agent.src.health"
    message := "Health server listening on :" ++ toString port }

/-- The address of every interface. -/
def anyHost : String := "0.0.0.0"

/-- What a process serves health from: its events, each of which is set or clear; its handlers, in
the order in which they were made, each bound to an event; and its metrics. -/
structure Site where
  events : Nat → Bool := fun _ => false
  handlers : List Nat := []
  metrics : Metrics := {}

/-- What happens to a site: a handler is made for an event, the agent changes what is served from,
or a request comes in to a handler. -/
inductive Step
  | makeHandler (event : Nat)
  | setReady (event : Nat) (ready : Bool)
  | setGauge (value : Binary64)
  | count (outcome : String)
  | describeBuild (labels : List (String × String))
  | request (handler : Nat) (bytes : ByteArray)

namespace Site

def after (site : Site) : Step → Site
  | .makeHandler event => { site with handlers := site.handlers ++ [event] }
  | .setReady event ready =>
    { site with events := fun other => if other = event then ready else site.events other }
  | .setGauge value => { site with metrics := { site.metrics with ready := value } }
  | .count outcome => { site with metrics := site.metrics.countResolution outcome }
  | .describeBuild labels => { site with metrics := site.metrics.describeBuild labels }
  | .request _ _ => site

/-- What the handlers of an event serve from. -/
def state (site : Site) (event : Nat) : State :=
  { ready := site.events event, metrics := site.metrics }

/-- The reply to a step and what is logged of it; only a request to a handler that was made has
either. -/
def reply? (scraper : Scraper) (site : Site) : Step → Option Reply × List Log.Event
  | .request handler bytes =>
    match site.handlers[handler]? with
    | some event =>
      let (reply, events) := answer scraper (site.state event) (Http.Request.ofBytes bytes)
      (some reply, events)
    | none => (none, [])
  | _ => (none, [])

/-- The replies to steps, one after the other, each with the site after its step. -/
def run (scraper : Scraper) : Site → List Step → List (Site × Option Reply × List Log.Event)
  | _, [] => []
  | site, step :: steps =>
    let after := site.after step
    (after, site.reply? scraper step) :: run scraper after steps

end Site

end NodeAgent.Health
