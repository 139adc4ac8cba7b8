import NodeAgent.Proofs.Agent.Stages
import NodeAgent.Proofs.Log.Calls
import NodeAgent.Proofs.Service.Actions
import NodeAgent.Rehearsal.Exposition
/-!
The life of a service. Its settings are refused, or its server cannot listen, or its agent runs,
once. The status of its end tells whether one of the three failed, and if one did, the last thing
that is written is one critical record that says so, at every level that settings can ask for. A
server listens before the run and is shut down and closed after it, however the run ends.

Main results:
* `serve_of_unstarted`, `serve_of_starts`: the course of a service, worked out action by action.
* `FailsWith.exit_and_report`, `fails_of_status_one`: which services fail, and what they report.
* `Course.Reports.shows`: the line of the report ends the log at every level.
* `serve_lives`: the life of a service.
-/

namespace NodeAgent

/-! ## Graveness -/

namespace Log

/-- Whether an event is less grave than a critical one. -/
def Event.IsMild (event : Event) : Prop := event.level ≠ .critical

def criticals (events : List Event) : List Event :=
  events.filter fun event => event.level = .critical

theorem criticals_append (events more : List Event) :
    criticals (events ++ more) = criticals events ++ criticals more := List.filter_append ..

theorem criticals_of_mild {events : List Event} (h : ∀ event ∈ events, event.IsMild) :
    criticals events = [] := by
  refine List.filter_eq_nil_iff.mpr ?_
  intro event hevent hcritical
  exact h event hevent (of_decide_eq_true hcritical)

/-- No level holds back what is critical. -/
theorem Level.number_le_critical (threshold : Level) :
    threshold.number ≤ Level.critical.number := by
  cases threshold <;> decide

end Log

theorem Health.answer_mild (scraper : Scraper) (state : State) (request : Http.Request) :
    ∀ event ∈ (answer scraper state request).2, event.IsMild := by
  cases request with
  | nothing => simp [answer]
  | refused line style refusal headersOnly =>
    simp [answer, Log.Event.IsMild, refusalEvent, answerEvent]
  | get line path style => simp [answer, Log.Event.IsMild, answerEvent]

namespace Agent

theorem IsRemark.isMild {fields : Log.Fields} {event : Log.Event} (h : IsRemark fields event) :
    event.IsMild := by
  cases h with
  | source path => exact nofun
  | note h => cases h <;> exact nofun
  | named node => exact nofun
  | resolved node => exact nofun

/-- The kind of a failure that a run ends with and that no stage is blamed for. -/
def Ending.unblamed? : Ending → Option FailureKind
  | interrupted => some .interrupt
  | escaped kind => some kind
  | _ => none

variable {Access : Type} {settings : Settings} {world : World Access} {fields : Log.Fields}
  {shown : Shown}

/-- A run logs nothing critical: what it fails with is left to those who run it. -/
theorem Course.mild {run : Run Access} (course : Course settings world fields shown run) :
    (∀ event ∈ run.before, event.IsMild) ∧ ∀ event ∈ run.after, event.IsMild := by
  obtain ⟨remarks, hbefore, hremarks⟩ := course.before_eq
  have hstarted : (startedEvent settings fields).IsMild := nofun
  have hpolicy : (policyEvent settings fields).IsMild := nofun
  have hstopped : (stoppedEvent fields).IsMild := nofun
  rw [hbefore]
  refine ⟨List.forall_mem_cons.mpr ⟨hstarted, List.forall_mem_cons.mpr
    ⟨hpolicy, fun event hevent => (hremarks event hevent).isMild⟩⟩, ?_⟩
  intro event hevent
  rw [course.after_stopped event hevent]
  exact hstopped

end Agent

namespace Service

variable {Access : Type}

/-! ## What is written -/

/-- The events of a course that its level lets through. -/
def Course.writtenEvents (course : Course Access) : List Log.Event :=
  match course.logging with
  | none => []
  | some (threshold, _) =>
    course.events.filter fun event => threshold.number ≤ event.level.number

/-- The critical events that a course writes. -/
def Course.criticals (course : Course Access) : List Log.Event := Log.criticals course.writtenEvents

/-- The log of a course holds what is written of its written events and nothing else. -/
theorem Course.log_eq {course : Course Access} {threshold : Log.Level} {format : Log.Format}
    (h : course.logging = some (threshold, format)) (origin : Log.Origin) :
    course.log origin =
      String.join (course.writtenEvents.map fun event =>
        Log.written [format] (event.record origin)) := by
  unfold log writtenEvents
  simp only [h]
  induction course.events with
  | nil => simp
  | cons event events ih =>
    by_cases hpassed : threshold.number ≤ event.level.number
    · simp [hpassed, ih]
    · simp [hpassed, ih]

/-- A course with a log that ends in an event, the only critical one. -/
structure Course.Reports (course : Course Access) (event : Log.Event) : Prop where
  logs : course.logging.isSome = true
  critical : event.level = .critical
  last : ∃ earlier, course.events = earlier ++ [event] ∧ ∀ event ∈ earlier, event.IsMild

theorem Course.criticals_of_logging {course : Course Access} (h : course.logging.isSome = true) :
    course.criticals = Log.criticals course.events := by
  obtain ⟨⟨threshold, format⟩, hlogging⟩ := Option.isSome_iff_exists.mp h
  unfold criticals writtenEvents
  simp only [hlogging, Log.criticals, List.filter_filter]
  refine List.filter_congr ?_
  intro event _
  by_cases hcritical : event.level = .critical
  · simp [hcritical, threshold.number_le_critical]
  · simp [hcritical]

theorem Course.criticals_of_mild {course : Course Access}
    (h : ∀ event ∈ course.events, event.IsMild) : course.criticals = [] := by
  cases hlogging : course.logging with
  | none => simp [criticals, writtenEvents, hlogging, Log.criticals]
  | some logging =>
    rw [criticals_of_logging (by rw [hlogging]; rfl), Log.criticals_of_mild h]

theorem Course.Reports.criticals {course : Course Access} {event : Log.Event}
    (h : course.Reports event) : course.criticals = [event] := by
  obtain ⟨earlier, hevents, hmild⟩ := h.last
  rw [criticals_of_logging h.logs, hevents, Log.criticals_append, Log.criticals_of_mild hmild]
  simp [Log.criticals, h.critical]

/-- The record of a failure has a line, wherever it is made. -/
theorem exists_failedLine (format : Log.Format) (environment : Environment) (message : String)
    (failure : Option Failure) {origin : Log.Origin} {moment : String}
    (hmoment : Time.stamp origin.moment = .ok moment)
    (horigin : (Datum.int origin.line).isWritable = true) :
    ∃ line, format.line none ((failedEvent environment message failure).record origin) =
      .ok line := by
  have hnames : (fieldsOf environment).names.Nodup := by simp [fieldsOf, Log.Fields.names]
  have hcritical : (Datum.int Log.Level.critical.number).isWritable = true := by decide +kernel
  have hmessage : ((failedEvent environment message failure).record origin).message =
      .ok ("kubeip agent failed: " ++ message) := by rfl
  apply (@Log.Format.exists_line_iff format none
    ((failedEvent environment message failure).record origin) hnames).mpr
  refine ⟨hcritical, ⟨moment, hmoment⟩, horigin, ⟨_, hmessage⟩, ?_⟩
  intro field hfield
  rw [List.mem_singleton.mp (Log.Format.mem_fields_of_mem_valuesOf hfield)]
  rfl

/-- The line of the report is the last one that is written. -/
theorem Course.Reports.shows {course : Course Access} {event : Log.Event} (h : course.Reports event)
    {origin : Log.Origin}
    (hlines : ∀ format : Log.Format, ∃ line, format.line none (event.record origin) = .ok line) :
    ∃ format earlier line, Log.Format.line format none (event.record origin) = .ok line ∧
      course.log origin = earlier ++ (line ++ "\n") := by
  obtain ⟨⟨threshold, format⟩, hlogging⟩ := Option.isSome_iff_exists.mp h.logs
  obtain ⟨earlier, hevents, -⟩ := h.last
  obtain ⟨line, hline⟩ := hlines format
  have hpassed : threshold.number ≤ event.level.number := by
    rw [h.critical]
    exact threshold.number_le_critical
  have hwritten : course.writtenEvents =
      earlier.filter (fun event => threshold.number ≤ event.level.number) ++ [event] := by
    unfold writtenEvents
    simp only [hlogging, hevents, List.filter_append]
    simp [hpassed]
  have hlog := log_eq hlogging origin
  rw [hwritten, List.map_append, String.join_append, List.map_singleton,
    Log.written_line hline, String.join_cons, String.join_nil, String.append_empty] at hlog
  exact ⟨format, _, line, hline, hlog⟩

/-! ## The course of a service -/

/-- The run of the agent of a service, which has a flag for a server to tell of. -/
def agentRun (settings : Settings) (world : World Access) : Agent.Run Access :=
  Agent.run settings world.toWorld (fieldsOf world.environment)
    { flag := some false, metrics := buildMetrics world.environment }

section

variable (flags : Flags) (world : World Access)

/-- Settings that a service runs its agent by: those of its flags, if it can listen where they ask
it to. -/
structure Starts (settings : Settings) : Prop where
  loaded : Settings.load world.accounts flags world.environment = .ok settings
  listens : settings.healthPort ≠ 0 → world.bindFault = none

/-- The courses of a service that does not come to run its agent: the settings are refused, or
cannot be read; the system refuses to listen, or listening fails otherwise. -/
inductive Unstarted : Course Access → Prop
  | refused {fault : Settings.Fault}
    (unloaded : Settings.load world.accounts flags world.environment = .error (.refused fault)) :
    Unstarted
      { logging := some (loggingOf {})
        events := [failedEvent world.environment fault.message none], exit := .status 1 }
  | unread {failure : Settings.Failure}
    (unloaded : Settings.load world.accounts flags world.environment = .error failure)
    (not_refused : ∀ fault, failure ≠ .refused fault) :
    Unstarted { exit := .escaped (loadKind failure) }
  | deaf {settings : Settings} {fault : Node.CallFault}
    (loaded : Settings.load world.accounts flags world.environment = .ok settings)
    (port : settings.healthPort ≠ 0) (unbound : world.bindFault = some fault)
    (system : isOfSystem fault = true) :
    Unstarted
      { logging := some (loggingOf settings), metrics := buildMetrics world.environment
        events := [failedEvent world.environment ("starting health server: " ++ fault.text) none]
        exit := .status 1 }
  | broken {settings : Settings} {fault : Node.CallFault}
    (loaded : Settings.load world.accounts flags world.environment = .ok settings)
    (port : settings.healthPort ≠ 0) (unbound : world.bindFault = some fault)
    (not_system : isOfSystem fault = false) :
    Unstarted
      { logging := some (loggingOf settings), metrics := buildMetrics world.environment
        exit := .escaped fault.kind }

/-- What a service fails with, and the failure that it reports with it if its agent failed. -/
inductive FailsWith : String → Option Failure → Prop
  | settings {fault : Settings.Fault}
    (unloaded : Settings.load world.accounts flags world.environment = .error (.refused fault)) :
    FailsWith fault.message none
  | server {settings : Settings} {fault : Node.CallFault}
    (loaded : Settings.load world.accounts flags world.environment = .ok settings)
    (port : settings.healthPort ≠ 0) (unbound : world.bindFault = some fault)
    (system : isOfSystem fault = true) :
    FailsWith ("starting health server: " ++ fault.text) none
  | agent {settings : Settings} {fault : Agent.Fault} (starts : Starts flags world settings)
    (failed : (agentRun settings world).ending = .failed fault) :
    FailsWith fault.message (some fault.failure)

variable {flags world}

/-- How a service ends with what its command comes to. -/
def exitOf : Except Raised Nat → Exit
  | .ok status => .status status
  | .error raised => .escaped raised.kind

theorem serve_of_command {outcome : Except Raised Nat} {progress : Progress Access}
    (h : (command flags world).run {} = (outcome, progress)) :
    serve flags world = { progress with exit := exitOf outcome } := by
  unfold serve
  rw [h]
  cases outcome <;> rfl

/-- The first thing that a service does with its settings: it logs by them and counts its build. -/
def begun (settings : Settings) (world : World Access) : Progress Access :=
  { logging := some (loggingOf settings), metrics := buildMetrics world.environment }

theorem command_of_loaded {settings : Settings}
    (loaded : Settings.load world.accounts flags world.environment = .ok settings) :
    (command flags world).run {} =
      match (listen settings world).run (begun settings world) with
      | (.ok true, after) => (supervise settings world (portOf settings)).run after
      | (.ok false, after) => (.ok 1, after)
      | (.error raised, after) => (.error raised, after) := by
  simp only [command, loaded, run_bind, setLogging_run, run_modify, begun]
  cases ExceptT.run (listen settings world) _ with
  | mk outcome after =>
    cases outcome with
    | error raised => rfl
    | ok goes_on => cases goes_on <;> rfl

theorem serve_of_unstarted {course : Course Access} (h : Unstarted flags world course) :
    serve flags world = course := by
  cases h with
  | @refused fault unloaded =>
    have hcommand : (command flags world).run {} = (.ok 1,
        { logging := some (loggingOf {})
          events := [failedEvent world.environment fault.message none] }) := by
      simp only [command, unloaded, run_bind, setLogging_run, log_run, run_pure]
      rfl
    exact serve_of_command hcommand
  | @unread failure unloaded not_refused =>
    have hcommand : (command flags world).run {} = (.error (.other (loadKind failure)), {}) := by
      unfold command
      rw [unloaded]
      cases failure with
      | refused fault => exact absurd rfl (not_refused fault)
      | _ => rfl
    exact serve_of_command hcommand
  | @deaf settings fault loaded port unbound system =>
    have hcommand : (command flags world).run {} = (.ok 1, { begun settings world with
        events :=
          [failedEvent world.environment ("starting health server: " ++ fault.text) none] }) := by
      rw [command_of_loaded loaded, listen_of_refused port unbound system]
      rfl
    exact serve_of_command hcommand
  | @broken settings fault loaded port unbound not_system =>
    have hcommand : (command flags world).run {} =
        (.error (.bind fault), begun settings world) := by
      rw [command_of_loaded loaded, listen_of_broken port unbound not_system]
    exact serve_of_command hcommand

/-- A service that starts has its server listen, if it is to have one, runs its agent, settles what
the run ended with, and closes the server. -/
theorem serve_of_starts {settings : Settings} (starts : Starts flags world settings) :
    let server := portOf settings
    let run := agentRun settings world
    let settled := settledBy world.environment run.ending
    let ran := ((begun settings world).listening server).ran world server run
    serve flags world =
      { ({ ran with events := ran.events ++ settled.2 } : Progress Access).done (closingOf server)
        with exit := exitOf settled.1 } := by
  have hmetrics : ((begun settings world).listening (portOf settings)).metrics =
      buildMetrics world.environment := by
    cases portOf settings <;> rfl
  apply serve_of_command
  rw [command_of_loaded starts.loaded, listen_of_bound starts.listens]
  simp only [supervise_run, hmetrics]
  rfl

variable (flags world)

theorem starts_or_unstarted :
    (∃ settings, Starts flags world settings) ∨ ∃ course, Unstarted flags world course := by
  cases hload : Settings.load world.accounts flags world.environment with
  | error failure =>
    refine .inr ?_
    cases failure with
    | refused fault => exact ⟨_, .refused hload⟩
    | _ => exact ⟨_, .unread hload nofun⟩
  | ok settings =>
    by_cases hport : settings.healthPort = 0
    · exact .inl ⟨settings, hload, absurd hport⟩
    cases hbind : world.bindFault with
    | none => exact .inl ⟨settings, hload, fun _ => hbind⟩
    | some fault =>
      refine .inr ?_
      cases hsystem : isOfSystem fault with
      | true => exact ⟨_, .deaf hload hport hbind hsystem⟩
      | false => exact ⟨_, .broken hload hport hbind hsystem⟩

variable {flags world}

/-! ## What a started service does -/

theorem answerAll_mild (scraper : Health.Scraper) (state : Health.State)
    (requests : List ByteArray) :
    ∀ event ∈ (answerAll scraper state requests).2, event.IsMild := by
  intro event hevent
  obtain ⟨answer, hanswer, hevent⟩ := List.mem_flatMap.mp hevent
  obtain ⟨bytes, -, rfl⟩ := List.mem_map.mp hanswer
  exact Health.answer_mild _ _ _ event hevent

theorem waitEvents_mild (world : World Access) (server : Option Int) (run : Agent.Run Access) :
    ∀ event ∈ waitEvents world server run, event.IsMild := by
  have hanswered : ∀ event ∈ (answered world server run).2, event.IsMild := by
    unfold answered
    split
    · exact answerAll_mild _ _ _
    · simp
  have hsignal : (signalEvent world.signal).IsMild := nofun
  unfold waitEvents
  split
  · exact List.forall_mem_append.mpr ⟨hanswered, List.forall_mem_singleton.mpr hsignal⟩
  · simp

section

variable {settings : Settings} (starts : Starts flags world settings)
include starts

theorem Starts.run : (serve flags world).run = some (agentRun settings world) := by
  rw [serve_of_starts starts]
  rfl

theorem Starts.exit :
    (serve flags world).exit =
      exitOf (settledBy world.environment (agentRun settings world).ending).1 := by
  rw [serve_of_starts starts]

theorem Starts.acts_bare (port : settings.healthPort = 0) : (serve flags world).acts = [.run] := by
  rw [serve_of_starts starts, portOf, if_pos port]
  rfl

theorem Starts.acts_served (port : settings.healthPort ≠ 0) :
    (serve flags world).acts = [.listen settings.healthPort, .run, .shutdown, .close] := by
  rw [serve_of_starts starts, portOf, if_neg port]
  rfl

theorem Starts.replies :
    (serve flags world).replies =
      (answered world (portOf settings) (agentRun settings world)).1 := by
  rw [serve_of_starts starts]
  rfl

theorem Starts.logging : (serve flags world).logging = some (loggingOf settings) := by
  rw [serve_of_starts starts]
  cases portOf settings <;> rfl

/-- Up to what it ends with, a started service logs nothing critical. -/
theorem Starts.events :
    ∃ earlier, (serve flags world).events =
        earlier ++ (settledBy world.environment (agentRun settings world).ending).2 ∧
      ∀ event ∈ earlier, event.IsMild := by
  have hrun : (∀ event ∈ (agentRun settings world).before, event.IsMild) ∧
      ∀ event ∈ (agentRun settings world).after, event.IsMild := (Agent.run_course ..).mild
  have hstart : ∀ event ∈ ((begun settings world).listening (portOf settings)).events,
      event.IsMild := by
    cases portOf settings with
    | none => exact nofun
    | some port => exact List.forall_mem_singleton.mpr nofun
  refine ⟨((begun settings world).listening (portOf settings)).events ++
    (agentRun settings world).before ++
    waitEvents world (portOf settings) (agentRun settings world) ++
    (agentRun settings world).after, ?_, ?_⟩
  · rw [serve_of_starts starts]
    rfl
  · simp only [List.forall_mem_append]
    exact ⟨⟨⟨hstart, hrun.1⟩, waitEvents_mild world _ _⟩, hrun.2⟩

end

/-! ## How a service ends -/

theorem exit_fails_iff {env : Environment} {ending : Agent.Ending} :
    exitOf (settledBy env ending).1 = .status 1 ↔ ∃ fault, ending = .failed fault := by
  cases ending <;> simp [settledBy, exitOf]

theorem exit_returns_iff {env : Environment} {ending : Agent.Ending} :
    exitOf (settledBy env ending).1 = .status 0 ↔ ∃ node, ending = .stopped node := by
  cases ending <;> simp [settledBy, exitOf]

theorem exit_escapes_iff {env : Environment} {ending : Agent.Ending} {kind : FailureKind} :
    exitOf (settledBy env ending).1 = .escaped kind ↔ ending.unblamed? = some kind := by
  cases ending <;> simp [settledBy, exitOf, Raised.kind, Agent.Ending.unblamed?]

theorem settledBy_silent {env : Environment} {ending : Agent.Ending}
    (h : exitOf (settledBy env ending).1 ≠ .status 1) : (settledBy env ending).2 = [] := by
  cases ending with
  | failed fault => exact absurd rfl h
  | _ => rfl

theorem FailsWith.exit_and_report {message : String} {failure : Option Failure}
    (h : FailsWith flags world message failure) :
    (serve flags world).exit = .status 1 ∧
      (serve flags world).Reports (failedEvent world.environment message failure) := by
  cases h with
  | settings unloaded =>
    rw [serve_of_unstarted (.refused unloaded)]
    exact ⟨rfl, rfl, rfl, [], rfl, nofun⟩
  | server loaded port unbound system =>
    rw [serve_of_unstarted (.deaf loaded port unbound system)]
    exact ⟨rfl, rfl, rfl, [], rfl, nofun⟩
  | agent starts failed =>
    refine ⟨starts.exit.trans (exit_fails_iff.mpr ⟨_, failed⟩), ?_, rfl, ?_⟩
    · rw [starts.logging]
      rfl
    · obtain ⟨earlier, hevents, hmild⟩ := starts.events
      rw [failed] at hevents
      exact ⟨earlier, hevents, hmild⟩

theorem fails_of_status_one (h : (serve flags world).exit = .status 1) :
    ∃ message failure, FailsWith flags world message failure := by
  rcases starts_or_unstarted flags world with ⟨settings, starts⟩ | ⟨course, unstarted⟩
  · rw [starts.exit] at h
    obtain ⟨fault, failed⟩ := exit_fails_iff.mp h
    exact ⟨_, _, .agent starts failed⟩
  · rw [serve_of_unstarted unstarted] at h
    cases unstarted with
    | refused unloaded => exact ⟨_, _, .settings unloaded⟩
    | deaf loaded port unbound system => exact ⟨_, _, .server loaded port unbound system⟩
    | unread => simp at h
    | broken => simp at h

theorem serve_silent (h : (serve flags world).exit ≠ .status 1) :
    (serve flags world).criticals = [] := by
  apply Course.criticals_of_mild
  rcases starts_or_unstarted flags world with ⟨settings, starts⟩ | ⟨course, unstarted⟩
  · obtain ⟨earlier, hevents, hmild⟩ := starts.events
    rw [starts.exit] at h
    rw [hevents, settledBy_silent h, List.append_nil]
    exact hmild
  · rw [serve_of_unstarted unstarted] at h ⊢
    cases unstarted with
    | refused => exact absurd rfl h
    | deaf => exact absurd rfl h
    | unread => exact nofun
    | broken => exact nofun

theorem serve_returns_iff :
    (serve flags world).exit = .status 0 ↔
      ∃ settings node, Starts flags world settings ∧
        (agentRun settings world).ending = .stopped node := by
  constructor
  · intro h
    rcases starts_or_unstarted flags world with ⟨settings, starts⟩ | ⟨course, unstarted⟩
    · rw [starts.exit] at h
      obtain ⟨node, stopped⟩ := exit_returns_iff.mp h
      exact ⟨settings, node, starts, stopped⟩
    · rw [serve_of_unstarted unstarted] at h
      cases unstarted <;> simp at h
  · intro h
    obtain ⟨settings, node, starts, stopped⟩ := h
    rw [starts.exit]
    exact exit_returns_iff.mpr ⟨node, stopped⟩

theorem serve_runs_iff (run : Agent.Run Access) :
    (serve flags world).run = some run ↔
      ∃ settings, Starts flags world settings ∧ run = agentRun settings world := by
  constructor
  · intro h
    rcases starts_or_unstarted flags world with ⟨settings, starts⟩ | ⟨course, unstarted⟩
    · rw [starts.run] at h
      exact ⟨settings, starts, (Option.some.inj h).symm⟩
    · rw [serve_of_unstarted unstarted] at h
      cases unstarted <;> simp at h
  · intro h
    obtain ⟨settings, starts, rfl⟩ := h
    exact starts.run

theorem serve_idle (h : ∀ settings, ¬ Starts flags world settings) :
    (serve flags world).acts = [] := by
  rcases starts_or_unstarted flags world with ⟨settings, starts⟩ | ⟨course, unstarted⟩
  · exact absurd starts (h settings)
  · rw [serve_of_unstarted unstarted]
    cases unstarted <;> rfl

/-- What a server tells while the agent waits is what the run shows then: that it is ready. -/
theorem Starts.tells {settings : Settings} (starts : Starts flags world settings)
    (port : settings.healthPort ≠ 0) {waiting : Agent.Shown}
    (waits : (agentRun settings world).waiting = some waiting) :
    (servedState waiting).ready = true ∧
      (serve flags world).replies =
        (answerAll world.scraper (servedState waiting) world.requests).1 := by
  have course := Agent.run_course settings world.toWorld (fieldsOf world.environment)
    { flag := some false, metrics := buildMetrics world.environment }
  obtain ⟨hready, hsome⟩ := course.ready_while_waiting waits
  constructor
  · obtain ⟨flag, hflag⟩ := Option.isSome_iff_exists.mp hsome
    have hset := hready.flag
    cases flag with
    | false => exact absurd hflag hset
    | true => simp [servedState, hflag]
  · rw [starts.replies, portOf, if_neg port]
    unfold answered
    simp only [waits]

/-! ## The life of a service -/

variable (flags world)

/-- What a course does to end as it does, to report it and to have its server for its run alone. -/
structure Lifecycle (course : Course Access) : Prop where
  fails_iff : course.exit = .status 1 ↔ ∃ message failure, FailsWith flags world message failure
  reports : ∀ message failure, FailsWith flags world message failure →
    course.criticals =
      [{ level := .critical, logger := "kubeip", message := "kubeip agent failed: " ++ message
         fields := [("version", .text (CommandLine.version world.environment))], failure }]
  /-- The line of the report stands at the end of the log. -/
  shows : ∀ message failure, FailsWith flags world message failure →
    ∀ (origin : Log.Origin) (moment : String), Time.stamp origin.moment = .ok moment →
      (Datum.int origin.line).isWritable = true →
      ∃ format earlier line,
        Log.Format.line format none
          { logger := "kubeip", level := 50, origin
            template := "kubeip agent failed: " ++ message
            fields := [("version", .text (CommandLine.version world.environment))], failure } =
          .ok line ∧
        course.log origin = earlier ++ (line ++ "\n")
  silent : course.exit ≠ .status 1 → course.criticals = []
  returns_iff : course.exit = .status 0 ↔
    ∃ settings node, Starts flags world settings ∧
      (agentRun settings world).ending = .stopped node
  escapes_iff : ∀ settings kind, Starts flags world settings →
    (course.exit = .escaped kind ↔ (agentRun settings world).ending.unblamed? = some kind)
  runs_iff : ∀ run, course.run = some run ↔
    ∃ settings, Starts flags world settings ∧ run = agentRun settings world
  idle : (∀ settings, ¬ Starts flags world settings) → course.acts = []
  bare : ∀ settings, Starts flags world settings → settings.healthPort = 0 →
    course.acts = [.run]
  served : ∀ settings, Starts flags world settings → settings.healthPort ≠ 0 →
    course.acts = [.listen settings.healthPort, .run, .shutdown, .close]
  tells : ∀ settings waiting, Starts flags world settings → settings.healthPort ≠ 0 →
    (agentRun settings world).waiting = some waiting →
      (servedState waiting).ready = true ∧
        course.replies = (answerAll world.scraper (servedState waiting) world.requests).1

/-- Whatever its flags and its world, a service fails in one of three ways and reports it once, and
its server lives around its run and no longer. -/
theorem serve_lives : Lifecycle flags world (serve flags world) where
  fails_iff := ⟨fails_of_status_one, fun ⟨_, _, fails⟩ => fails.exit_and_report.1⟩
  reports := fun _ _ fails => fails.exit_and_report.2.criticals
  shows := by
    intro message failure fails origin moment hmoment horigin
    exact fails.exit_and_report.2.shows fun format =>
      exists_failedLine format world.environment message failure hmoment horigin
  silent := serve_silent
  returns_iff := serve_returns_iff
  escapes_iff := by
    intro settings kind starts
    rw [starts.exit]
    exact exit_escapes_iff
  runs_iff := serve_runs_iff
  idle := serve_idle
  bare := fun _ starts => starts.acts_bare
  served := fun _ starts => starts.acts_served
  tells := fun _ _ starts port => starts.tells port

end

/-- A pod whose node the cluster does not have. -/
def lostWorld : World Rehearsal.Access where
  toWorld := { Agent.podWorld with api :=
    { Agent.podWorld.api with read := fun _ => .error (.api (some 404) (some "Not Found")) } }
  scraper := Rehearsal.scraper

def lostFlags : Flags :=
  { nodeName := .text "n", logLevel := .text "fatal", healthPort := .int 8080 }

def lostSettings : Settings := { nodeName := "n", logLevel := "fatal", healthPort := 8080 }

/-- A service that does not find its node says so though it logs nothing less grave, and closes the
server that it listened by. -/
theorem serve_lives_lost :
    Starts lostFlags lostWorld lostSettings ∧
      (serve lostFlags lostWorld).exit = .status 1 ∧
      (serve lostFlags lostWorld).criticals.map Log.Event.message =
        ["kubeip agent failed: getting node: node 'n' not found"] ∧
      (serve lostFlags lostWorld).acts = [.listen 8080, .run, .shutdown, .close] := by
  have starts : Starts lostFlags lostWorld lostSettings := ⟨by rfl, fun _ => rfl⟩
  have failed : (agentRun lostSettings lostWorld).ending =
      .failed (.lookup (.notFound "n" (.api (some 404) (some "Not Found")))) := by
    have granted : Agent.accessed lostSettings lostWorld.toWorld (fieldsOf lostWorld.environment) =
        .ok Agent.podAccess := Agent.pod_grants rfl rfl rfl _
    rw [agentRun, Agent.run_of_granted _ granted rfl, Agent.lookUp_ending]
    rfl
  have fails := FailsWith.agent starts failed
  have lives := serve_lives lostFlags lostWorld
  refine ⟨starts, lives.fails_iff.mpr ⟨_, _, fails⟩, ?_, lives.served _ starts (by decide)⟩
  rw [lives.reports _ _ fails]
  rfl

end Service

end NodeAgent
