import NodeAgent.Service
/-!
What the actions of a service come to. An action takes its progress further; what breaks it off is
handled or goes on, and the finalizer of an action is done whatever the action ends with.

Main results:
* `run_bind`, `run_tryCatch`, `run_tryFinally`: actions in a row, with a handler, with a finalizer.
* `runAgent_run`, `supervise_run`: the run of an agent, and what is done around it.
* `listen_run`: the start of a server.
-/

namespace NodeAgent.Service

variable {Access α β : Type}

/-! ## Laws -/

theorem run_pure (value : α) (progress : Progress Access) :
    (pure value : Action Access α).run progress = (.ok value, progress) := rfl

theorem run_throw (raised : Raised) (progress : Progress Access) :
    (throw raised : Action Access α).run progress = (.error raised, progress) := rfl

theorem run_get (progress : Progress Access) :
    (get : Action Access (Progress Access)).run progress = (.ok progress, progress) := rfl

theorem run_modify (change : Progress Access → Progress Access) (progress : Progress Access) :
    (modify change : Action Access Unit).run progress = (.ok (), change progress) := rfl

theorem run_bind (first : Action Access α) (next : α → Action Access β)
    (progress : Progress Access) :
    (first >>= next).run progress =
      match first.run progress with
      | (.ok value, after) => (next value).run after
      | (.error raised, after) => (.error raised, after) := by
  have hstep : (first >>= next).run progress =
      (ExceptT.bindCont next (first.run progress).1) (first.run progress).2 := rfl
  rw [hstep]
  rcases first.run progress with ⟨_ | _, after⟩ <;> rfl

theorem run_tryCatch (body : Action Access α) (handler : Raised → Action Access α)
    (progress : Progress Access) :
    (tryCatch body handler).run progress =
      match body.run progress with
      | (.ok value, after) => (.ok value, after)
      | (.error raised, after) => (handler raised).run after := by
  simp only [tryCatch, tryCatchThe, MonadExceptOf.tryCatch, ExceptT.tryCatch, ExceptT.run,
    ExceptT.mk, bind, StateT.bind]
  rcases body progress with ⟨_ | _, after⟩ <;> rfl

/-- The finalizer is done after the body, however the body ends; the end is that of the body, unless
the finalizer is broken off. -/
theorem run_tryFinally (body : Action Access α) (finalizer : Action Access β)
    (progress : Progress Access) :
    (tryFinally body finalizer).run progress =
      match body.run progress with
      | (outcome, after) =>
        match finalizer.run after with
        | (.ok _, last) => (outcome, last)
        | (.error raised, last) => (.error raised, last) := by
  cases hbody : body.run progress with
  | mk outcome after =>
    cases hfinal : finalizer.run after with
    | mk final last =>
      simp only [tryFinally, tryFinally', Functor.map, ExceptT.run, ExceptT.map, ExceptT.mk, bind,
        StateT.bind] at hbody hfinal ⊢
      cases outcome <;> cases final <;> simp only [hbody, hfinal] <;> rfl

/-! ## Actions -/

theorem setLogging_run (logging : Log.Level × Log.Format) (progress : Progress Access) :
    (setLogging logging).run progress = (.ok (), { progress with logging := some logging }) := rfl

theorem log_run (event : Log.Event) (progress : Progress Access) :
    (log event).run progress =
      (.ok (), { progress with events := progress.events ++ [event] }) := rfl

theorem act_run (done : Act) (progress : Progress Access) :
    (act done).run progress = (.ok (), { progress with acts := progress.acts ++ [done] }) := rfl

/-- What is done to close a server. -/
def closingOf : Option Int → List Act
  | some _ => [.shutdown, .close]
  | none => []

/-- A progress with acts done after it. -/
def Progress.done (progress : Progress Access) (acts : List Act) : Progress Access :=
  { progress with acts := progress.acts ++ acts }

theorem closeServer_run (server : Option Int) (progress : Progress Access) :
    (closeServer server).run progress = (.ok (), progress.done (closingOf server)) := by
  cases server with
  | none => simp [closeServer, run_pure, Progress.done, closingOf]
  | some port => simp [closeServer, run_bind, act_run, Progress.done, closingOf]

/-- What a run of the agent ends with for the service. -/
def raisedBy : Agent.Ending → Except Raised Unit
  | .stopped _ => .ok ()
  | .failed fault => .error (.agent fault)
  | .interrupted => .error (.other .interrupt)
  | .escaped kind => .error (.other kind)

/-- A progress after a run of the agent. -/
def Progress.ran (progress : Progress Access) (world : World Access) (server : Option Int)
    (run : Agent.Run Access) : Progress Access :=
  { progress with
    acts := progress.acts ++ [.run]
    events := progress.events ++ run.before ++ waitEvents world server run ++ run.after
    run := some run, replies := (answered world server run).1, metrics := run.shown.metrics }

theorem runAgent_run (settings : Settings) (world : World Access) (server : Option Int)
    (progress : Progress Access) :
    (runAgent settings world server).run progress =
      let run := Agent.run settings world.toWorld (fieldsOf world.environment)
        { flag := some false, metrics := progress.metrics }
      (raisedBy run.ending, progress.ran world server run) := by
  dsimp only
  generalize hrun : Agent.run settings world.toWorld (fieldsOf world.environment)
    { flag := some false, metrics := progress.metrics } = run
  simp only [runAgent, run_bind, run_get, act_run, run_modify, hrun]
  cases run.ending with
  | stopped node => rfl
  | failed fault => rfl
  | interrupted => rfl
  | escaped kind => rfl

/-- The status that a service has after a run of its agent, or what goes on from there, and what is
logged of it. -/
def settledBy (environment : Environment) : Agent.Ending → Except Raised Nat × List Log.Event
  | .stopped _ => (.ok 0, [])
  | .failed fault => (.ok 1, [failedEvent environment fault.message (some fault.failure)])
  | .interrupted => (.error (.other .interrupt), [])
  | .escaped kind => (.error (.other kind), [])

/-- The server is closed after the run, whatever the run ends with. -/
theorem supervise_run (settings : Settings) (world : World Access) (server : Option Int)
    (progress : Progress Access) :
    (supervise settings world server).run progress =
      let run := Agent.run settings world.toWorld (fieldsOf world.environment)
        { flag := some false, metrics := progress.metrics }
      let settled := settledBy world.environment run.ending
      let ran := progress.ran world server run
      (settled.1, { ran with events := ran.events ++ settled.2 }.done (closingOf server)) := by
  dsimp only
  generalize hrun : Agent.run settings world.toWorld (fieldsOf world.environment)
    { flag := some false, metrics := progress.metrics } = run
  simp only [supervise, run_tryFinally, run_tryCatch, run_bind, runAgent_run, hrun]
  cases run.ending with
  | stopped node => simp [raisedBy, settledBy, run_pure, closeServer_run]
  | failed fault => simp only [raisedBy, settledBy, run_bind, log_run, run_pure, closeServer_run]
  | interrupted => simp [raisedBy, settledBy, run_throw, closeServer_run]
  | escaped kind => simp [raisedBy, settledBy, run_throw, closeServer_run]

/-! ## The start of a server -/

section

variable {settings : Settings} {world : World Access}

/-- A progress after a server was started, if one is asked for. -/
def Progress.listening (progress : Progress Access) : Option Int → Progress Access
  | none => progress
  | some port =>
    { progress with
      acts := progress.acts ++ [.listen port]
      events := progress.events ++ [Health.startEvent port] }

theorem listen_of_bound (bound : settings.healthPort ≠ 0 → world.bindFault = none)
    (progress : Progress Access) :
    (listen settings world).run progress = (.ok true, progress.listening (portOf settings)) := by
  unfold listen portOf
  by_cases hport : settings.healthPort = 0
  · rw [if_pos hport, if_pos hport, run_pure]
    rfl
  · rw [if_neg hport, if_neg hport]
    simp only [run_tryCatch, run_bind, startServer, bound hport, act_run, log_run, run_pure]
    rfl

/-- A fault of the system keeps the service from going on, and is logged. -/
theorem listen_of_refused (port : settings.healthPort ≠ 0) {fault : Node.CallFault}
    (unbound : world.bindFault = some fault) (system : isOfSystem fault = true)
    (progress : Progress Access) :
    (listen settings world).run progress =
      (.ok false, { progress with
        events := progress.events ++
          [failedEvent world.environment ("starting health server: " ++ fault.text) none] }) := by
  unfold listen
  rw [if_neg port]
  simp only [run_tryCatch, run_bind, startServer, unbound, run_throw, system, if_true, log_run,
    run_pure]

/-- Any other fault goes on. -/
theorem listen_of_broken (port : settings.healthPort ≠ 0) {fault : Node.CallFault}
    (unbound : world.bindFault = some fault) (not_system : isOfSystem fault = false)
    (progress : Progress Access) :
    (listen settings world).run progress = (.error (.bind fault), progress) := by
  unfold listen
  rw [if_neg port]
  simp only [run_tryCatch, run_bind, startServer, unbound, run_throw, not_system,
    Bool.false_eq_true, if_false]

end

end NodeAgent.Service
