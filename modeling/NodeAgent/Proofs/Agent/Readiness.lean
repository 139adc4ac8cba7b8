import NodeAgent.Agent.Run
import NodeAgent.Proofs.Kube.Sources
import NodeAgent.Proofs.Node.Lookup
/-!
What a run of the agent shows, and when. It counts its lookup once, as a success where a node comes
of it and as an error where the node is not resolved; it waits exactly behind a success, and shows
that it is ready while it waits and at no other time. What it logs begins with its start, and ends
with its stop if it was stopped.

Main results:
* `run_course`: every run takes one of four courses (`Course`), from which the rest follows.
* `run_brackets_wait`: counts, readiness and the first and last record stand around the wait
  (`Bracketed`).
-/

namespace NodeAgent

/-! ## Counting -/

namespace Metrics

/-- One more of an outcome is one more of that one alone. -/
theorem resolutionsOf_countResolution (metrics : Metrics) (outcome other : String) :
    (metrics.countResolution outcome).resolutionsOf other =
      metrics.resolutionsOf other + if other = outcome then 1 else 0 := by
  obtain ⟨build, counts, ready⟩ := metrics
  simp only [countResolution, resolutionsOf]
  induction counts with
  | nil =>
    by_cases h : other = outcome
    · simp [increment, h]
    · simp [increment, h, Ne.symm h]
  | cons count counts ih =>
    unfold increment
    by_cases hcount : count.1 = outcome
    · rw [if_pos hcount]
      by_cases h : other = outcome
      · simp [hcount, h]
      · simp [hcount, h, Ne.symm h]
    · rw [if_neg hcount]
      by_cases h : count.1 = other
      · simp [h, h ▸ hcount]
      · simpa [h] using ih

@[simp] theorem resolutionsOf_withReady (metrics : Metrics) (ready : Bool) (outcome : String) :
    (metrics.withReady ready).resolutionsOf outcome = metrics.resolutionsOf outcome := rfl

end Metrics

/-! ## Kinds of failed lookups -/

/-- The kinds of failures that say that a node is not resolved. -/
def resolutionKinds : List FailureKind := [.nodeResolution, .nodeNotFound]

theorem FailureKind.ofErrno_not_resolution (errno : Int) : ofErrno errno ∉ resolutionKinds := by
  fun_cases ofErrno errno <;> decide

theorem Node.CallFault.kind_not_resolution (fault : CallFault) : fault.kind ∉ resolutionKinds := by
  cases fault with
  | system errno message =>
    cases errno with
    | none => simp [kind, resolutionKinds]
    | some errno => exact FailureKind.ofErrno_not_resolution errno
  | _ => simp [kind, resolutionKinds]

/-- A lookup fails as one that does not resolve its node exactly with a fault of its own. -/
theorem Node.Failed.kind_resolution_iff (failed : Failed) :
    failed.kind ∈ resolutionKinds ↔ ∃ fault, failed = .unresolved fault := by
  constructor
  · intro h
    cases failed with
    | unresolved fault => exact ⟨fault, rfl⟩
    | call fault => exact absurd h fault.kind_not_resolution
    | _ => exact absurd h (by decide)
  · intro h
    obtain ⟨fault, rfl⟩ := h
    have hkind : fault.kind ∈ resolutionKinds := by
      unfold Fault.kind
      split <;> decide
    exact hkind

namespace Agent

/-! ## Events of the way -/

/-- Whether an event is neither a start nor a stop: those begin with the name of the agent. -/
def IsAside (event : Log.Event) : Prop := event.message.toList.head? ≠ some 'k'

theorem IsAside.not_stop {event : Log.Event} (h : IsAside event) :
    event.message ≠ "kubeip agent stopped" := by
  intro hstop
  unfold IsAside at h
  rw [hstop] at h
  exact h (by decide)

/-- What a run logs of its way: where its access comes from, what its lookup notes, and the node that
it comes to. -/
inductive IsRemark (fields : Log.Fields) : Log.Event → Prop
  | source (path : String) : IsRemark fields (Kube.sourceEvent fields (Kube.sourceText path))
  | note {event : Log.Event} (h : Node.IsNote event) : IsRemark fields event
  | named (node : Node.Descriptor) :
      IsRemark fields (event .debug fields ("node name: " ++ node.name))
  | resolved (node : Node.Descriptor) :
      IsRemark fields
        (event .info (fields.overlay (nodeFields node)) ("resolved node " ++ node.name))

theorem IsRemark.aside {fields : Log.Fields} {event : Log.Event} (h : IsRemark fields event) :
    IsAside event := by
  cases h with
  | source path =>
    unfold IsAside Kube.sourceEvent Kube.sourceText
    dsimp only
    split <;> simp
  | note h =>
    cases h with
    | byHostname hostname => simp [IsAside, Node.hostnameEvent]
    | accepted name providerId => simp [IsAside, Node.acceptEvent]
    | skipped kind value => simp [IsAside, Node.skipEvent]
  | named node => simp [IsAside, Agent.event]
  | resolved node => simp [IsAside, Agent.event]

theorem retrieve_remarks {Access : Type} (library : Kube.Library Access)
    (around : Kube.Surroundings) (fields : Log.Fields) (path : String) :
    ∀ event ∈ (Kube.retrieve library around fields path).1, IsRemark fields event := by
  rw [Kube.retrieve_logs]
  split
  · exact List.forall_mem_singleton.mpr (.source path)
  · exact List.forall_mem_nil _

theorem lookup_remarks {Access : Type} (explorer : Explorer Access) (world : World Access)
    (fields : Log.Fields) :
    ∀ event ∈ (explorer.lookup world).events, IsRemark fields event :=
  fun event hevent => .note (Node.lookup_notes _ _ _ _ event hevent)

theorem resolvedEvents_remarks (node : Node.Descriptor) (fields : Log.Fields) :
    ∀ event ∈ resolvedEvents node fields, IsRemark fields event :=
  List.forall_mem_cons.mpr ⟨.named node, List.forall_mem_singleton.mpr (.resolved node)⟩

/-! ## The course of a run -/

section

variable {Access : Type} (settings : Settings) (world : World Access) (fields : Log.Fields)
  (shown : Shown)

/-- What a run logs before it looks up its node. -/
def opening : List Log.Event :=
  startedEvent settings fields :: policyEvent settings fields ::
    (Kube.retrieve world.library world.toSurroundings fields settings.kubeconfigPath).1

/-- What looks up the node: there is nothing to do so without access or a client. -/
def explorer? : Option (Explorer Access) :=
  match (Kube.retrieve world.library world.toSurroundings fields settings.kubeconfigPath).2,
      world.clientFault with
  | .ok access, none =>
    some { access, nodeName := settings.nodeName, developMode := settings.developMode }
  | _, _ => none

/-- What comes of the lookup of a run, if it comes to one. -/
def lookedUp : Option (Except Node.Failed Node.Descriptor) :=
  (explorer? settings world fields).map fun explorer => (explorer.lookup world).outcome

/-- The courses of a run: it comes to no lookup, its node is not resolved, the lookup ends in a
failure that it is not blamed for, or it waits. -/
inductive Course : Run Access → Prop
  | unasked {ending : Ending} (none_asked : explorer? settings world fields = none)
    (not_stopped : ∀ node, ending ≠ .stopped node) :
    Course { before := opening settings world fields, shown, ending }
  | unresolved {explorer : Explorer Access} {fault : Node.Fault}
    (asked : explorer? settings world fields = some explorer)
    (outcome : (explorer.lookup world).outcome = .error (.unresolved fault)) :
    Course
      { before := opening settings world fields ++ (explorer.lookup world).events
        calls := (explorer.lookup world).calls, explorer
        shown := shown.countResolution errorOutcome, ending := .failed (.lookup fault) }
  | escaped {explorer : Explorer Access} {failed : Node.Failed}
    (asked : explorer? settings world fields = some explorer)
    (outcome : (explorer.lookup world).outcome = .error failed)
    (not_blamed : ∀ fault, failed ≠ .unresolved fault) :
    Course
      { before := opening settings world fields ++ (explorer.lookup world).events
        calls := (explorer.lookup world).calls, explorer, shown, ending := .escaped failed.kind }
  | waited {explorer : Explorer Access} {node : Node.Descriptor}
    (asked : explorer? settings world fields = some explorer)
    (outcome : (explorer.lookup world).outcome = .ok node) :
    Course
      { before := opening settings world fields ++ (explorer.lookup world).events ++
          resolvedEvents node fields
        after := if world.interrupted then [] else [stoppedEvent fields]
        calls := (explorer.lookup world).calls, explorer
        waiting := (shown.countResolution successOutcome).withReady true
        shown := ((shown.countResolution successOutcome).withReady true).withReady false
        ending := if world.interrupted then .interrupted else .stopped node }

theorem lookUp_course {explorer : Explorer Access}
    (asked : explorer? settings world fields = some explorer) :
    Course settings world fields shown
      (lookUp world fields shown (opening settings world fields) explorer) := by
  unfold lookUp
  dsimp only
  split
  · rename_i fault outcome
    exact .unresolved asked outcome
  · rename_i failed not_blamed outcome
    exact .escaped asked outcome not_blamed
  · rename_i node outcome
    exact .waited asked outcome

/-- A run goes from stage to stage, and ends with the first one that fails. -/
theorem run_eq :
    run settings world fields shown =
      match (Kube.retrieve world.library world.toSurroundings fields settings.kubeconfigPath).2,
        world.clientFault with
      | .error (.denied fault), _ =>
        { before := opening settings world fields, shown, ending := .failed (.access fault) }
      | .error failed, _ =>
        { before := opening settings world fields, shown, ending := .escaped failed.kind }
      | .ok _, some fault =>
        { before := opening settings world fields, shown, ending := .failed (.client fault) }
      | .ok access, none =>
        lookUp world fields shown (opening settings world fields)
          { access, nodeName := settings.nodeName, developMode := settings.developMode } := by
  unfold run opening
  obtain ⟨sources, (_ | _) | access⟩ :=
    Kube.retrieve world.library world.toSurroundings fields settings.kubeconfigPath
  all_goals cases world.clientFault <;> rfl

theorem run_course : Course settings world fields shown (run settings world fields shown) := by
  rw [run_eq]
  split
  · rename_i hdenied
    exact .unasked (by rw [explorer?, hdenied]) nofun
  · rename_i hfailed
    exact .unasked (by rw [explorer?, hfailed]) nofun
  · rename_i hgranted hclient
    exact .unasked (by rw [explorer?, hgranted, hclient]) nofun
  · rename_i hgranted hclient
    exact lookUp_course settings world fields shown (by rw [explorer?, hgranted, hclient])

/-! ## What a course shows -/

/-- The outcome under which a lookup is counted, if it is. -/
def countedAs : Except Node.Failed Node.Descriptor → Option String
  | .ok _ => some successOutcome
  | .error (.unresolved _) => some errorOutcome
  | .error _ => none

/-- The outcome that a run counts. -/
def counted : Option String := (lookedUp settings world fields).bind countedAs

variable {settings world fields shown}

theorem lookedUp_of_unasked (none_asked : explorer? settings world fields = none) :
    lookedUp settings world fields = none := by
  rw [lookedUp, none_asked]
  rfl

theorem lookedUp_of_asked {explorer : Explorer Access}
    (asked : explorer? settings world fields = some explorer)
    {found : Except Node.Failed Node.Descriptor}
    (outcome : (explorer.lookup world).outcome = found) :
    lookedUp settings world fields = some found := by
  rw [lookedUp, asked, Option.map_some, outcome]

theorem counted_of_asked {explorer : Explorer Access}
    (asked : explorer? settings world fields = some explorer)
    {found : Except Node.Failed Node.Descriptor}
    (outcome : (explorer.lookup world).outcome = found) :
    counted settings world fields = countedAs found := by
  rw [counted, lookedUp_of_asked asked outcome, Option.bind_some]

theorem countedAs_of_not_blamed {failed : Node.Failed}
    (not_blamed : ∀ fault, failed ≠ .unresolved fault) : countedAs (.error failed) = none := by
  cases failed with
  | unresolved fault => exact absurd rfl (not_blamed fault)
  | _ => rfl

theorem countedAs_eq_success_iff {found : Except Node.Failed Node.Descriptor} :
    countedAs found = some successOutcome ↔ ∃ node, found = .ok node := by
  rcases found with (_ | _) | node <;> simp [countedAs, successOutcome, errorOutcome]

theorem counted_success_iff :
    counted settings world fields = some successOutcome ↔
      ∃ node, lookedUp settings world fields = some (.ok node) := by
  unfold counted
  cases lookedUp settings world fields with
  | none => simp
  | some found => simpa using countedAs_eq_success_iff

theorem countedAs_eq_error_iff {found : Except Node.Failed Node.Descriptor} :
    countedAs found = some errorOutcome ↔
      ∃ failed, found = .error failed ∧ failed.kind ∈ resolutionKinds := by
  simp only [Node.Failed.kind_resolution_iff]
  rcases found with (_ | _) | node <;> simp [countedAs, successOutcome, errorOutcome]

theorem counted_error_iff :
    counted settings world fields = some errorOutcome ↔
      ∃ failed, lookedUp settings world fields = some (.error failed) ∧
        failed.kind ∈ resolutionKinds := by
  unfold counted
  cases lookedUp settings world fields with
  | none => simp
  | some found => simpa using countedAs_eq_error_iff

/-- Whether others are told that the agent is not ready. -/
structure Shown.IsIdle (shown : Shown) : Prop where
  flag : shown.flag ≠ some true
  gauge : shown.metrics.ready = .ofInt 0

/-- Whether others are told that the agent is ready, by the flag if there is one. -/
structure Shown.IsReady (shown : Shown) : Prop where
  flag : shown.flag ≠ some false
  gauge : shown.metrics.ready = .ofInt 1

theorem Shown.withReady_true_isReady (shown : Shown) : (shown.withReady true).IsReady where
  flag := by cases h : shown.flag <;> simp [Shown.withReady, h]
  gauge := rfl

theorem Shown.withReady_false_isIdle (shown : Shown) : (shown.withReady false).IsIdle where
  flag := by cases h : shown.flag <;> simp [Shown.withReady, h]
  gauge := rfl

@[simp] theorem Shown.withReady_flag_isSome (shown : Shown) (ready : Bool) :
    (shown.withReady ready).flag.isSome = shown.flag.isSome := by
  simp [Shown.withReady]

@[simp] theorem Shown.countResolution_flag (shown : Shown) (outcome : String) :
    (shown.countResolution outcome).flag = shown.flag := rfl

namespace Course

variable {run : Run Access} (course : Course settings world fields shown run)
include course

theorem explorer : run.explorer = explorer? settings world fields := by
  cases course with
  | unasked none_asked => exact none_asked.symm
  | unresolved asked => exact asked.symm
  | escaped asked => exact asked.symm
  | waited asked => exact asked.symm

/-- The outcome of the lookup is counted once, and no other one is. -/
theorem counts (outcome : String) :
    run.shown.metrics.resolutionsOf outcome =
      shown.metrics.resolutionsOf outcome +
        if counted settings world fields = some outcome then 1 else 0 := by
  cases course with
  | unasked none_asked => simp [counted, lookedUp_of_unasked none_asked]
  | unresolved asked found =>
    rw [counted_of_asked asked found]
    simp [countedAs, Shown.countResolution, Metrics.resolutionsOf_countResolution, eq_comm]
  | escaped asked found not_blamed =>
    rw [counted_of_asked asked found, countedAs_of_not_blamed not_blamed]
    simp
  | waited asked found =>
    rw [counted_of_asked asked found]
    simp [countedAs, Shown.countResolution, Shown.withReady,
      Metrics.resolutionsOf_countResolution, eq_comm]

/-- A count rises exactly where its outcome is the one of the lookup. -/
theorem rises_iff (outcome : String) :
    run.shown.metrics.resolutionsOf outcome = shown.metrics.resolutionsOf outcome + 1 ↔
      counted settings world fields = some outcome := by
  rw [course.counts]
  simp

theorem rises_alone (outcome : String) :
    run.shown.metrics.resolutionsOf outcome = shown.metrics.resolutionsOf outcome ∨
      run.shown.metrics.resolutionsOf outcome = shown.metrics.resolutionsOf outcome + 1 ∧
        ∀ other, other ≠ outcome →
          run.shown.metrics.resolutionsOf other = shown.metrics.resolutionsOf other := by
  simp only [course.counts]
  by_cases h : counted settings world fields = some outcome
  · refine .inr ⟨by rw [if_pos h], ?_⟩
    intro other hne
    rw [if_neg (by rw [h]; simpa using hne.symm)]
    rfl
  · refine .inl ?_
    rw [if_neg h]
    rfl

theorem waits_iff :
    run.waiting.isSome = true ↔ counted settings world fields = some successOutcome := by
  cases course with
  | unasked none_asked => simp [counted, lookedUp_of_unasked none_asked]
  | unresolved asked found =>
    simp [counted_of_asked asked found, countedAs, successOutcome, errorOutcome]
  | escaped asked found not_blamed =>
    simp [counted_of_asked asked found, countedAs_of_not_blamed not_blamed]
  | waited asked found => simp [counted_of_asked asked found, countedAs]

theorem ready_while_waiting {waiting : Shown} (h : run.waiting = some waiting) :
    waiting.IsReady ∧ waiting.flag.isSome = shown.flag.isSome := by
  cases course with
  | unasked => simp at h
  | unresolved => simp at h
  | escaped => simp at h
  | waited =>
    rw [← Option.some.inj h]
    exact ⟨Shown.withReady_true_isReady _, by simp⟩

theorem idle_after (hidle : shown.IsIdle) :
    run.shown.IsIdle ∧ run.shown.flag.isSome = shown.flag.isSome := by
  cases course with
  | unasked => exact ⟨hidle, rfl⟩
  | unresolved => exact ⟨⟨hidle.flag, hidle.gauge⟩, rfl⟩
  | escaped => exact ⟨hidle, rfl⟩
  | waited => exact ⟨Shown.withReady_false_isIdle _, by simp⟩

theorem starts : run.events.head? = some (startedEvent settings fields) := by
  cases course <;> rfl

/-- Up to its wait a run logs its start, its policy, and remarks. -/
theorem before_eq :
    ∃ remarks, run.before = startedEvent settings fields :: policyEvent settings fields :: remarks ∧
      ∀ event ∈ remarks, IsRemark fields event := by
  have hsources :=
    retrieve_remarks world.library world.toSurroundings fields settings.kubeconfigPath
  have hlookup := fun explorer =>
    List.forall_mem_append.mpr ⟨hsources, lookup_remarks explorer world fields⟩
  cases course with
  | unasked => exact ⟨_, rfl, hsources⟩
  | @unresolved explorer => exact ⟨_, rfl, hlookup explorer⟩
  | @escaped explorer => exact ⟨_, rfl, hlookup explorer⟩
  | @waited explorer node =>
    exact ⟨_, rfl, List.forall_mem_append.mpr
      ⟨hlookup explorer, resolvedEvents_remarks node fields⟩⟩

/-- Behind its wait a run logs its stop at most. -/
theorem after_stopped : ∀ event ∈ run.after, event = stoppedEvent fields := by
  cases course with
  | waited =>
    dsimp only
    split
    · exact List.forall_mem_nil _
    · exact List.forall_mem_singleton.mpr rfl
  | _ => exact List.forall_mem_nil _

/-- Up to its wait a run logs no stop. -/
theorem before_not_stop : ∀ event ∈ run.before, event.message ≠ "kubeip agent stopped" := by
  obtain ⟨remarks, hbefore, hremarks⟩ := course.before_eq
  have hstarted : (startedEvent settings fields).message ≠ "kubeip agent stopped" := by
    simp [startedEvent, event]
  have hpolicy : IsAside (policyEvent settings fields) := by simp [IsAside, policyEvent, event]
  rw [hbefore]
  exact List.forall_mem_cons.mpr ⟨hstarted, List.forall_mem_cons.mpr
    ⟨hpolicy.not_stop, fun event hevent => (hremarks event hevent).aside.not_stop⟩⟩

theorem returns_iff (node : Node.Descriptor) :
    run.ending = .stopped node ↔
      lookedUp settings world fields = some (.ok node) ∧ world.interrupted = false := by
  cases course with
  | unasked none_asked not_stopped => simp [lookedUp_of_unasked none_asked, not_stopped]
  | unresolved asked found => simp [lookedUp_of_asked asked found]
  | escaped asked found => simp [lookedUp_of_asked asked found]
  | waited asked found =>
    rw [lookedUp_of_asked asked found]
    cases world.interrupted <;> simp

theorem after_of_stopped {node : Node.Descriptor} (h : run.ending = .stopped node) :
    run.after = [stoppedEvent fields] := by
  have hreturned := ((course.returns_iff node).mp h).2
  cases course with
  | unasked none_asked not_stopped => exact absurd h (not_stopped node)
  | unresolved => simp at h
  | escaped => simp at h
  | waited => simp [hreturned]

theorem after_of_not_stopped (h : ∀ node, run.ending ≠ .stopped node) : run.after = [] := by
  cases course with
  | waited =>
    cases hinterrupted : world.interrupted with
    | true => rfl
    | false => simp [hinterrupted] at h
  | _ => rfl

theorem stops_iff :
    (∃ event ∈ run.events, event.message = "kubeip agent stopped") ↔
      ∃ node, run.ending = .stopped node := by
  constructor
  · intro h
    obtain ⟨event, hevent, hmessage⟩ := h
    apply Classical.byContradiction
    intro hreturned
    rw [Run.events, course.after_of_not_stopped (not_exists.mp hreturned),
      List.append_nil] at hevent
    exact course.before_not_stop event hevent hmessage
  · intro h
    obtain ⟨node, hnode⟩ := h
    refine ⟨stoppedEvent fields, ?_, rfl⟩
    rw [Run.events, course.after_of_stopped hnode]
    exact List.mem_append_right _ List.mem_cons_self

theorem stops_last {node : Node.Descriptor} (h : run.ending = .stopped node) :
    ∃ earlier, run.events = earlier ++ [stoppedEvent fields] ∧
      ∀ event ∈ earlier, event.message ≠ "kubeip agent stopped" := by
  refine ⟨run.before, ?_, course.before_not_stop⟩
  rw [Run.events, course.after_of_stopped h]

end Course

/-! ## Readiness -/

variable (settings world fields shown)

/-- Counts, readiness and the first and the last record of a run stand around its wait. -/
structure Bracketed (run : Run Access) : Prop where
  explorer : run.explorer = explorer? settings world fields
  success_iff : run.shown.metrics.resolutionsOf "success" =
      shown.metrics.resolutionsOf "success" + 1 ↔
    ∃ node, lookedUp settings world fields = some (.ok node)
  error_iff : run.shown.metrics.resolutionsOf "error" =
      shown.metrics.resolutionsOf "error" + 1 ↔
    ∃ failed, lookedUp settings world fields = some (.error failed) ∧
      failed.kind ∈ resolutionKinds
  /-- A count stays, or it rises by one and all others stay. -/
  rises_alone : ∀ outcome,
    run.shown.metrics.resolutionsOf outcome = shown.metrics.resolutionsOf outcome ∨
      run.shown.metrics.resolutionsOf outcome = shown.metrics.resolutionsOf outcome + 1 ∧
        ∀ other, other ≠ outcome →
          run.shown.metrics.resolutionsOf other = shown.metrics.resolutionsOf other
  waits_iff : run.waiting.isSome = true ↔
    run.shown.metrics.resolutionsOf "success" = shown.metrics.resolutionsOf "success" + 1
  ready_while_waiting : ∀ waiting, run.waiting = some waiting →
    waiting.IsReady ∧ waiting.flag.isSome = shown.flag.isSome
  idle_after : shown.IsIdle → run.shown.IsIdle ∧ run.shown.flag.isSome = shown.flag.isSome
  /-- The first record, which bears the mode of development beside the fields of the logger. -/
  starts : run.events.head? =
    some
      { level := .info, logger := "kubeip", message := "kubeip agent started"
        fields := fields.overlay [("develop-mode", .bool settings.developMode)] }
  returns_iff : ∀ node, run.ending = .stopped node ↔
    lookedUp settings world fields = some (.ok node) ∧ world.interrupted = false
  stops_iff : (∃ event ∈ run.events, event.message = "kubeip agent stopped") ↔
    ∃ node, run.ending = .stopped node
  stops_last : ∀ node, run.ending = .stopped node →
    ∃ earlier,
      run.events = earlier ++
        [{ level := .info, logger := "kubeip", message := "kubeip agent stopped", fields }] ∧
      ∀ event ∈ earlier, event.message ≠ "kubeip agent stopped"

/-- Whatever surrounds it, a run counts its lookup once, is ready while it waits and at no other
time, and logs its start first and its stop last. -/
theorem run_brackets_wait :
    Bracketed settings world fields shown (run settings world fields shown) := by
  have course := run_course settings world fields shown
  exact
    { explorer := course.explorer
      success_iff := (course.rises_iff _).trans counted_success_iff
      error_iff := (course.rises_iff _).trans counted_error_iff
      rises_alone := course.rises_alone
      waits_iff := course.waits_iff.trans (course.rises_iff _).symm
      ready_while_waiting := fun _ => course.ready_while_waiting
      idle_after := course.idle_after
      starts := course.starts
      returns_iff := course.returns_iff
      stops_iff := course.stops_iff
      stops_last := fun _ => course.stops_last }

end

/-- What surrounds a pod with a mount. -/
def podSurroundings : Kube.Surroundings where
  files :=
    { rooted :=
        [("var/run/secrets/kubernetes.io/serviceaccount/token", .file "token".toUTF8),
          ("var/run/secrets/kubernetes.io/serviceaccount/ca.crt", .file "authority".toUTF8)] }
  environment name :=
    if name = "KUBERNETES_SERVICE_HOST" then some "h"
    else if name = "KUBERNETES_SERVICE_PORT" then some "1"
    else none

/-- What is mounted into that pod. -/
def podAccess : Rehearsal.Access :=
  { host := "https://h:1", token := some "bearer token", authority := some "authority".toUTF8 }

/-- In that pod, an agent without a kubeconfig gets what is mounted. -/
theorem pod_grants {settings : Settings} {world : World Rehearsal.Access}
    (hpath : settings.kubeconfigPath = "") (hlibrary : world.library = Rehearsal.library {})
    (hpod : world.toSurroundings = podSurroundings) (fields : Log.Fields) :
    (Kube.retrieve world.library world.toSurroundings fields settings.kubeconfigPath).2 =
      .ok podAccess := by
  rw [hpath, hlibrary, hpod, Kube.retrieve_outcome, Kube.asked_mount]
  rfl

/-- A pod with a mount, whose node stands in a cloud. -/
def podWorld : World Rehearsal.Access where
  toSurroundings := podSurroundings
  library := Rehearsal.library {}
  hostname := "h"
  api :=
    { read := fun _ => .ok
        { metadata := .is { name := .is "n" }, spec := .is { providerId := .is "aws:///x/i-1" } }
      list := fun _ => .ok none }

def podNode : Node.Descriptor :=
  { name := "n", instanceId := "i-1", cloud := some .aws, providerId := "aws:///x/i-1" }

/-- An agent in such a pod that has a flag gets to its wait, and is idle again when it is stopped. -/
theorem run_brackets_wait_pod :
    lookedUp { nodeName := "n" } podWorld [] = some (.ok podNode) ∧
      (run { nodeName := "n" } podWorld [] { flag := some false }).waiting.isSome = true ∧
      (run { nodeName := "n" } podWorld [] { flag := some false }).shown.IsIdle ∧
      (run { nodeName := "n" } podWorld [] { flag := some false }).ending = .stopped podNode := by
  have hlookedUp : lookedUp { nodeName := "n" } podWorld [] = some (.ok podNode) := by
    rw [lookedUp, explorer?, pod_grants rfl rfl rfl]
    rfl
  have hidle : Shown.IsIdle { flag := some false } := ⟨by decide, by decide⟩
  have brackets := run_brackets_wait { nodeName := "n" } podWorld [] { flag := some false }
  refine ⟨hlookedUp, ?_, (brackets.idle_after hidle).1, ?_⟩
  · exact brackets.waits_iff.mpr (brackets.success_iff.mpr ⟨podNode, hlookedUp⟩)
  · exact (brackets.returns_iff podNode).mpr ⟨hlookedUp, rfl⟩

end Agent

end NodeAgent
