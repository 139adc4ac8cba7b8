import NodeAgent.Proofs.Agent.Stages
/-!
The retry policy is told of and not followed. A run asks the cluster once at most, whatever comes of
it: how the cluster would answer a second call, or any other one, does not show. Two runs whose
settings differ in their retry policies alone differ in the one record that tells of the policy, and
there in its message alone.

Main results:
* `run_asksOnce`: what a run asks the cluster (`AsksOnce`).
* `run_ignores_retry_policy`: two runs under two policies (`DifferInPolicy`).
-/

namespace NodeAgent

/-- Settings with another retry policy. -/
def Settings.withPolicy (settings : Settings) (attempts : Int) (interval : Duration) : Settings :=
  { settings with retryAttempts := attempts, retryInterval := interval }

namespace Node

/-! ## The one call of a lookup -/

/-- A cluster that answers one call as it does, and any other one as another cluster does. -/
def Api.only (api : Api) (call : Call) (other : Api) : Api where
  read name := if call = .readNode name then api.read name else other.read name
  list selector := if call = .listNodes selector then api.list selector else other.list selector

theorem hostnameSelector_eq (hostname : String) :
    hostnameSelector hostname = "kubernetes.io/hostname=" ++ hostname := by
  have hlabel : hostnameLabel ++ "=" = "kubernetes.io/hostname=" := by decide
  rw [hostnameSelector, hlabel]

theorem lookupCall_eq (nodeName hostname : String) :
    lookupCall nodeName hostname =
      if nodeName = "" then .listNodes (hostnameSelector hostname) else .readNode nodeName := by
  simp only [lookupCall, String.isEmpty_iff]

/-- A lookup hears of a cluster only what it answers to its call. -/
theorem foundNode_only (api other : Api) (nodeName hostname : String) :
    foundNode (api.only (lookupCall nodeName hostname) other) nodeName hostname =
      foundNode api nodeName hostname := by
  unfold foundNode
  rw [lookupCall_eq]
  by_cases h : nodeName = ""
  · simp only [h, if_true, findByHostname, Api.only]
  · simp only [h, if_false, readByName, Api.only, if_true]

theorem lookup_only (api other : Api) (nodeName hostname : String) (developMode : Bool) :
    lookup (api.only (lookupCall nodeName hostname) other) nodeName hostname developMode =
      lookup api nodeName hostname developMode := by
  rw [lookup_eq, lookup_eq, foundNode_only]

end Node

namespace Agent

/-! ## Records of the policy -/

/-- Whether an event tells of a retry policy. -/
def TellsPolicy (event : Log.Event) : Prop := "retry policy: ".toList <+: event.message.toList

theorem policyEvent_tells (settings : Settings) (fields : Log.Fields) :
    TellsPolicy (policyEvent settings fields) := by
  simp [TellsPolicy, policyEvent, event]

theorem startedEvent_not_tells (settings : Settings) (fields : Log.Fields) :
    ¬ TellsPolicy (startedEvent settings fields) := by
  simp [TellsPolicy, startedEvent, event]

theorem stoppedEvent_not_tells (fields : Log.Fields) : ¬ TellsPolicy (stoppedEvent fields) := by
  simp [TellsPolicy, stoppedEvent, event]

theorem IsRemark.not_tells {fields : Log.Fields} {event : Log.Event} (h : IsRemark fields event) :
    ¬ TellsPolicy event := by
  cases h with
  | source path =>
    unfold TellsPolicy Kube.sourceEvent Kube.sourceText
    dsimp only
    split <;> simp
  | note h =>
    cases h with
    | byHostname hostname => simp [TellsPolicy, Node.hostnameEvent]
    | accepted name providerId => simp [TellsPolicy, Node.acceptEvent]
    | skipped kind value => simp [TellsPolicy, Node.skipEvent]
  | named node => simp [TellsPolicy, Agent.event]
  | resolved node => simp [TellsPolicy, Agent.event]

/-! ## Behind the record of the policy -/

/-- A run that comes behind what was logged earlier. -/
def Run.behind {Access : Type} (earlier : List Log.Event) (run : Run Access) : Run Access :=
  { run with before := earlier ++ run.before }

section

variable {Access : Type} (settings : Settings) (world : World Access) (fields : Log.Fields)
  (shown : Shown)

/-- What a run does behind its first two records, which tell of its start and of its policy. -/
def stages : Run Access :=
  let sources :=
    (Kube.retrieve world.library world.toSurroundings fields settings.kubeconfigPath).1
  match accessed settings world fields, world.clientFault with
  | .error (.denied fault), _ => { before := sources, shown, ending := .failed (.access fault) }
  | .error failed, _ => { before := sources, shown, ending := .escaped failed.kind }
  | .ok _, some fault => { before := sources, shown, ending := .failed (.client fault) }
  | .ok access, none =>
    lookUp world fields shown sources
      { access, nodeName := settings.nodeName, developMode := settings.developMode }

theorem lookUp_behind (earlier before : List Log.Event) (explorer : Explorer Access) :
    lookUp world fields shown (earlier ++ before) explorer =
      (lookUp world fields shown before explorer).behind earlier := by
  unfold lookUp Run.behind
  obtain ⟨calls, events, (_ | _) | node⟩ := explorer.lookup world
  all_goals simp only [List.append_assoc]

theorem run_eq_behind :
    run settings world fields shown =
      (stages settings world fields shown).behind
        [startedEvent settings fields, policyEvent settings fields] := by
  rw [run_eq]
  unfold stages accessed opening
  obtain ⟨sources, failed | access⟩ :=
    Kube.retrieve world.library world.toSurroundings fields settings.kubeconfigPath
  · cases failed <;> rfl
  · cases world.clientFault with
    | some fault => rfl
    | none =>
      exact lookUp_behind world fields shown
        [startedEvent settings fields, policyEvent settings fields] sources _

/-- No stage looks at the policy. -/
theorem stages_withPolicy (attempts : Int) (interval : Duration) :
    stages (settings.withPolicy attempts interval) world fields shown =
      stages settings world fields shown := rfl

/-- Behind its second record a run tells of no policy. -/
theorem stages_not_tell :
    ∀ event ∈ (stages settings world fields shown).events, ¬ TellsPolicy event := by
  have hcourse := run_course settings world fields shown
  rw [run_eq_behind] at hcourse
  obtain ⟨remarks, hbefore, hremarks⟩ := hcourse.before_eq
  obtain rfl : (stages settings world fields shown).before = remarks :=
    (List.cons.inj (List.cons.inj hbefore).2).2
  refine List.forall_mem_append.mpr ⟨fun event hevent => (hremarks event hevent).not_tells, ?_⟩
  intro event hevent
  rw [hcourse.after_stopped event hevent]
  exact stoppedEvent_not_tells fields

/-! ## Two policies -/

/-- A run asks the cluster once at most: by the name of its node if it is told one, else by the name
of the host. -/
structure AsksOnce : Prop where
  at_most_once : (run settings world fields shown).calls.length ≤ 1
  kind : ∀ call ∈ (run settings world fields shown).calls, call =
    if settings.nodeName = "" then .listNodes ("kubernetes.io/hostname=" ++ world.hostname)
    else .readNode settings.nodeName
  asks_iff : (run settings world fields shown).calls ≠ [] ↔
    (run settings world fields shown).explorer.isSome
  /-- What the cluster would answer to any call but the one does not show. -/
  others_hidden : ∀ other : Node.Api,
    run settings
      { world with
        api := world.api.only (Node.lookupCall settings.nodeName world.hostname) other }
      fields shown = run settings world fields shown

theorem run_only (other : Node.Api) :
    run settings
      { world with
        api := world.api.only (Node.lookupCall settings.nodeName world.hostname) other }
      fields shown = run settings world fields shown := by
  rw [run_eq, run_eq]
  dsimp only [opening]
  split
  · rfl
  · rfl
  · rfl
  · unfold lookUp Explorer.lookup
    dsimp only
    rw [Node.lookup_only]

theorem run_asksOnce : AsksOnce settings world fields shown := by
  have hcalls : (run settings world fields shown).calls =
      if (run settings world fields shown).explorer.isSome then
        [Node.lookupCall settings.nodeName world.hostname] else [] := by
    rw [run_eq]
    split
    · rfl
    · rfl
    · rfl
    · rw [lookUp_calls, lookUp_explorer]
      rfl
  exact
    { at_most_once := by
        rw [hcalls]
        split <;> simp
      kind := by
        rw [hcalls, ← Node.hostnameSelector_eq, ← Node.lookupCall_eq]
        split <;> simp
      asks_iff := by
        rw [hcalls]
        cases (run settings world fields shown).explorer.isSome <;> simp
      others_hidden := run_only settings world fields shown }

/-- Two runs under two retry policies: they log the same but for the message of one record, and are
the same in all else. -/
structure DifferInPolicy (run other : Run Access) : Prop where
  logs : ∃ started policy policy' rest,
    run.before = started :: policy :: rest ∧ other.before = started :: policy' :: rest ∧
      TellsPolicy policy ∧ TellsPolicy policy' ∧ policy.level = .debug ∧
      policy' = { policy with message := policy'.message } ∧
      ∀ event ∈ started :: rest ++ run.after, ¬ TellsPolicy event
  alike : other = { run with before := other.before }

/-- Nothing is tried again, and the retry policy has no part in what a run does but to be told. -/
theorem run_ignores_retry_policy (attempts : Int) (interval : Duration) :
    AsksOnce settings world fields shown ∧
      DifferInPolicy (run settings world fields shown)
        (run (settings.withPolicy attempts interval) world fields shown) := by
  refine ⟨run_asksOnce settings world fields shown, ?_⟩
  rw [run_eq_behind, run_eq_behind, stages_withPolicy]
  have hrest := stages_not_tell settings world fields shown
  generalize stages settings world fields shown = rest at hrest ⊢
  exact
    { logs := ⟨startedEvent settings fields, policyEvent settings fields,
        policyEvent (settings.withPolicy attempts interval) fields, rest.before, rfl, rfl,
        policyEvent_tells _ _, policyEvent_tells _ _, rfl, rfl,
        List.forall_mem_cons.mpr ⟨startedEvent_not_tells settings fields, hrest⟩⟩
      alike := rfl }

end

end Agent

end NodeAgent
