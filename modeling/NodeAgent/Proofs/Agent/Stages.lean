import NodeAgent.Proofs.Agent.Readiness
/-!
The stages of a run stand in order: access to the cluster, a client, the lookup. A run that fails in
a stage fails with what the stage itself fails with: its failure names the stage, and what failed
there is the nearest cause of it. The first stage that fails hides those behind it: they are not
come to, and nothing shows what would have become of them.

Main results:
* `run_fails_in_first_stage`: a run fails exactly as one of `FailsAtAccess`, `FailsAtClient` and
  `FailsAtLookup`, and never as two of them.
* `failsAtAccess_iff`, `failsAtClient_iff`, `failsAtLookup_iff`: what makes a run fail in a stage.
-/

namespace NodeAgent

/-! ## Failures of stages -/

namespace Kube

/-- The kinds of failures that a denied access is reported as. -/
def deniedKinds : List FailureKind := [.kubeConfigRead, .kubeConfigParse, .inCluster]

theorem retrieve_denied_kind {Access : Type} {library : Library Access} {around : Surroundings}
    {fields : Log.Fields} {path : String} {fault : Fault}
    (h : (retrieve library around fields path).2 = .error (.denied fault)) :
    fault.retrieval.kind ∈ deniedKinds := by
  rw [retrieve_outcome] at h
  by_cases hpath : path = ""
  · rw [hpath, asked_mount] at h
    obtain ⟨failure, -, ⟨-, hfault⟩ | ⟨-, hfault⟩⟩ := handled_eq_error_iff.mp h
    · rw [Failed.denied.inj hfault]
      simp [Fault.retrieval, Fault.kind, Failure.kind, deniedKinds]
    · cases hfault
  · rw [asked_path hpath] at h
    rcases fromPath_isOfPath hpath h with ⟨reason, rfl⟩ | ⟨reason, rfl⟩
    · simp [Fault.retrieval, Fault.kind, Failure.kind, deniedKinds]
    · simp [Fault.retrieval, Fault.kind, Failure.kind, deniedKinds]

end Kube

theorem Node.Fault.failure_kind (fault : Fault) : fault.failure.kind = fault.kind := by
  unfold failure
  split <;> rfl

namespace Agent

/-- A failure of the agent that names a stage, and that another failure is the cause of. -/
structure Blames (stage : String) (cause failure : Failure) : Prop where
  kind : failure.kind = .agent
  text : failure.text = stage ++ ": " ++ cause.text
  causes : failure.causes = cause :: cause.causes

theorem Fault.blames_iff (fault : Fault) {failure : Failure} :
    Blames fault.stage fault.origin failure ↔ failure = fault.failure := by
  constructor
  · intro h
    cases failure with
    | caused kind text origin =>
      have hkind : kind = .agent := h.kind
      have htext : text = fault.message := h.text
      have horigin : origin = fault.origin := (List.cons.inj h.causes).1
      rw [hkind, htext, horigin]
      rfl
    | alone kind text => exact absurd h.causes nofun
    | during kind text earlier => exact absurd h.causes nofun
  · intro h
    rw [h]
    exact ⟨rfl, rfl, rfl⟩

/-- The failure of a stage that a run ends with, if it ends with one. -/
def Ending.failure? : Ending → Option Failure
  | failed fault => some fault.failure
  | _ => none

section

variable {Access : Type} (settings : Settings) (world : World Access) (fields : Log.Fields)
  (shown : Shown)

/-- What the first stage comes to. -/
def accessed : Except Kube.Failed Access :=
  (Kube.retrieve world.library world.toSurroundings fields settings.kubeconfigPath).2

/-- What the last stage comes to. -/
def resolved : Except Node.Failed Node.Descriptor :=
  (Node.lookup world.api settings.nodeName world.hostname settings.developMode).outcome

/-- A run fails for want of access: a kubeconfig is unread or unusable, or the mount of the pod is
refused. No client is made and the cluster is not asked. -/
structure FailsAtAccess (failure : Failure) : Prop where
  cause : ∃ fault, accessed settings world fields = .error (.denied fault) ∧
    fault.retrieval.kind ∈ Kube.deniedKinds ∧
    Blames "retrieving kube config" fault.retrieval failure
  no_explorer : (run settings world fields shown).explorer = none
  no_call : (run settings world fields shown).calls = []
  /-- What making a client, the cluster or the host would come to does not show. -/
  later_hidden : ∀ clientFault api hostname,
    run settings { world with clientFault, api, hostname } fields shown =
      run settings world fields shown

/-- A run fails for want of a client, having access. The cluster is not asked. -/
structure FailsAtClient (failure : Failure) : Prop where
  granted : ∃ access, accessed settings world fields = .ok access
  cause : ∃ fault, world.clientFault = some fault ∧
    Blames "initializing kubernetes client" fault.failure failure
  no_explorer : (run settings world fields shown).explorer = none
  no_call : (run settings world fields shown).calls = []
  later_hidden : ∀ api hostname,
    run settings { world with api, hostname } fields shown = run settings world fields shown

/-- A run fails for want of its node, having access and a client: what looks the node up is made by
the settings, for the access that was had, and it makes one call. -/
structure FailsAtLookup (failure : Failure) : Prop where
  explorer : ∃ access, accessed settings world fields = .ok access ∧
    (run settings world fields shown).explorer =
      some { access, nodeName := settings.nodeName, developMode := settings.developMode }
  client : world.clientFault = none
  cause : ∃ fault, resolved settings world = .error (.unresolved fault) ∧
    fault.failure.kind ∈ resolutionKinds ∧ Blames "getting node" fault.failure failure
  one_call : (run settings world fields shown).calls =
    [Node.lookupCall settings.nodeName world.hostname]

variable {settings world fields}

/-! ## Runs up to a stage -/

theorem run_of_denied {fault : Kube.Fault}
    (denied : accessed settings world fields = .error (.denied fault)) :
    run settings world fields shown =
      { before := opening settings world fields, shown, ending := .failed (.access fault) } := by
  unfold accessed at denied
  rw [run_eq, denied]

theorem run_of_unblamed {failed : Kube.Failed}
    (unread : accessed settings world fields = .error failed)
    (unblamed : ∀ fault, failed ≠ .denied fault) :
    run settings world fields shown =
      { before := opening settings world fields, shown, ending := .escaped failed.kind } := by
  unfold accessed at unread
  rw [run_eq, unread]
  cases failed with
  | denied fault => exact absurd rfl (unblamed fault)
  | _ => rfl

theorem run_of_refused {access : Access} {fault : Node.CallFault}
    (granted : accessed settings world fields = .ok access)
    (refused : world.clientFault = some fault) :
    run settings world fields shown =
      { before := opening settings world fields, shown, ending := .failed (.client fault) } := by
  unfold accessed at granted
  rw [run_eq, granted, refused]

theorem run_of_granted {access : Access}
    (granted : accessed settings world fields = .ok access) (client : world.clientFault = none) :
    run settings world fields shown =
      lookUp world fields shown (opening settings world fields)
        { access, nodeName := settings.nodeName, developMode := settings.developMode } := by
  unfold accessed at granted
  rw [run_eq, granted, client]

theorem lookUp_calls (before : List Log.Event) (explorer : Explorer Access) :
    (lookUp world fields shown before explorer).calls =
      [Node.lookupCall explorer.nodeName world.hostname] := by
  have hcalls : (explorer.lookup world).calls =
      [Node.lookupCall explorer.nodeName world.hostname] := Node.lookup_calls _ _ _ _
  unfold lookUp
  dsimp only
  split <;> exact hcalls

theorem lookUp_explorer (before : List Log.Event) (explorer : Explorer Access) :
    (lookUp world fields shown before explorer).explorer = some explorer := by
  unfold lookUp
  dsimp only
  split <;> rfl

theorem lookUp_ending (before : List Log.Event) (explorer : Explorer Access) :
    (lookUp world fields shown before explorer).ending =
      match (explorer.lookup world).outcome with
      | .error (.unresolved fault) => .failed (.lookup fault)
      | .error failed => .escaped failed.kind
      | .ok node => if world.interrupted then .interrupted else .stopped node := by
  unfold lookUp
  obtain ⟨calls, events, (_ | _) | node⟩ := explorer.lookup world
  all_goals rfl

theorem lookUp_failure_iff (before : List Log.Event) (explorer : Explorer Access)
    {failure : Failure} :
    (lookUp world fields shown before explorer).ending.failure? = some failure ↔
      ∃ fault, (explorer.lookup world).outcome = .error (.unresolved fault) ∧
        failure = (Fault.lookup fault).failure := by
  rw [lookUp_ending]
  rcases (explorer.lookup world).outcome with (fault | _) | node
  · simp [Ending.failure?, eq_comm]
  · simp [Ending.failure?]
  · simp [Ending.failure?]
  · simp [Ending.failure?]
  · simp [Ending.failure?]
  · cases world.interrupted <;> simp [Ending.failure?]

/-! ## The failure of a run -/

variable {shown}

theorem failsAtAccess_iff {failure : Failure} :
    FailsAtAccess settings world fields shown failure ↔
      ∃ fault, accessed settings world fields = .error (.denied fault) ∧
        failure = (Fault.access fault).failure := by
  constructor
  · intro h
    obtain ⟨fault, denied, -, blames⟩ := h.cause
    exact ⟨fault, denied, (Fault.access fault).blames_iff.mp blames⟩
  · intro h
    obtain ⟨fault, denied, hfailure⟩ := h
    have hrun := run_of_denied shown denied
    exact
      { cause := ⟨fault, denied, Kube.retrieve_denied_kind denied,
          (Fault.access fault).blames_iff.mpr hfailure⟩
        no_explorer := by rw [hrun]
        no_call := by rw [hrun]
        later_hidden := by
          intro clientFault api hostname
          rw [hrun]
          exact run_of_denied shown denied }

theorem failsAtClient_iff {failure : Failure} :
    FailsAtClient settings world fields shown failure ↔
      (∃ access, accessed settings world fields = .ok access) ∧
        ∃ fault, world.clientFault = some fault ∧ failure = (Fault.client fault).failure := by
  constructor
  · intro h
    obtain ⟨fault, refused, blames⟩ := h.cause
    exact ⟨h.granted, fault, refused, (Fault.client fault).blames_iff.mp blames⟩
  · intro h
    obtain ⟨⟨access, granted⟩, fault, refused, hfailure⟩ := h
    have hrun := run_of_refused shown granted refused
    exact
      { granted := ⟨access, granted⟩
        cause := ⟨fault, refused, (Fault.client fault).blames_iff.mpr hfailure⟩
        no_explorer := by rw [hrun]
        no_call := by rw [hrun]
        later_hidden := by
          intro api hostname
          rw [hrun]
          exact run_of_refused shown granted refused }

theorem failsAtLookup_iff {failure : Failure} :
    FailsAtLookup settings world fields shown failure ↔
      (∃ access, accessed settings world fields = .ok access) ∧ world.clientFault = none ∧
        ∃ fault, resolved settings world = .error (.unresolved fault) ∧
          failure = (Fault.lookup fault).failure := by
  constructor
  · intro h
    obtain ⟨access, granted, -⟩ := h.explorer
    obtain ⟨fault, unresolved, -, blames⟩ := h.cause
    exact ⟨⟨access, granted⟩, h.client, fault, unresolved,
      (Fault.lookup fault).blames_iff.mp blames⟩
  · intro h
    obtain ⟨⟨access, granted⟩, client, fault, unresolved, hfailure⟩ := h
    have hrun := run_of_granted shown granted client
    have hkind : fault.failure.kind ∈ resolutionKinds := by
      rw [fault.failure_kind]
      exact (Node.Failed.kind_resolution_iff (.unresolved fault)).mpr ⟨fault, rfl⟩
    exact
      { explorer := ⟨access, granted, by rw [hrun, lookUp_explorer]⟩
        client
        cause := ⟨fault, unresolved, hkind, (Fault.lookup fault).blames_iff.mpr hfailure⟩
        one_call := by rw [hrun, lookUp_calls] }

variable (settings world fields shown)

/-- A run fails exactly with the failure of its first stage that fails, which is one of three, and
does what it did up to there and nothing else. -/
theorem run_fails_in_first_stage (failure : Failure) :
    ((run settings world fields shown).ending.failure? = some failure ↔
      FailsAtAccess settings world fields shown failure ∨
        FailsAtClient settings world fields shown failure ∨
        FailsAtLookup settings world fields shown failure) ∧
      ¬ (FailsAtAccess settings world fields shown failure ∧
        FailsAtClient settings world fields shown failure) ∧
      ¬ (FailsAtAccess settings world fields shown failure ∧
        FailsAtLookup settings world fields shown failure) ∧
      ¬ (FailsAtClient settings world fields shown failure ∧
        FailsAtLookup settings world fields shown failure) := by
  simp only [failsAtAccess_iff, failsAtClient_iff, failsAtLookup_iff]
  cases hfound : accessed settings world fields with
  | error failed =>
    by_cases hdenied : ∃ fault, failed = .denied fault
    · obtain ⟨fault, rfl⟩ := hdenied
      rw [run_of_denied shown hfound]
      simp [Ending.failure?, eq_comm]
    · rw [not_exists] at hdenied
      rw [run_of_unblamed shown hfound hdenied]
      simp [Ending.failure?, hdenied]
  | ok access =>
    cases hclient : world.clientFault with
    | some fault =>
      rw [run_of_refused shown hfound hclient]
      simp [Ending.failure?, eq_comm]
    | none =>
      rw [run_of_granted shown hfound hclient, lookUp_failure_iff]
      simp [resolved, Explorer.lookup]

end

/-- A host that is no pod, where no client can be made and the cluster does not answer. -/
def strandedWorld : World Rehearsal.Access where
  files := { entries := [] }
  environment := fun _ => none
  library := Rehearsal.library {}
  hostname := "h"
  api := { read := fun _ => .error (.timeout "late"), list := fun _ => .error (.timeout "late") }
  clientFault := some (.value "bad host")

/-- Where all three stages would fail, a run fails in the first one and tells of no other. -/
theorem run_fails_in_first_stage_stranded :
    ∃ failure, (run {} strandedWorld [] {}).ending.failure? = some failure ∧
      FailsAtAccess {} strandedWorld [] {} failure ∧
      ¬ FailsAtClient {} strandedWorld [] {} failure ∧
      ¬ FailsAtLookup {} strandedWorld [] {} failure ∧
      failure.text =
        "retrieving kube config: retrieving in node kube config: Service host/port is not set." := by
  let unset : Kube.Fault := .inCluster (Rehearsal.LoadFault.refused .serviceUnset).failure
  have denied : accessed {} strandedWorld [] = .error (.denied unset) := by rfl
  have access : FailsAtAccess {} strandedWorld [] {} (Fault.access unset).failure :=
    failsAtAccess_iff.mpr ⟨_, denied, rfl⟩
  obtain ⟨hfailure, hclient, hlookup, -⟩ := run_fails_in_first_stage {} strandedWorld [] {}
    (Fault.access unset).failure
  exact ⟨_, hfailure.mpr (.inl access), access, fun h => hclient ⟨access, h⟩,
    fun h => hlookup ⟨access, h⟩, by decide⟩

end Agent

end NodeAgent
