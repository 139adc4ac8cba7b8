import NodeAgent.Proofs.Agent.Stages
/-!
How a run that comes to its lookup accounts for the call it makes. The call ends in a wait behind one
more success, or in a failure of the stage behind one more error. The one exception is a call that
fails for a bad value: it ends the run uncounted, and no stage is blamed for it.

Main results:
* `run_accounts_for_call_iff`: which calls are counted, and what becomes of the others.
-/

namespace NodeAgent.Agent

/-- How many lookups were counted, as a success or as an error. -/
def tally (shown : Shown) : Nat :=
  shown.metrics.resolutionsOf successOutcome + shown.metrics.resolutionsOf errorOutcome

section

variable {Access : Type} (shown : Shown) (run : Run Access)

/-- A run that got to its wait, behind one more success and no more errors. -/
structure CountsSuccess : Prop where
  waits : run.waiting.isSome = true
  success : run.shown.metrics.resolutionsOf successOutcome =
    shown.metrics.resolutionsOf successOutcome + 1
  error : run.shown.metrics.resolutionsOf errorOutcome = shown.metrics.resolutionsOf errorOutcome

/-- A run that failed, as its stage of the lookup, behind one more error and no more successes. -/
structure CountsError : Prop where
  failed : ∃ fault text, run.ending = .failed fault ∧ fault.failure.kind = .agent ∧
    fault.failure.text = "getting node: " ++ text
  success : run.shown.metrics.resolutionsOf successOutcome =
    shown.metrics.resolutionsOf successOutcome
  error : run.shown.metrics.resolutionsOf errorOutcome =
    shown.metrics.resolutionsOf errorOutcome + 1

/-- A run that ended in a bad value and shows what it showed at first. -/
structure EscapesUncounted : Prop where
  escapes : run.ending = .escaped .value
  unwaited : run.waiting = none
  uncounted : run.shown = shown

variable {shown run}

theorem CountsSuccess.tally_eq (h : CountsSuccess shown run) :
    tally run.shown = tally shown + 1 := by
  unfold tally
  rw [h.success, h.error]
  omega

theorem CountsError.tally_eq (h : CountsError shown run) : tally run.shown = tally shown + 1 := by
  unfold tally
  rw [h.success, h.error]
  omega

theorem EscapesUncounted.tally_eq (h : EscapesUncounted shown run) :
    tally run.shown = tally shown := by
  rw [h.uncounted]

theorem EscapesUncounted.not_counted (h : EscapesUncounted shown run) :
    ¬ (CountsSuccess shown run ∨ CountsError shown run) := by
  intro hcounted
  have htally : tally run.shown = tally shown + 1 := hcounted.elim (·.tally_eq) (·.tally_eq)
  rw [h.tally_eq] at htally
  omega

end

/-! ## From the lookup on -/

section

variable {Access : Type} (world : World Access) (fields : Log.Fields) (shown : Shown)
  (before : List Log.Event)
  (explorer : Explorer Access)

/-- A lookup that comes to a node or to a fault of its own is counted. -/
theorem lookUp_counts (resolution : Node.IsResolution (explorer.lookup world).outcome) :
    CountsSuccess shown (lookUp world fields shown before explorer) ∨
      CountsError shown (lookUp world fields shown before explorer) := by
  unfold lookUp
  cases houtcome : (explorer.lookup world).outcome with
  | ok node =>
    simp only [houtcome]
    refine .inl ⟨rfl, ?_, ?_⟩
    · simp [Shown.countResolution, Shown.withReady, Metrics.resolutionsOf_countResolution]
    · simp [Shown.countResolution, Shown.withReady, Metrics.resolutionsOf_countResolution,
        successOutcome, errorOutcome]
  | error failed =>
    obtain ⟨fault, rfl⟩ := resolution failed houtcome
    simp only [houtcome]
    refine .inr ⟨⟨.lookup fault, fault.failure.text, rfl, rfl, rfl⟩, ?_, ?_⟩
    · simp [Shown.countResolution, Metrics.resolutionsOf_countResolution, successOutcome,
        errorOutcome]
    · simp [Shown.countResolution, Metrics.resolutionsOf_countResolution]

theorem lookUp_escapes {message : String}
    (bad : (explorer.lookup world).outcome = .error (.call (.value message))) :
    EscapesUncounted shown (lookUp world fields shown before explorer) := by
  unfold lookUp
  simp only [bad]
  exact ⟨rfl, rfl, rfl⟩

end

/-! ## The account of a run -/

section

variable {Access : Type} (settings : Settings) (world : World Access) (fields : Log.Fields)
  (shown : Shown)

/-- Whether the call of a run fails for a bad value. -/
def MeetsBadValue : Prop :=
  ∃ message, world.api.fault? (Node.lookupCall settings.nodeName world.hostname) =
    some (.value message)

/-- A run that has access and a client makes one call. It counts what comes of it, and then waits or
fails as its stage of the lookup, exactly where the call does not fail for a bad value. -/
theorem run_accounts_for_call_iff {access : Access}
    (granted : accessed settings world fields = .ok access) (client : world.clientFault = none)
    (whole : world.api.IsWhole) :
    let run := run settings world fields shown
    run.calls = [Node.lookupCall settings.nodeName world.hostname] ∧
      (CountsSuccess shown run ∨ CountsError shown run ↔ ¬ MeetsBadValue settings world) ∧
      (tally run.shown = tally shown + run.calls.length ↔ ¬ MeetsBadValue settings world) ∧
      (MeetsBadValue settings world → EscapesUncounted shown run) := by
  intro run
  let explorer : Explorer Access :=
    { access, nodeName := settings.nodeName, developMode := settings.developMode }
  have hrun : run = lookUp world fields shown (opening settings world fields) explorer :=
    run_of_granted shown granted client
  have hcalls : run.calls = [Node.lookupCall settings.nodeName world.hostname] := by
    rw [hrun, lookUp_calls]
  have escapes : MeetsBadValue settings world → EscapesUncounted shown run := by
    intro hbad
    obtain ⟨message, hmessage⟩ := hbad
    rw [hrun]
    exact lookUp_escapes _ _ _ _ _ (Node.lookup_of_bad_value _ hmessage)
  have counts : ¬ MeetsBadValue settings world →
      CountsSuccess shown run ∨ CountsError shown run := by
    intro hgood
    rw [hrun]
    exact lookUp_counts _ _ _ _ _
      (Node.lookup_resolution _ whole fun message hmessage => hgood ⟨message, hmessage⟩)
  refine ⟨hcalls, ⟨?_, counts⟩, ⟨?_, ?_⟩, escapes⟩
  · intro hcounted hbad
    exact (escapes hbad).not_counted hcounted
  · intro htally hbad
    rw [(escapes hbad).tally_eq, hcalls] at htally
    simp at htally
  · intro hgood
    rw [(counts hgood).elim (·.tally_eq) (·.tally_eq), hcalls]
    rfl

end

/-- The pod of before, whose call now fails for a bad value. -/
def badValueWorld : World Rehearsal.Access :=
  { podWorld with api := { podWorld.api with read := fun _ => .error (.value "bad host") } }

/-- A run whose call fails for a bad value makes one call and counts none. -/
theorem run_accounts_for_call_bad_value :
    accessed { nodeName := "n" } badValueWorld [] = .ok podAccess ∧
      badValueWorld.clientFault = none ∧ badValueWorld.api.IsWhole ∧
      MeetsBadValue { nodeName := "n" } badValueWorld ∧
      (run { nodeName := "n" } badValueWorld [] {}).calls = [.readNode "n"] ∧
      (run { nodeName := "n" } badValueWorld [] {}).ending = .escaped .value ∧
      tally (run { nodeName := "n" } badValueWorld [] {}).shown = 0 := by
  have granted : accessed { nodeName := "n" } badValueWorld [] = .ok podAccess :=
    pod_grants rfl rfl rfl []
  have whole : badValueWorld.api.IsWhole := ⟨nofun, nofun⟩
  have bad : MeetsBadValue { nodeName := "n" } badValueWorld := ⟨"bad host", rfl⟩
  obtain ⟨hcalls, -, -, hescapes⟩ :=
    run_accounts_for_call_iff { nodeName := "n" } badValueWorld [] {} granted rfl whole
  exact ⟨granted, rfl, whole, bad, hcalls, (hescapes bad).escapes, (hescapes bad).tally_eq⟩

end NodeAgent.Agent
