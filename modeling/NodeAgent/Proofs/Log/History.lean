import Mathlib.Data.List.Induction
import NodeAgent.Log.Session
import NodeAgent.Proofs.Log.Overlay
/-!
What a session has come to is what its calls say. The handler and the least level are those of the
last preparation; an adapter has the fields that were bound along its line of descent, and keeps
them for as long as the session lasts.

Main results:
* `Session.step_change`: what one call changes.
* `Session.adapter_of_descends`, `Session.exists_descends`: the adapters are those with a line of
  descent.
* `session_follows_history`: what a whole session comes to, and what later calls leave of it.
-/

namespace NodeAgent.Log

/-! ## Steps -/

def Step.isPreparation : Step → Bool
  | prepare _ _ _ _ => true
  | _ => false

/-- Whether a call makes an adapter, where there are some already. -/
def Step.makes (count : Nat) : Step → Bool
  | prepare _ _ _ _ => true
  | withFields place fields => place < count && !fields.has "self"
  | log _ _ _ _ _ _ => false

namespace Session

variable (session : Session) (origin : Origin)

/-- All that a call can do to a session: prepare it, make an adapter from another one, or nothing
at all. -/
inductive Change : Step → Session → Prop
  | prepared (level : Option String) (json : Bool) (version : Datum) (logger : String) :
    Change (.prepare level json version logger)
      { threshold := (parseLevel level).number
        formats := [if json then .json else .text]
        adapters := session.adapters ++ [⟨logger, [("version", version)]⟩] }
  | extended {place : Nat} {fields : Fields} {adapter : Adapter}
    (found : session.adapters[place]? = some adapter) (free : fields.has "self" = false) :
    Change (.withFields place fields)
      { session with adapters := session.adapters ++ [adapter.withFields fields] }
  | unchanged {step : Step} (other : step.isPreparation = false)
    (none_made : step.makes session.adapters.length = false) : Change step session

theorem step_prepare (level : Option String) (json : Bool) (version : Datum) (logger : String) :
    session.step origin (.prepare level json version logger) =
      ({ threshold := (parseLevel level).number
         formats := [if json then .json else .text]
         adapters := session.adapters ++ [⟨logger, [("version", version)]⟩] }, .ok "") := rfl

/-- A log call changes nothing, whether it is refused or not. -/
theorem step_log (place : Nat) (level : Int) (template : String) (arguments : Arguments)
    (extra : Extra) (failure : Option Failure) :
    (session.step origin (.log place level template arguments extra failure)).1 = session := by
  cases hfound : session.adapters[place]? with
  | none => simp only [step, hfound]
  | some adapter => simp only [step, hfound]

theorem step_change (step : Step) : session.Change step (session.step origin step).1 := by
  cases step with
  | prepare level json version logger => exact .prepared level json version logger
  | withFields place fields =>
    cases hfound : session.adapters[place]? with
    | none =>
      have hcount : ¬ place < session.adapters.length := by
        rw [List.getElem?_eq_none_iff] at hfound
        omega
      simp only [Session.step, hfound]
      exact .unchanged rfl (by simp [Step.makes, hcount])
    | some adapter =>
      cases hself : fields.has "self" with
      | true =>
        simp only [Session.step, hfound, hself, if_true]
        exact .unchanged rfl (by simp [Step.makes, hself])
      | false =>
        simp only [Session.step, hfound, hself, Bool.false_eq_true, if_false]
        exact .extended hfound hself
  | log place level template arguments extra failure =>
    rw [step_log]
    exact .unchanged rfl rfl

/-! ## Runs -/

/-- What a session comes to by some calls. -/
def after (steps : List Step) : Session :=
  ((run origin session steps).getLast?.map Prod.fst).getD session

theorem after_nil : session.after origin [] = session := rfl

theorem after_cons (step : Step) (steps : List Step) :
    session.after origin (step :: steps) = (session.step origin step).1.after origin steps := by
  unfold after
  rw [run, List.getLast?_cons]
  cases (run origin (session.step origin step).1 steps).getLast? with
  | none => rfl
  | some last => rfl

theorem after_append (first rest : List Step) :
    session.after origin (first ++ rest) = (session.after origin first).after origin rest := by
  induction first generalizing session with
  | nil => rfl
  | cons step first ih => rw [List.cons_append, after_cons, ih, after_cons]

theorem after_snoc (steps : List Step) (step : Step) :
    session.after origin (steps ++ [step]) = ((session.after origin steps).step origin step).1 := by
  rw [after_append, after_cons, after_nil]

/-- What a run has for a call: what the call does to the session that the calls before it led
to. -/
theorem run_at (before : List Step) (step : Step) (rest : List Step) :
    (run origin session (before ++ step :: rest))[before.length]? =
      some ((session.after origin before).step origin step) := by
  induction before generalizing session with
  | nil => rfl
  | cons first before ih =>
    rw [List.cons_append, run, List.length_cons, List.getElem?_cons_succ, ih, after_cons]

/-! ## The handler and the level -/

/-- A call that prepares nothing leaves the handlers and the least level as they are. -/
theorem Change.keeps {session next : Session} {step : Step} (h : session.Change step next)
    (hother : step.isPreparation = false) :
    next.formats = session.formats ∧ next.threshold = session.threshold := by
  cases h with
  | prepared level json version logger => simp [Step.isPreparation] at hother
  | extended found free => exact ⟨rfl, rfl⟩
  | unchanged other none_made => exact ⟨rfl, rfl⟩

theorem after_keeps {steps : List Step}
    (h : ∀ step ∈ steps, step.isPreparation = false) :
    (session.after origin steps).formats = session.formats ∧
      (session.after origin steps).threshold = session.threshold := by
  induction steps generalizing session with
  | nil => exact ⟨rfl, rfl⟩
  | cons step steps ih =>
    have hstep := (session.step_change origin step).keeps (h step List.mem_cons_self)
    have hrest := ih (session.step origin step).1 fun other hother =>
      h other (List.mem_cons_of_mem step hother)
    rw [after_cons, hrest.1, hrest.2]
    exact hstep

end Session

/-- Calls with a preparation among them have a last one. -/
theorem exists_last_preparation {steps : List Step}
    (h : ∃ step ∈ steps, step.isPreparation = true) :
    ∃ before level json version logger rest,
      steps = before ++ .prepare level json version logger :: rest ∧
        ∀ step ∈ rest, step.isPreparation = false := by
  induction steps with
  | nil => simp at h
  | cons step steps ih =>
    by_cases hlater : ∃ other ∈ steps, other.isPreparation = true
    · obtain ⟨before, level, json, version, logger, rest, rfl, hrest⟩ := ih hlater
      exact ⟨step :: before, level, json, version, logger, rest, rfl, hrest⟩
    · have hrest : ∀ other ∈ steps, other.isPreparation = false := by
        intro other hother
        rw [← Bool.not_eq_true]
        exact fun hprep => hlater ⟨other, hother, hprep⟩
      obtain ⟨first, hmem, hprep⟩ := h
      rcases List.mem_cons.mp hmem with rfl | hmem
      · cases first with
        | prepare level json version logger =>
          exact ⟨[], level, json, version, logger, steps, rfl, hrest⟩
        | withFields place fields => simp [Step.isPreparation] at hprep
        | log place level template arguments extra failure => simp [Step.isPreparation] at hprep
      · exact absurd ⟨first, hmem, hprep⟩ hlater

/-- After a last preparation, the one handler and the least level are its own. -/
theorem Session.after_preparation (session : Session) (origin : Origin) (before : List Step)
    (level : Option String) (json : Bool) (version : Datum) (logger : String) {rest : List Step}
    (h : ∀ step ∈ rest, step.isPreparation = false) :
    let later := session.after origin (before ++ .prepare level json version logger :: rest)
    later.formats = [if json then .json else .text] ∧
      later.threshold = (parseLevel level).number := by
  have hkeeps := after_keeps
    ((session.after origin before).step origin (.prepare level json version logger)).1 origin h
  rw [← after_cons, ← after_append, step_prepare] at hkeeps
  dsimp only at hkeeps
  exact hkeeps

/-! ## Adapters -/

/-- How many adapters calls make. -/
def adaptersMade (steps : List Step) : Nat :=
  steps.foldl (fun count step => if step.makes count then count + 1 else count) 0

/-- Where an adapter comes from: the logger and the version of a preparation, and the fields that
were bound on the way from there, the earliest first. -/
structure Lineage where
  logger : String
  version : Datum
  layers : List Fields

/-- The adapter of a line of descent. -/
def Lineage.adapter (lineage : Lineage) : Adapter :=
  { logger := lineage.logger
    fields := Fields.settled (("version", lineage.version) :: lineage.layers.flatten) }

/-- The lines of descent of the adapters that calls make, by the places of the adapters. A
preparation begins a line, and a call that binds fields goes on with that of the adapter it is
made on. -/
inductive Descends : List Step → Nat → Lineage → Prop
  | prepared (before : List Step) (level : Option String) (json : Bool) (version : Datum)
    (logger : String) (rest : List Step) :
    Descends (before ++ .prepare level json version logger :: rest) (adaptersMade before)
      ⟨logger, version, []⟩
  | extended {before : List Step} {place : Nat} {lineage : Lineage}
    (parent : Descends before place lineage) {fields : Fields} (free : fields.has "self" = false)
    (rest : List Step) :
    Descends (before ++ .withFields place fields :: rest) (adaptersMade before)
      ⟨lineage.logger, lineage.version, lineage.layers ++ [fields]⟩

/-- Later calls do not change where an adapter comes from. -/
theorem Descends.append {steps : List Step} {place : Nat} {lineage : Lineage}
    (h : Descends steps place lineage) (more : List Step) :
    Descends (steps ++ more) place lineage := by
  cases h with
  | prepared before level json version logger rest =>
    rw [List.append_assoc, List.cons_append]
    exact .prepared before level json version logger (rest ++ more)
  | extended parent free rest =>
    rw [List.append_assoc, List.cons_append]
    exact .extended parent free (rest ++ more)

/-- Where there is an adapter, there is a preparation. -/
theorem Descends.exists_preparation {steps : List Step} {place : Nat} {lineage : Lineage}
    (h : Descends steps place lineage) : ∃ step ∈ steps, step.isPreparation = true := by
  induction h with
  | prepared before level json version logger rest =>
    exact ⟨_, List.mem_append_right before List.mem_cons_self, rfl⟩
  | extended parent free rest ih =>
    obtain ⟨step, hstep, hprep⟩ := ih
    exact ⟨step, List.mem_append_left _ hstep, hprep⟩

theorem Lineage.prepared_adapter (logger : String) (version : Datum) :
    (Lineage.mk logger version []).adapter = ⟨logger, [("version", version)]⟩ := by
  have hone : (Fields.names [("version", version)]).Nodup := by simp [Fields.names]
  rw [Lineage.adapter, List.flatten_nil, Fields.settled_of_nodup hone]

/-- Fields that are bound through an adapter are the last layer of the new one. -/
theorem Lineage.adapter_withFields (lineage : Lineage) (fields : Fields) :
    lineage.adapter.withFields fields =
      (Lineage.mk lineage.logger lineage.version (lineage.layers ++ [fields])).adapter := by
  unfold Adapter.withFields Lineage.adapter
  simp only [Fields.overlay_settled (Fields.nodup_settled _), List.flatten_append,
    List.flatten_singleton, List.cons_append]

theorem adaptersMade_snoc (steps : List Step) (step : Step) :
    adaptersMade (steps ++ [step]) =
      if step.makes (adaptersMade steps) then adaptersMade steps + 1 else adaptersMade steps := by
  unfold adaptersMade
  rw [List.foldl_append]
  rfl

namespace Session

variable (origin : Origin)

/-- The adapters of a session stay where and what they are. -/
theorem Change.adapters {session next : Session} {step : Step} (h : session.Change step next) :
    session.adapters <+: next.adapters := by
  cases h with
  | prepared level json version logger => exact List.prefix_append _ _
  | extended found free => exact List.prefix_append _ _
  | unchanged other none_made => exact List.prefix_rfl

theorem after_adapters (session : Session) (steps : List Step) :
    session.adapters <+: (session.after origin steps).adapters := by
  induction steps generalizing session with
  | nil => exact List.prefix_rfl
  | cons step steps ih =>
    rw [after_cons]
    exact (session.step_change origin step).adapters.trans (ih _)

theorem adapter_stays {session : Session} (steps : List Step) {place : Nat} {adapter : Adapter}
    (h : session.adapters[place]? = some adapter) :
    (session.after origin steps).adapters[place]? = some adapter := by
  obtain ⟨hplace, hadapter⟩ := List.getElem?_eq_some_iff.mp h
  rw [List.prefix_iff_getElem?.mp (after_adapters origin session steps) place hplace, hadapter]

theorem Change.length_adapters {session next : Session} {step : Step}
    (h : session.Change step next) :
    next.adapters.length = if step.makes session.adapters.length then session.adapters.length + 1
      else session.adapters.length := by
  cases h with
  | prepared level json version logger => simp [Step.makes]
  | @extended place fields adapter found free =>
    obtain ⟨hplace, -⟩ := List.getElem?_eq_some_iff.mp found
    simp [Step.makes, hplace, free]
  | unchanged other none_made => rw [none_made, if_neg (by decide)]

/-- What calls make is counted right. -/
theorem length_adapters (steps : List Step) :
    (after {} origin steps).adapters.length = adaptersMade steps := by
  induction steps using List.reverseRecOn with
  | nil => rfl
  | append_singleton steps step ih =>
    rw [adaptersMade_snoc, after_snoc,
      ((after {} origin steps).step_change origin step).length_adapters, ih]

/-- An adapter that stands where the calls so far end was made by the next call. -/
theorem adapter_made (before : List Step) (step : Step) (rest : List Step) {made : Adapter}
    (h : ((after {} origin before).step origin step).1.adapters =
      (after {} origin before).adapters ++ [made]) :
    (after {} origin (before ++ step :: rest)).adapters[adaptersMade before]? = some made := by
  have hprefix := after_adapters origin ((after {} origin before).step origin step).1 rest
  rw [h] at hprefix
  obtain ⟨more, hmore⟩ := hprefix
  rw [after_append, after_cons, ← hmore, ← length_adapters origin, List.append_assoc,
    List.getElem?_append_right (Nat.le_refl _)]
  simp

/-- An adapter stands at the place of its line of descent, with the fields of that line. -/
theorem adapter_of_descends {steps : List Step} {place : Nat} {lineage : Lineage}
    (h : Descends steps place lineage) :
    (after {} origin steps).adapters[place]? = some lineage.adapter := by
  induction h with
  | prepared before level json version logger rest =>
    rw [Lineage.prepared_adapter]
    exact adapter_made origin _ _ _ rfl
  | @extended before place lineage parent fields free rest ih =>
    refine adapter_made origin _ _ _ ?_
    simp only [step, ih, free, Bool.false_eq_true, if_false, Lineage.adapter_withFields]

/-- Every adapter has a line of descent. -/
theorem exists_descends {steps : List Step} {place : Nat} {adapter : Adapter}
    (h : (after {} origin steps).adapters[place]? = some adapter) :
    ∃ lineage, Descends steps place lineage ∧ adapter = lineage.adapter := by
  induction steps using List.reverseRecOn generalizing place adapter with
  | nil => simp [after_nil] at h
  | append_singleton steps step ih =>
    rw [after_snoc] at h
    have hchange := (after {} origin steps).step_change origin step
    have hcount := length_adapters origin steps
    -- An adapter is either one that was there before or the one that the last call made.
    have hnew : ∀ made lineage, Descends (steps ++ [step]) (adaptersMade steps) lineage →
        made = lineage.adapter →
        ((after {} origin steps).adapters ++ [made])[place]? = some adapter →
        ∃ lineage, Descends (steps ++ [step]) place lineage ∧ adapter = lineage.adapter := by
      intro made lineage hdescends hmade hat
      by_cases hplace : place < (after {} origin steps).adapters.length
      · rw [List.getElem?_append_left hplace] at hat
        obtain ⟨old, hold, rfl⟩ := ih hat
        exact ⟨old, hold.append [step], rfl⟩
      · obtain ⟨hlength, hat⟩ := List.getElem?_eq_some_iff.mp hat
        have hend : place = (after {} origin steps).adapters.length := by
          rw [List.length_append, List.length_singleton] at hlength
          omega
        subst hend
        rw [List.getElem_concat_length rfl] at hat
        rw [hcount, ← hat, hmade]
        exact ⟨lineage, hdescends, rfl⟩
    generalize ((after {} origin steps).step origin step).1 = next at hchange h
    cases hchange with
    | prepared level json version logger =>
      exact hnew _ _ (.prepared steps level json version logger [])
        (Lineage.prepared_adapter logger version).symm h
    | extended found free =>
      obtain ⟨parent, hparent, rfl⟩ := ih found
      exact hnew _ _ (.extended hparent free []) (parent.adapter_withFields _) h
    | unchanged other none_made =>
      obtain ⟨old, hold, rfl⟩ := ih h
      exact ⟨old, hold.append [step], rfl⟩

end Session

/-- The session that calls lead to, and what later calls leave of it. Where there is a preparation,
the one handler and the least level are those of the last one, and calls that prepare nothing
change neither. The adapters are those that have a line of descent in the calls, with the fields
that were bound along it, and no later call changes an adapter. -/
theorem session_follows_history (origin : Origin) (steps more : List Step) :
    let session := Session.after {} origin steps
    let later := Session.after {} origin (steps ++ more)
    ((∃ step ∈ steps, step.isPreparation = true) →
      ∃ before level json version logger rest,
        steps = before ++ .prepare level json version logger :: rest ∧
          (∀ step ∈ rest, step.isPreparation = false) ∧
          session.formats = [if json then .json else .text] ∧
          session.threshold = (parseLevel level).number) ∧
      ((∀ step ∈ more, step.isPreparation = false) →
        later.formats = session.formats ∧ later.threshold = session.threshold) ∧
      (∀ (place : Nat) (adapter : Adapter), session.adapters[place]? = some adapter ↔
        ∃ lineage, Descends steps place lineage ∧ adapter = lineage.adapter) ∧
      ∀ (place : Nat) (adapter : Adapter), session.adapters[place]? = some adapter →
        later.adapters[place]? = some adapter := by
  refine ⟨?_, ?_, ?_, ?_⟩
  · intro hprep
    obtain ⟨before, level, json, version, logger, rest, rfl, hrest⟩ := exists_last_preparation hprep
    exact ⟨before, level, json, version, logger, rest, rfl, hrest,
      Session.after_preparation {} origin before level json version logger hrest⟩
  · intro hmore
    rw [Session.after_append]
    exact Session.after_keeps _ origin hmore
  · intro place adapter
    constructor
    · exact Session.exists_descends origin
    · intro h
      obtain ⟨lineage, hlineage, rfl⟩ := h
      exact Session.adapter_of_descends origin hlineage
  · intro place adapter h
    rw [Session.after_append]
    exact Session.adapter_stays origin more h

/-- A session with two preparations, adapters of adapters, and a binding that is refused. -/
def rehearsal : List Step :=
  [.prepare (some "info") true (.text "1") "kubeip", .withFields 0 [("node", .text "a")],
   .withFields 1 [("self", .null)], .prepare (some "DEBUG") false (.text "2") "kubeip",
   .withFields 1 [("zone", .text "z"), ("version", .text "3")]]

/-- What comes after the rehearsal. -/
def epilogue : List Step :=
  [.withFields 3 [("node", .text "b")], .log 3 20 "done" .none .missing none]

theorem session_follows_history_rehearsed :
    (∃ step ∈ rehearsal, step.isPreparation = true) ∧
      (∀ step ∈ epilogue, step.isPreparation = false) ∧
      (Session.after {} {} (rehearsal ++ epilogue)).formats = [.text] ∧
      (Session.after {} {} (rehearsal ++ epilogue)).threshold = 10 ∧
      (∃ lineage, Descends rehearsal 3 lineage ∧
        lineage.adapter =
          ⟨"kubeip", [("version", .text "3"), ("node", .text "a"), ("zone", .text "z")]⟩) ∧
      (Session.after {} {} (rehearsal ++ epilogue)).adapters[3]? =
        some ⟨"kubeip", [("version", .text "3"), ("node", .text "a"), ("zone", .text "z")]⟩ := by
  have hprep : ∃ step ∈ rehearsal, step.isPreparation = true := by decide
  have hother : ∀ step ∈ epilogue, step.isPreparation = false := by decide
  have hadapter : (Session.after {} {} rehearsal).adapters[3]? =
      some ⟨"kubeip", [("version", .text "3"), ("node", .text "a"), ("zone", .text "z")]⟩ := by
    rfl
  obtain ⟨hlast, hkeeps, hadapters, hstays⟩ := session_follows_history {} rehearsal epilogue
  obtain ⟨hformats, hthreshold⟩ := hkeeps hother
  obtain ⟨lineage, hlineage, hsame⟩ := (hadapters _ _).mp hadapter
  exact ⟨hprep, hother, hformats, hthreshold, ⟨lineage, hlineage, hsame.symm⟩,
    hstays _ _ hadapter⟩

end NodeAgent.Log
