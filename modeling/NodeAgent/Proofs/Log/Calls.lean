import NodeAgent.Proofs.Log.History
import NodeAgent.Proofs.Log.Lines
/-!
What a log call does: it writes the line of one record, or nothing, and it leaves the session as
it is. Whether it is refused hangs on its level first, then on what it binds.

Main results:
* `Session.log_of_free`: a call that is not refused writes what its record has to show.
* `exists_callLine_iff`: when that is a line.
* `call_writes_once`: how every call of a session is answered.
* `call_hides_message`: a call that is not refused, has a message, and yet writes nothing.
-/

namespace NodeAgent.Log

/-- What a call writes; one that is refused writes nothing. -/
def writtenBy : Except SessionFault String → String
  | .ok text => text
  | .error _ => ""

def Step.isLog : Step → Bool
  | log _ _ _ _ _ _ => true
  | _ => false

/-- The fields that a log call binds itself, unless it leaves out what it should give. -/
def Extra.bindings? : Extra → Option Fields
  | absent => some []
  | missing => none
  | given fields => some fields

/-- The record of a log call: it carries the fields of its adapter, overlaid by its own. -/
def callRecord (origin : Origin) (adapter : Adapter) (level : Int) (template : String)
    (arguments : Arguments) (own : Fields) (failure : Option Failure) : Record :=
  { logger := loggerName adapter.logger, level, origin, template, arguments
    fields := Fields.settled (adapter.fields ++ own), failure }

/-- The names that a log call binds, those of its adapter included. -/
def boundNames (adapter : Adapter) (own : Fields) : List String :=
  adapter.fields.names ++ own.names

/-- How a log call on an adapter is answered. One below the least level does nothing; of the others,
one that leaves out its fields, one whose level has no name and one that binds a name of the
record's own are refused, in this order; any other writes the line of its record, or nothing if the
record has no line. -/
structure Answered (threshold : Int) (format : Format) (origin : Origin) (adapter : Adapter)
    (level : Int) (template : String) (arguments : Arguments) (extra : Extra)
    (failure : Option Failure) (outcome : Except SessionFault String) : Prop where
  below : level < threshold → outcome = .ok ""
  missing : threshold ≤ level → extra.bindings? = none → outcome = .error .extraMissing
  unnamed : ∀ own, threshold ≤ level → extra.bindings? = some own →
    (Datum.int level).isWritable = false → outcome = .error .levelUnnamed
  reserved : ∀ own, threshold ≤ level → extra.bindings? = some own →
    (Datum.int level).isWritable = true →
    (∃ name ∈ boundNames adapter own, name ∈ reservedNames) →
    ∃ name ∈ boundNames adapter own, name ∈ reservedNames ∧ outcome = .error (.reservedField name)
  /-- Where nothing stands in its way, the call writes the one line of its record. -/
  line : ∀ own, threshold ≤ level → extra.bindings? = some own →
    (Datum.int level).isWritable = true → (∀ name ∈ boundNames adapter own, name ∉ reservedNames) →
    ∀ text, format.line none
        (callRecord origin adapter level template arguments own failure) = .ok text →
      outcome = .ok (text ++ "\n")
  no_line : ∀ own, threshold ≤ level → extra.bindings? = some own →
    (Datum.int level).isWritable = true → (∀ name ∈ boundNames adapter own, name ∉ reservedNames) →
    ∀ fault, format.line none
        (callRecord origin adapter level template arguments own failure) = .error fault →
      outcome = .ok ""
  /-- When the record of the call has a line. -/
  exists_line : ∀ own, (Datum.int level).isWritable = true →
    ((∃ text, format.line none
        (callRecord origin adapter level template arguments own failure) = .ok text) ↔
      (∃ moment, Time.stamp origin.moment = .ok moment) ∧
      (Datum.int origin.line).isWritable = true ∧
      "getMessage" ∉ boundNames adapter own ∧
      (∃ message, Template.fill template arguments = .ok message) ∧
      ∀ field ∈ format.valuesOf
          (callRecord origin adapter level template arguments own failure),
        field.2.isWritable = true)

/-! ## Names -/

theorem reservedAmong_eq_none_iff {fields : Fields} :
    reservedAmong fields = none ↔ ∀ name ∈ fields.names, name ∉ reservedNames := by
  unfold reservedAmong
  rw [Option.map_eq_none_iff, List.find?_eq_none]
  constructor
  · intro h name hname
    obtain ⟨field, hfield, rfl⟩ := List.mem_map.mp hname
    rw [← List.contains_iff_mem]
    exact h field hfield
  · intro h field hfield
    rw [List.contains_iff_mem]
    exact h field.1 (List.mem_map_of_mem hfield)

theorem mem_of_reservedAmong {fields : Fields} {name : String}
    (h : reservedAmong fields = some name) : name ∈ fields.names ∧ name ∈ reservedNames := by
  obtain ⟨field, hfield, rfl⟩ := Option.map_eq_some_iff.mp h
  have hcontains : reservedNames.contains field.1 = true := by
    have hfound := List.find?_some hfield
    exact hfound
  exact ⟨List.mem_map_of_mem (List.mem_of_find?_eq_some hfield),
    List.contains_iff_mem.mp hcontains⟩

/-- The fields of a log call. -/
theorem callFields_eq_ok {adapter : Adapter} (hnodup : adapter.fields.names.Nodup) {extra : Extra}
    {own : Fields} (h : extra.bindings? = some own) :
    callFields adapter extra = .ok (Fields.settled (adapter.fields ++ own)) := by
  cases extra with
  | absent =>
    rw [← Option.some.inj h, List.append_nil, Fields.settled_of_nodup hnodup]
    rfl
  | missing => simp [Extra.bindings?] at h
  | given fields =>
    rw [← Option.some.inj h, ← Fields.overlay_eq_settled hnodup]
    rfl

theorem mem_boundNames {adapter : Adapter} {own : Fields} {name : String} :
    name ∈ (Fields.settled (adapter.fields ++ own)).names ↔ name ∈ boundNames adapter own := by
  rw [Fields.mem_names_settled, Fields.names_append, boundNames]

/-! ## Lines -/

/-- A record is asked for its message by a name that no field of it must have. -/
theorem Record.exists_message_iff {record : Record} : (∃ message, record.message = .ok message) ↔
    "getMessage" ∉ record.fields.names ∧
      ∃ message, Template.fill record.template record.arguments = .ok message := by
  have hname : messageName = "getMessage" := rfl
  unfold Record.message
  rw [hname]
  cases hhas : record.fields.has "getMessage" with
  | true =>
    rw [if_pos rfl]
    simp [Fields.has_eq_true_iff.mp hhas]
  | false =>
    rw [if_neg (by decide)]
    simp [Fields.has_eq_false_iff.mp hhas]

/-- When the record of a log call has a line. -/
theorem exists_callLine_iff {format : Format} {origin : Origin} {adapter : Adapter} {level : Int}
    {template : String} {arguments : Arguments} {own : Fields} {failure : Option Failure}
    (hlevel : (Datum.int level).isWritable = true) :
    (∃ text, format.line none
        (callRecord origin adapter level template arguments own failure) = .ok text) ↔
      (∃ moment, Time.stamp origin.moment = .ok moment) ∧
      (Datum.int origin.line).isWritable = true ∧
      "getMessage" ∉ boundNames adapter own ∧
      (∃ message, Template.fill template arguments = .ok message) ∧
      ∀ field ∈ format.valuesOf
          (callRecord origin adapter level template arguments own failure),
        field.2.isWritable = true := by
  have hmessage := @Record.exists_message_iff
    (callRecord origin adapter level template arguments own failure)
  have hbound : "getMessage" ∈ (callRecord origin adapter level template arguments own
      failure).fields.names ↔ "getMessage" ∈ boundNames adapter own := mem_boundNames
  rw [Format.exists_line_iff (Fields.nodup_settled _), hmessage, hbound, and_assoc]
  exact and_iff_right hlevel

theorem written_line {format : Format} {record : Record} {line : String}
    (h : format.line none record = .ok line) : written [format] record = line ++ "\n" := by
  simp [written, h, String.join]

theorem written_nothing {format : Format} {record : Record} {fault : LineFault}
    (h : format.line none record = .error fault) : written [format] record = "" := by
  simp [written, h, String.join]

/-! ## Calls -/

theorem Session.step_log_outcome {session : Session} (origin : Origin) {place : Nat}
    {adapter : Adapter} (h : session.adapters[place]? = some adapter) (level : Int)
    (template : String) (arguments : Arguments) (extra : Extra) (failure : Option Failure) :
    (session.step origin (.log place level template arguments extra failure)).2 =
      session.log origin adapter level template arguments extra failure := by
  simp only [Session.step, h]

/-- A call that logs nothing writes nothing. -/
theorem Session.step_writes (session : Session) (origin : Origin) {step : Step}
    (h : step.isLog = false) : writtenBy (session.step origin step).2 = "" := by
  cases step with
  | prepare level json version logger => rfl
  | withFields place fields =>
    cases hfound : session.adapters[place]? with
    | none => simp only [Session.step, hfound, writtenBy]
    | some adapter =>
      cases hself : fields.has "self" with
      | true => simp only [Session.step, hfound, hself, if_true, writtenBy]
      | false => simp only [Session.step, hfound, hself, Bool.false_eq_true, if_false, writtenBy]
  | log place level template arguments extra failure => simp [Step.isLog] at h

/-- An enabled call that gives what it should and binds no reserved name writes its record. -/
theorem Session.log_of_free {session : Session} (origin : Origin) {adapter : Adapter}
    (hnodup : adapter.fields.names.Nodup) {level : Int} (template : String)
    (arguments : Arguments) {extra : Extra} (failure : Option Failure) {own : Fields}
    (henabled : session.threshold ≤ level) (hown : extra.bindings? = some own)
    (hlevel : (Datum.int level).isWritable = true)
    (hfree : ∀ name ∈ boundNames adapter own, name ∉ reservedNames) :
    session.log origin adapter level template arguments extra failure =
      .ok (written session.formats
        (callRecord origin adapter level template arguments own failure)) := by
  have hnone : reservedAmong (Fields.settled (adapter.fields ++ own)) = none :=
    reservedAmong_eq_none_iff.mpr fun name hname => hfree name (mem_boundNames.mp hname)
  unfold Session.log
  rw [if_neg (Int.not_lt.mpr henabled), callFields_eq_ok hnodup hown]
  simp only [hlevel, if_true, hnone]
  rfl

theorem Session.log_answered {session : Session} {format : Format} (origin : Origin)
    (hformat : session.formats = [format]) {adapter : Adapter}
    (hnodup : adapter.fields.names.Nodup) (level : Int) (template : String)
    (arguments : Arguments) (extra : Extra) (failure : Option Failure) :
    Answered session.threshold format origin adapter level template arguments extra failure
      (session.log origin adapter level template arguments extra failure) where
  below := by
    intro hlow
    unfold Session.log
    rw [if_pos hlow]
  missing := by
    intro henabled hmissing
    cases extra with
    | absent => simp [Extra.bindings?] at hmissing
    | missing =>
      unfold Session.log
      rw [if_neg (Int.not_lt.mpr henabled)]
      rfl
    | given fields => simp [Extra.bindings?] at hmissing
  unnamed := by
    intro own henabled hown hlevel
    unfold Session.log
    rw [if_neg (Int.not_lt.mpr henabled), callFields_eq_ok hnodup hown]
    simp only [hlevel, Bool.false_eq_true, if_false]
  reserved := by
    intro own henabled hown hlevel htaken
    obtain ⟨name, hbound, hreserved⟩ := htaken
    unfold Session.log
    rw [if_neg (Int.not_lt.mpr henabled), callFields_eq_ok hnodup hown]
    simp only [hlevel, if_true]
    cases hfirst : reservedAmong (Fields.settled (adapter.fields ++ own)) with
    | none =>
      exact absurd hreserved (reservedAmong_eq_none_iff.mp hfirst name (mem_boundNames.mpr hbound))
    | some first =>
      obtain ⟨hmem, hfirst'⟩ := mem_of_reservedAmong hfirst
      exact ⟨first, mem_boundNames.mp hmem, hfirst', rfl⟩
  line := by
    intro own henabled hown hlevel hfree text htext
    rw [session.log_of_free origin hnodup template arguments failure henabled hown hlevel hfree,
      hformat, written_line htext]
  no_line := by
    intro own henabled hown hlevel hfree fault hfault
    rw [session.log_of_free origin hnodup template arguments failure henabled hown hlevel hfree,
      hformat, written_nothing hfault]
  exists_line := fun own hlevel => exists_callLine_iff hlevel

/-- A session with an adapter has been prepared, so it has the one handler. -/
theorem Session.exists_format (origin : Origin) {steps : List Step} {place : Nat}
    {adapter : Adapter} (h : (Session.after {} origin steps).adapters[place]? = some adapter) :
    ∃ format, (Session.after {} origin steps).formats = [format] := by
  obtain ⟨lineage, hdescends, -⟩ := Session.exists_descends origin h
  obtain ⟨before, level, json, version, logger, rest, rfl, hrest⟩ :=
    exists_last_preparation hdescends.exists_preparation
  exact ⟨_, (Session.after_preparation {} origin before level json version logger hrest).1⟩

/-- Every call of a session writes what it should, whatever calls come before it and after it. A
call that logs nothing writes nothing. A log call is answered by the handler and the least level
that the session has then, and leaves the session as it is. -/
theorem call_writes_once (origin : Origin) (before : List Step) (step : Step) (rest : List Step) :
    let session := Session.after {} origin before
    ∃ next outcome,
      (Session.run origin {} (before ++ step :: rest))[before.length]? = some (next, outcome) ∧
        (step.isLog = false → writtenBy outcome = "") ∧
        ∀ (place : Nat) (level : Int) (template : String) (arguments : Arguments) (extra : Extra)
          (failure : Option Failure) (adapter : Adapter),
          step = .log place level template arguments extra failure →
          session.adapters[place]? = some adapter →
          next = session ∧ ∃ format, session.formats = [format] ∧
            Answered session.threshold format origin adapter level template arguments extra failure
              outcome := by
  intro session
  refine ⟨(session.step origin step).1, (session.step origin step).2,
    Session.run_at {} origin before step rest, session.step_writes origin, ?_⟩
  intro place level template arguments extra failure adapter hstep hadapter
  subst hstep
  obtain ⟨format, hformat⟩ := Session.exists_format origin hadapter
  obtain ⟨lineage, -, rfl⟩ := Session.exists_descends origin hadapter
  refine ⟨session.step_log origin place level template arguments extra failure, format, hformat, ?_⟩
  rw [Session.step_log_outcome origin hadapter]
  exact Session.log_answered origin hformat (Fields.nodup_settled _) level template arguments extra
    failure

/-- A call on an adapter of the first preparation, after the second one. -/
theorem call_writes_once_rehearsed :
    (Session.after {} {} rehearsal).adapters[1]? =
        some ⟨"kubeip", [("version", .text "1"), ("node", .text "a")]⟩ ∧
      (Session.run {} {} (rehearsal ++ .log 1 20 "hi %s" (.positional [.text "bob"])
          (.given [("node", .text "b"), ("zone", .text "z")]) none :: epilogue))[5]? =
        some (Session.after {} {} rehearsal,
          .ok "1970-01-01 00:00:00,000 INFO     [:0] hi bob node=b version=1 zone=z\n") := by
  have hadapter : (Session.after {} {} rehearsal).adapters[1]? =
      some ⟨"kubeip", [("version", .text "1"), ("node", .text "a")]⟩ := by rfl
  refine ⟨hadapter, ?_⟩
  obtain ⟨next, outcome, hat, -, hlog⟩ := call_writes_once {} rehearsal
    (.log 1 20 "hi %s" (.positional [.text "bob"])
      (.given [("node", .text "b"), ("zone", .text "z")]) none) epilogue
  obtain ⟨rfl, format, hformat, hanswered⟩ := hlog _ _ _ _ _ _ _ rfl hadapter
  have htext : format = .text := by
    have hprepared : (Session.after {} {} rehearsal).formats = [.text] := by rfl
    rw [hprepared] at hformat
    exact (List.singleton_inj.mp hformat).symm
  subst htext
  have hline : Format.text.line none (callRecord {} ⟨"kubeip",
      [("version", .text "1"), ("node", .text "a")]⟩ 20 "hi %s" (.positional [.text "bob"])
      [("node", .text "b"), ("zone", .text "z")] none) =
      .ok "1970-01-01 00:00:00,000 INFO     [:0] hi bob node=b version=1 zone=z" := by
    decide +kernel
  have hwritten := hanswered.line [("node", .text "b"), ("zone", .text "z")] (by decide) rfl
    (by decide +kernel) (by decide) _ hline
  rw [hwritten] at hat
  exact hat

/-- A call on an enabled level that binds no reserved name and whose template can be filled in, and
that yet writes nothing: a field of it hides the message of its record. -/
theorem call_hides_message :
    let session := Session.after {} {} [.prepare (some "info") false (.text "1") "kubeip"]
    let fields : Fields := [("getMessage", .text "x")]
    session.threshold ≤ 20 ∧ session.formats = [.text] ∧
      session.adapters[0]? = some ⟨"kubeip", [("version", .text "1")]⟩ ∧
      (∀ name ∈ boundNames ⟨"kubeip", [("version", .text "1")]⟩ fields, name ∉ reservedNames) ∧
      Template.fill "hi" .none = .ok "hi" ∧
      (session.step {} (.log 0 20 "hi" .none (.given fields) none)).2 = .ok "" := by
  refine ⟨by decide, by rfl, by rfl, by decide, by rfl, ?_⟩
  decide +kernel

end NodeAgent.Log
