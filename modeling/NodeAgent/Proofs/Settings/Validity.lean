import NodeAgent.Proofs.Datum
import NodeAgent.Proofs.Number.Whole
import NodeAgent.Proofs.Settings.Resolution
import NodeAgent.Proofs.Text.Run
/-!
Settings come out of ordinary flags and of the environment exactly if the wait between attempts,
their number and the port make sense, and are valid then. Otherwise they are refused, and fail in no
other way.

Main results: `resolveInterval_eq_ok_iff` and its siblings, one setting each;
`settings_valid_or_refused`, the settings as a whole.
-/

namespace NodeAgent.Settings

open Number (tenTo digitLimit isMargin Spells)
open Text (dropEnds isBlank)

/-! ## Flags and environment -/

/-- A value that is missing, a text, a whole number that can be written, or true or false. -/
inductive Ordinary : Datum → Prop
  | null : Ordinary .null
  | text (value : String) : Ordinary (.text value)
  | int (value : Int) (h : value.natAbs < tenTo digitLimit) : Ordinary (.int value)
  | bool (value : Bool) : Ordinary (.bool value)

/-- A text that a system takes for a path or for a value of the environment. -/
def NulFree (value : String) : Prop := '\x00' ∉ value.toList

/-- Flags as a command line or a caller gives them. -/
structure OrdinaryFlags (flags : Flags) : Prop where
  nodeName : Ordinary flags.nodeName
  kubeconfig : flags.kubeconfig = .null ∨ ∃ path, NulFree path ∧ flags.kubeconfig = .text path
  retryInterval : Ordinary flags.retryInterval ∨ ∃ span, flags.retryInterval = .duration span
  retryAttempts : Ordinary flags.retryAttempts
  logLevel : Ordinary flags.logLevel
  json : Ordinary flags.json
  developMode : Ordinary flags.developMode
  healthPort : Ordinary flags.healthPort

/-! ## What values denote -/

/-- The wait that a value denotes. -/
inductive IntervalOf : Datum → Duration → Prop
  | default {value : Datum} (h : isUnset value = true) :
    IntervalOf value ({} : Settings).retryInterval
  | span (value : Duration) : IntervalOf (.duration value) value
  | spelled {value : Datum} {duration : Duration} (hvalue : Ordinary value)
    (hset : isUnset value = false) (hread : readDuration value.plain = .ok duration) :
    IntervalOf value duration

/-- The whole number that a value denotes, `fallback` being the default. -/
inductive CountOf (fallback : Int) : Datum → Int → Prop
  | default {value : Datum} (h : isUnset value = true) : CountOf fallback value fallback
  | int (value : Int) : CountOf fallback (.int value) value
  | bool (value : Bool) : CountOf fallback (.bool value) (if value then 1 else 0)
  | text {value : String} {n : Int} (h : Spells (dropEnds isMargin value.toList) n) :
    CountOf fallback (.text value) n

/-- Flags and environment that make sense. -/
structure Sensible (flags : Flags) (env : Environment) : Prop where
  interval : ∃ duration, IntervalOf (pick flags.retryInterval env "RETRY_INTERVAL") duration ∧
    0 < duration.micros
  attempts : ∃ n, CountOf ({} : Settings).retryAttempts
    (pick flags.retryAttempts env "RETRY_ATTEMPTS") n ∧ 0 ≤ n
  port : ∃ n, CountOf ({} : Settings).healthPort (pick flags.healthPort env "HEALTH_PORT") n ∧
    0 ≤ n ∧ n ≤ 65535

/-- Settings that the agent can work with. -/
structure Valid (settings : Settings) : Prop where
  interval : 0 < settings.retryInterval.micros
  attempts : 0 ≤ settings.retryAttempts
  port : 0 ≤ settings.healthPort ∧ settings.healthPort ≤ 65535
  name : (∀ c ∈ settings.nodeName.toList.head?, isBlank c = false) ∧
    ∀ c ∈ settings.nodeName.toList.getLast?, isBlank c = false
  level : settings.logLevel ≠ ""

/-! ## Ordinary values -/

theorem Ordinary.isWritable {value : Datum} (h : Ordinary value) : value.isWritable = true := by
  cases h with
  | int value h => simpa [Datum.isWritable] using h
  | _ => rfl

theorem Ordinary.pick {flag : Datum} (h : Ordinary flag) (env : Environment) (name : String) :
    Ordinary (pick flag env name) := by
  cases h with
  | null =>
    cases hname : env name with
    | none => simpa [Settings.pick, hname] using Ordinary.null
    | some value => simpa [Settings.pick, hname] using Ordinary.text value
  | text value => exact .text value
  | int value h => exact .int value h
  | bool value => exact .bool value

theorem Ordinary.readText {value : Datum} (h : Ordinary value) : readText value = .ok value.plain :=
  if_pos h.isWritable

theorem Ordinary.readTextOr {value : Datum} (h : Ordinary value) (fallback : String) :
    readTextOr fallback value = .ok (if value.isGiven then value.plain else fallback) := by
  unfold Settings.readTextOr
  split
  · rw [h.readText]
  · rfl

/-- A text that is read is empty only if the default is. -/
theorem readTextOr_ne_empty {fallback text : String} {value : Datum} (hfallback : fallback ≠ "")
    (h : readTextOr fallback value = .ok text) : text ≠ "" := by
  unfold Settings.readTextOr at h
  split at h
  · rename_i hgiven
    unfold Settings.readText at h
    split at h
    · rw [← Except.ok.inj h]
      exact Datum.plain_ne_empty hgiven
    · exact nomatch h
  · rw [← Except.ok.inj h]
    exact hfallback

/-- The owner of a home is named inside of the path. -/
theorem mem_of_mem_homeOwner {path : String} {c : Char} (h : c ∈ Path.homeOwner path) :
    c ∈ path.toList := by
  unfold Path.homeOwner at h
  split at h
  · rename_i rest hpath
    rw [hpath]
    exact List.mem_cons_of_mem _ ((List.takeWhile_prefix _).subset h)
  · exact nomatch h

/-! ## Refusals -/

/-- Whether a computation fails by refusals alone. -/
def OrRefused {α : Type} (x : Except Failure α) : Prop :=
  FailsOnly (fun failure => ∃ fault, failure = .refused fault) x

namespace OrRefused

variable {α β : Type}

theorem ok (a : α) : OrRefused (.ok a) := FailsOnly.ok a

theorem outcome {fault : Fault} (h : fault.quoted.isWritable = true) :
    OrRefused (.error fault.outcome : Except Failure α) :=
  FailsOnly.error ⟨fault, if_pos h⟩

theorem bind {x : Except Failure α} {f : α → Except Failure β} (hx : OrRefused x)
    (hf : ∀ a, x = .ok a → OrRefused (f a)) : OrRefused (x >>= f) :=
  FailsOnly.bind hx hf

end OrRefused

section Checked

variable {α : Type} (x : Except Failure α) (p : α → Prop) [DecidablePred p] (fault : α → Fault)

/-- A value that is refused if it does not pass a check. -/
def checked : Except Failure α := x >>= fun a => if p a then .ok a else .error (fault a).outcome

theorem checked_eq_ok_iff {a : α} : checked x p fault = .ok a ↔ x = .ok a ∧ p a := by
  rw [checked, bind_eq_ok_iff]
  constructor
  · rintro ⟨found, hfound, hchecked⟩
    split at hchecked
    · rename_i hp
      obtain rfl := Except.ok.inj hchecked
      exact ⟨hfound, hp⟩
    · exact nomatch hchecked
  · rintro ⟨hfound, hp⟩
    exact ⟨a, hfound, if_pos hp⟩

theorem checked_refused (hx : OrRefused x)
    (hfault : ∀ a, x = .ok a → ¬p a → (fault a).quoted.isWritable = true) :
    OrRefused (checked x p fault) := by
  refine hx.bind fun a ha => ?_
  split
  · exact .ok a
  · rename_i hp
    exact .outcome (hfault a ha hp)

end Checked

/-! ## The wait -/

/-- A refused duration quotes its text or nothing. -/
theorem readDuration_quoted {value : String} {fault : Fault}
    (h : readDuration value = .error fault) : fault.quoted.isWritable = true := by
  unfold readDuration at h
  split at h
  · exact nomatch h
  all_goals
    obtain rfl := Except.error.inj h
    rfl

theorem Ordinary.readInterval {value : Datum} (h : Ordinary value) :
    readInterval value =
      if isUnset value then .ok ({} : Settings).retryInterval
      else (readDuration value.plain).mapError Fault.outcome := by
  have htext := h.readText
  cases h with
  | _ => simp only [Settings.readInterval, htext]

theorem IntervalOf.read {value : Datum} {duration : Duration} (h : IntervalOf value duration) :
    readInterval value = .ok duration := by
  cases h with
  | default hset =>
    cases value with
    | null => rfl
    | text spelling => simp only [readInterval, hset, if_true]
    | _ => simp [isUnset] at hset
  | span => rfl
  | spelled hvalue hset hread =>
    rw [hvalue.readInterval, hset, hread]
    rfl

section Interval

variable {value : Datum} (h : Ordinary value ∨ ∃ span, value = .duration span)

include h

theorem readInterval_eq_ok_iff {duration : Duration} :
    readInterval value = .ok duration ↔ IntervalOf value duration := by
  refine ⟨fun hread => ?_, IntervalOf.read⟩
  obtain hvalue | ⟨span, rfl⟩ := h
  · rw [hvalue.readInterval] at hread
    split at hread
    · rename_i hset
      rw [← Except.ok.inj hread]
      exact .default hset
    · rename_i hset
      cases hspelled : readDuration value.plain with
      | ok found =>
        rw [hspelled] at hread
        rw [← Except.ok.inj hread]
        exact .spelled hvalue (by simpa using hset) hspelled
      | error fault =>
        rw [hspelled] at hread
        exact nomatch hread
  · rw [← Except.ok.inj hread]
    exact .span span

theorem readInterval_refused : OrRefused (readInterval value) := by
  obtain hvalue | ⟨span, rfl⟩ := h
  · rw [hvalue.readInterval]
    split
    · exact .ok _
    · cases hread : readDuration value.plain with
      | ok duration => exact .ok duration
      | error fault => exact .outcome (readDuration_quoted hread)
  · exact .ok span

end Interval

/-! ## Counts -/

section Count

variable {value : Datum} (h : Ordinary value) (setting : String) (fallback : Int)

theorem spells_nil {n : Int} : ¬Spells [] n := by
  intro h
  cases h with
  | unsigned h => exact nomatch h

theorem readCount_text (spelling : String) (hset : isUnset (.text spelling) = false) :
    readCount setting fallback (.text spelling) =
      match Number.ofText? spelling with
      | some n => .ok n
      | none => .error (Fault.outcome (.notAnInteger setting (.text spelling) .badValue)) := by
  rw [readCount, if_neg (by simp [hset])]
  rfl

theorem CountOf.read {n : Int} (h : CountOf fallback value n) :
    readCount setting fallback value = .ok n := by
  cases h with
  | default hset => exact if_pos hset
  | int => rfl
  | bool => rfl
  | @text spelling _ hspells =>
    -- An empty text stands for the default, but it spells no number either.
    cases hset : isUnset (.text spelling) with
    | true =>
      have hempty : spelling = "" := by simpa [isUnset] using hset
      rw [hempty] at hspells
      exact absurd hspells spells_nil
    | false =>
      rw [readCount_text setting fallback spelling hset, Number.ofText?_eq_some_iff.mpr hspells]

include h

theorem readCount_eq_ok_iff {n : Int} :
    readCount setting fallback value = .ok n ↔ CountOf fallback value n := by
  refine ⟨fun hread => ?_, CountOf.read setting fallback⟩
  cases hset : isUnset value with
  | true =>
    rw [readCount, if_pos hset] at hread
    rw [← Except.ok.inj hread]
    exact .default hset
  | false =>
    cases h with
    | null => simp [isUnset] at hset
    | text spelling =>
      rw [readCount_text setting fallback spelling hset] at hread
      cases htext : Number.ofText? spelling with
      | none => simp [htext] at hread
      | some m =>
        simp only [htext, Except.ok.injEq] at hread
        rw [← hread]
        exact .text (Number.ofText?_eq_some_iff.mp htext)
    | int m _ =>
      rw [← Except.ok.inj hread]
      exact .int m
    | bool b =>
      rw [← Except.ok.inj hread]
      exact .bool b

theorem readCount_refused : OrRefused (readCount setting fallback value) := by
  cases hset : isUnset value with
  | true =>
    rw [readCount, if_pos hset]
    exact .ok fallback
  | false =>
    cases h with
    | null => simp [isUnset] at hset
    | text spelling =>
      rw [readCount_text setting fallback spelling hset]
      cases Number.ofText? spelling with
      | none => exact .outcome rfl
      | some n => exact .ok n
    | int n _ => exact .ok n
    | bool b => exact .ok _

/-- A count that is refused can be written. -/
theorem CountOf.isWritable {n : Int} (hcount : CountOf fallback value n) (hfallback : n ≠ fallback)
    (hn : n < 0 ∨ 1 < n) : (Datum.int n).isWritable = true := by
  have hsmall : n.natAbs < tenTo digitLimit := by
    cases hcount with
    | default => exact absurd rfl hfallback
    | int =>
      cases h with
      | int _ hn => exact hn
    | bool b => cases b <;> simp at hn
    | text hspells => exact hspells.natAbs_lt
  simpa [Datum.isWritable] using hsmall

end Count

/-! ## Settings one by one -/

section

variable {homes : Path.Homes} {flags : Flags} {env : Environment}

theorem resolveInterval_eq :
    resolveInterval flags env =
      checked (readInterval (pick flags.retryInterval env "RETRY_INTERVAL")) (0 < ·.micros)
        fun _ => .intervalNotPositive := by
  unfold resolveInterval checked
  cases readInterval (pick flags.retryInterval env "RETRY_INTERVAL") with
  | error failure => rfl
  | ok interval =>
    change (if interval.micros ≤ 0 then _ else _) = if 0 < interval.micros then _ else _
    simp only [← Int.not_lt, ite_not]

theorem resolveAttempts_eq :
    resolveAttempts flags env =
      checked (readCount "retry-attempts" ({} : Settings).retryAttempts
        (pick flags.retryAttempts env "RETRY_ATTEMPTS")) (0 ≤ ·) .attemptsNegative := by
  unfold resolveAttempts checked
  cases readCount "retry-attempts" ({} : Settings).retryAttempts
      (pick flags.retryAttempts env "RETRY_ATTEMPTS") with
  | error failure => rfl
  | ok n =>
    change (if n < 0 then _ else _) = if 0 ≤ n then _ else _
    simp only [← Int.not_le, ite_not]

theorem resolvePort_eq :
    resolvePort flags env =
      checked (readCount "health-port" ({} : Settings).healthPort
        (pick flags.healthPort env "HEALTH_PORT")) (fun n => 0 ≤ n ∧ n ≤ 65535)
        .portOutOfRange := by
  unfold resolvePort checked
  cases readCount "health-port" ({} : Settings).healthPort
      (pick flags.healthPort env "HEALTH_PORT") with
  | error failure => rfl
  | ok n => rfl

variable (hflags : OrdinaryFlags flags)

include hflags

theorem interval_ordinary :
    Ordinary (pick flags.retryInterval env "RETRY_INTERVAL") ∨
      ∃ span, pick flags.retryInterval env "RETRY_INTERVAL" = .duration span := by
  obtain h | ⟨span, h⟩ := hflags.retryInterval
  · exact .inl (h.pick env _)
  · exact .inr ⟨span, by rw [h]; rfl⟩

theorem resolveInterval_eq_ok_iff {duration : Duration} :
    resolveInterval flags env = .ok duration ↔
      IntervalOf (pick flags.retryInterval env "RETRY_INTERVAL") duration ∧
        0 < duration.micros := by
  rw [resolveInterval_eq, checked_eq_ok_iff, readInterval_eq_ok_iff (interval_ordinary hflags)]

theorem resolveAttempts_eq_ok_iff {n : Int} :
    resolveAttempts flags env = .ok n ↔
      CountOf ({} : Settings).retryAttempts (pick flags.retryAttempts env "RETRY_ATTEMPTS") n ∧
        0 ≤ n := by
  rw [resolveAttempts_eq, checked_eq_ok_iff, readCount_eq_ok_iff (hflags.retryAttempts.pick env _)]

theorem resolvePort_eq_ok_iff {n : Int} :
    resolvePort flags env = .ok n ↔
      CountOf ({} : Settings).healthPort (pick flags.healthPort env "HEALTH_PORT") n ∧
        0 ≤ n ∧ n ≤ 65535 := by
  rw [resolvePort_eq, checked_eq_ok_iff, readCount_eq_ok_iff (hflags.healthPort.pick env _)]

theorem resolveInterval_refused : OrRefused (resolveInterval flags env) := by
  rw [resolveInterval_eq]
  exact checked_refused _ _ _ (readInterval_refused (interval_ordinary hflags)) fun _ _ _ => rfl

theorem resolveAttempts_refused : OrRefused (resolveAttempts flags env) := by
  have hvalue := hflags.retryAttempts.pick env "RETRY_ATTEMPTS"
  rw [resolveAttempts_eq]
  refine checked_refused _ _ _ (readCount_refused hvalue _ _) fun n hn hnegative => ?_
  have hcount := (readCount_eq_ok_iff hvalue _ _).mp hn
  refine hcount.isWritable hvalue _ ?_ (.inl (by omega))
  rintro rfl
  exact hnegative (by decide)

theorem resolvePort_refused : OrRefused (resolvePort flags env) := by
  have hvalue := hflags.healthPort.pick env "HEALTH_PORT"
  rw [resolvePort_eq]
  refine checked_refused _ _ _ (readCount_refused hvalue _ _) fun n hn hrange => ?_
  have hcount := (readCount_eq_ok_iff hvalue _ _).mp hn
  refine hcount.isWritable hvalue _ ?_ (by omega)
  rintro rfl
  exact hrange (by decide)

/-- The path of the credentials is always read. -/
theorem readPath_ok (henv : ∀ name value, env name = some value → NulFree value) :
    ∃ path, readPath homes (pick flags.kubeconfig env "KUBECONFIG") = .ok path := by
  have hvalue : pick flags.kubeconfig env "KUBECONFIG" = .null ∨
      ∃ path, NulFree path ∧ pick flags.kubeconfig env "KUBECONFIG" = .text path := by
    obtain h | ⟨path, hpath, h⟩ := hflags.kubeconfig
    · cases hvariable : env "KUBECONFIG" with
      | none => exact .inl (by simp [pick, h, hvariable])
      | some path => exact .inr ⟨path, henv _ _ hvariable, by simp [pick, h, hvariable]⟩
    · exact .inr ⟨path, hpath, by rw [h]; rfl⟩
  obtain h | ⟨path, hpath, h⟩ := hvalue
  · exact ⟨"", by rw [h]; rfl⟩
  · rw [h]
    unfold readPath
    split
    · have howner : '\x00' ∉ Path.homeOwner path := fun hmem => hpath (mem_of_mem_homeOwner hmem)
      exact ⟨_, if_neg (by simpa using howner)⟩
    · exact ⟨"", rfl⟩

end

/-! ## All settings -/

section

variable {homes : Path.Homes} {flags : Flags} {env : Environment} {settings : Settings}

theorem Resolved.sensible (h : Resolved homes flags env settings) (hflags : OrdinaryFlags flags) :
    Sensible flags env where
  interval := ⟨_, (resolveInterval_eq_ok_iff hflags).mp h.interval⟩
  attempts := ⟨_, (resolveAttempts_eq_ok_iff hflags).mp h.attempts⟩
  port := ⟨_, (resolvePort_eq_ok_iff hflags).mp h.port⟩

/-- Settings that come out are valid. -/
theorem Resolved.valid (h : Resolved homes flags env settings) : Valid settings where
  interval := by
    have hinterval := h.interval
    rw [resolveInterval_eq, checked_eq_ok_iff] at hinterval
    exact hinterval.2
  attempts := by
    have hattempts := h.attempts
    rw [resolveAttempts_eq, checked_eq_ok_iff] at hattempts
    exact hattempts.2
  port := by
    have hport := h.port
    rw [resolvePort_eq, checked_eq_ok_iff] at hport
    exact hport.2
  name := by
    obtain ⟨name, -, hname⟩ := h.name
    rw [hname, Text.trimBlank, String.toList_ofList]
    refine ⟨Text.stops_dropEnds isBlank _, fun c hc => ?_⟩
    rw [← List.head?_reverse] at hc
    exact Text.stops_dropEnds_reverse isBlank _ c hc
  level := readTextOr_ne_empty (by decide) h.level

variable (hflags : OrdinaryFlags flags)
  (henv : ∀ name value, env name = some value → NulFree value)

include hflags henv

theorem loads_of_sensible (h : Sensible flags env) :
    ∃ settings, loadAt homes flags env = .ok settings := by
  obtain ⟨path, hpath⟩ :
      ∃ path, readPath homes (pick flags.kubeconfig env "KUBECONFIG") = .ok path :=
    readPath_ok hflags henv
  obtain ⟨interval, hinterval⟩ := h.interval
  obtain ⟨attempts, hattempts⟩ := h.attempts
  obtain ⟨port, hport⟩ := h.port
  have hname := (hflags.nodeName.pick env "CLUSTER_NAME").readTextOr ({} : Settings).nodeName
  have hlevel := (hflags.logLevel.pick env "LOG_LEVEL").readTextOr ({} : Settings).logLevel
  unfold loadAt
  rw [hpath, (resolveInterval_eq_ok_iff hflags).mpr hinterval,
    (resolveAttempts_eq_ok_iff hflags).mpr hattempts, (resolvePort_eq_ok_iff hflags).mpr hport,
    hname, hlevel]
  exact ⟨_, rfl⟩

theorem loadAt_refused : OrRefused (loadAt homes flags env) := by
  obtain ⟨path, hpath⟩ := readPath_ok hflags henv
  unfold loadAt
  rw [hpath]
  refine (OrRefused.ok path).bind fun _ _ => ?_
  refine (resolveInterval_refused hflags).bind fun _ _ => ?_
  refine (resolveAttempts_refused hflags).bind fun _ _ => ?_
  refine (resolvePort_refused hflags).bind fun _ _ => ?_
  rw [(hflags.nodeName.pick env _).readTextOr, (hflags.logLevel.pick env _).readTextOr]
  exact .ok _

end

/-- Of ordinary flags and of the environment settings come out exactly if the wait, the attempts and
the port make sense, valid ones each time; otherwise they are refused. -/
theorem settings_valid_or_refused {homes : Path.Homes} {flags : Flags} {env : Environment}
    (hflags : OrdinaryFlags flags) (henv : ∀ name value, env name = some value → NulFree value) :
    ((∃ settings, loadAt homes flags env = .ok settings) ↔ Sensible flags env) ∧
      (¬Sensible flags env → ∃ fault, loadAt homes flags env = .error (.refused fault)) ∧
      ∀ settings, loadAt homes flags env = .ok settings → Valid settings := by
  have hloads : (∃ settings, loadAt homes flags env = .ok settings) ↔ Sensible flags env := by
    constructor
    · rintro ⟨settings, hload⟩
      exact (loadAt_eq_ok_iff.mp hload).sensible hflags
    · exact fun hsensible => loads_of_sensible hflags henv hsensible
  refine ⟨hloads, fun hinsensible => ?_, fun settings hload => ?_⟩
  · cases hload : loadAt homes flags env with
    | ok settings => exact absurd (hloads.mp ⟨settings, hload⟩) hinsensible
    | error failure =>
      obtain ⟨fault, rfl⟩ := loadAt_refused hflags henv failure hload
      exact ⟨fault, rfl⟩
  · exact (loadAt_eq_ok_iff.mp hload).valid

/-- A wait in parts, a number of attempts, and a port with blanks and an underscore. -/
theorem settings_valid_or_refused_spelled :
    let flags : Flags := { retryInterval := .text "+1h.5ms", retryAttempts := .int 7 }
    let env : Environment := fun name => if name = "HEALTH_PORT" then some " 8_080" else none
    OrdinaryFlags flags ∧ (∀ name value, env name = some value → NulFree value) ∧
      Sensible flags env ∧ ∃ settings, loadAt {} flags env = .ok settings ∧ Valid settings := by
  intro flags env
  have hflags : OrdinaryFlags flags :=
    ⟨.null, .inl rfl, .inl (.text _), .int 7 (by decide +kernel), .null, .null, .null, .null⟩
  have henv : ∀ name value, env name = some value → NulFree value := by
    intro name value h
    simp only [env, Option.ite_none_right_eq_some, Option.some.injEq] at h
    rw [← h.2, NulFree]
    decide
  have hsensible : Sensible flags env := by
    refine ⟨⟨⟨3600000500⟩, .spelled (.text _) rfl ?_, by decide⟩, ⟨7, .int 7, by decide⟩,
      ⟨8080, .text (Number.ofText?_eq_some_iff.mp (by decide +kernel)), by decide, by decide⟩⟩
    have hread : (readDuration "+1h.5ms").toOption = some ⟨3600000500⟩ := by decide +kernel
    change readDuration "+1h.5ms" = _
    cases h : readDuration "+1h.5ms" with
    | ok duration => simpa [h, Except.toOption] using hread
    | error fault => simp [h, Except.toOption] at hread
  obtain ⟨hloads, -, hvalid⟩ := settings_valid_or_refused hflags henv
  obtain ⟨settings, hload⟩ := hloads.mpr hsensible
  exact ⟨hflags, henv, hsensible, settings, hload, hvalid settings hload⟩

end NodeAgent.Settings
