import NodeAgent.Proofs.Settings.Precedence
import NodeAgent.Proofs.Settings.Validity
/-!
Settings that were resolved once are resolved to themselves when they are given as flags: the home
directory is put in once, blanks are trimmed once, a default is taken once, and every check passes
what it has passed. Nothing in the environment replaces an empty text or nought that is given; the
environment only turns on switches that are off.

Main results: `expandHome_eq_or_not_home`, a home that is put in once; `loadAt_asFlags`, the second
resolution as one equation; `resolved_settings_stand_iff`, when it changes nothing.
-/

namespace NodeAgent

/-! ## Paths -/

namespace Path

/-- Whether a path begins with the mark of a home directory. -/
def BeginsAtHome (path : String) : Prop := path.toList.head? = some '~'

theorem homeOwner_of_not_home {path : String} (h : ¬BeginsAtHome path) : homeOwner path = [] := by
  unfold homeOwner
  split
  · rename_i hpath
    exact absurd (congrArg List.head? hpath) h
  · rfl

theorem expandHome_of_not_home {homes : Homes} {path : String} (h : ¬BeginsAtHome path) :
    expandHome homes path = path := by
  unfold expandHome
  split
  · rename_i hpath
    exact absurd (congrArg List.head? hpath) h
  · rfl

/-- A home directory in front of what stands behind the name of its owner begins as the directory
does, or with the slash. -/
theorem head?_home_append {directory : String} (hdirectory : ¬BeginsAtHome directory)
    (behind : List Char) :
    (Text.dropTrailing (· == '/') directory.toList ++
      behind.dropWhile (· != '/')).head? ≠ some '~' := by
  cases hkept : Text.dropTrailing (· == '/') directory.toList with
  | nil =>
    cases hrest : behind.dropWhile (· != '/') with
    | nil => simp
    | cons c rest =>
      have hc : c = '/' := by
        have hhead := List.head?_dropWhile_not (· != '/') behind
        rw [hrest] at hhead
        simpa using hhead
      simp [hc]
  | cons c kept =>
    have hfront : Text.dropTrailing (· == '/') directory.toList <+: directory.toList := by
      rw [← List.reverse_suffix, Text.dropTrailing, List.reverse_reverse]
      exact List.dropWhile_suffix _
    obtain ⟨dropped, happend⟩ := hfront
    rw [hkept] at happend
    rw [BeginsAtHome, ← happend] at hdirectory
    exact hdirectory

/-- Whether no home directory begins with the mark of one. -/
def Homes.Settled (homes : Homes) : Prop :=
  ∀ owner directory, homes.of owner = some directory → ¬BeginsAtHome directory

/-- A path in which a home directory was put in begins in no home, unless nothing was put in. -/
theorem expandHome_eq_or_not_home {homes : Homes} (settled : homes.Settled) (path : String) :
    expandHome homes path = path ∨ ¬BeginsAtHome (expandHome homes path) := by
  unfold expandHome
  split
  · rename_i rest hpath
    split
    · rename_i directory hdirectory
      have hhead := head?_home_append (settled _ directory hdirectory) rest
      refine .inr ?_
      dsimp only
      split
      · rw [BeginsAtHome]
        decide
      · rwa [BeginsAtHome, String.toList_ofList]
    · exact .inl rfl
  · exact .inl rfl

end Path

namespace Settings

/-! ## Settings as flags -/

/-- The flags that give every setting the value that it has. -/
def asFlags (settings : Settings) : Flags where
  nodeName := settings.value .nodeName
  kubeconfig := settings.value .kubeconfig
  retryInterval := settings.value .retryInterval
  retryAttempts := settings.value .retryAttempts
  logLevel := settings.value .logLevel
  json := settings.value .json
  developMode := settings.value .developMode
  healthPort := settings.value .healthPort

theorem readPath_text (homes : Path.Homes) (path : String) :
    readPath homes (.text path) =
      if '\x00' ∈ Path.homeOwner path then .error .userUnaskable
      else .ok (Path.expandHome homes path) := by
  unfold readPath
  split
  · simp
  · rename_i hgiven
    have hempty : path = "" := by simpa [Datum.isGiven] using hgiven
    rw [hempty]
    rfl

/-- A path that comes out is the empty one, or one in which the home directory was put in. -/
theorem readPath_eq_ok {homes : Path.Homes} {value : Datum} {path : String}
    (h : readPath homes value = .ok path) :
    path = "" ∨ ∃ given, '\x00' ∉ Path.homeOwner given ∧ path = Path.expandHome homes given := by
  unfold readPath at h
  split at h
  · cases value with
    | text given =>
      dsimp only at h
      split at h
      · exact nomatch h
      · rename_i howner
        exact .inr ⟨given, by simpa using howner, (Except.ok.inj h).symm⟩
    | _ => exact nomatch h
  · exact .inl (Except.ok.inj h).symm

/-- A path that came out is read as it is. -/
theorem readPath_again {homes : Path.Homes} {value : Datum} {path : String}
    (settled : homes.Settled) (h : readPath homes value = .ok path) :
    readPath homes (.text path) = .ok path := by
  rw [readPath_text]
  obtain rfl | ⟨given, howner, rfl⟩ := readPath_eq_ok h
  · rfl
  · obtain heq | hnot := Path.expandHome_eq_or_not_home settled given
    · rw [heq, if_neg howner, heq]
    · rw [Path.homeOwner_of_not_home hnot, Path.expandHome_of_not_home hnot]
      exact if_neg (by simp)

theorem Valid.trimmed {settings : Settings} (h : Valid settings) :
    Text.trimBlank settings.nodeName = settings.nodeName := by
  have hback : Text.Stops Text.isBlank settings.nodeName.toList.reverse := by
    intro c hc
    rw [List.head?_reverse] at hc
    exact h.name.2 c hc
  rw [Text.trimBlank, Text.dropEnds_of_stops h.name.1 hback, String.ofList_toList]

/-- Valid settings whose path is read as it is come out as they were given, except that the
environment may turn on the switches that are off. -/
theorem loadAt_asFlags {homes : Path.Homes} {settings : Settings} (hvalid : Valid settings)
    (hpath : readPath homes (.text settings.kubeconfigPath) = .ok settings.kubeconfigPath)
    (env : Environment) :
    loadAt homes settings.asFlags env = .ok
      { settings with
        logJson := settings.logJson || isOn (env "LOG_JSON")
        developMode := settings.developMode || isOn (env "DEV_MODE") } := by
  refine loadAt_eq_ok_iff.mpr
    { path := hpath
      interval := ?_
      attempts := ?_
      port := ?_
      name := ⟨settings.nodeName, ?_, hvalid.trimmed.symm⟩
      level := ?_
      json := rfl
      develop := rfl }
  · rw [resolveInterval_eq]
    exact (checked_eq_ok_iff ..).mpr ⟨rfl, hvalid.interval⟩
  · rw [resolveAttempts_eq]
    exact (checked_eq_ok_iff ..).mpr ⟨rfl, hvalid.attempts⟩
  · rw [resolvePort_eq]
    exact (checked_eq_ok_iff ..).mpr ⟨rfl, hvalid.port⟩
  · refine ((Ordinary.text settings.nodeName).readTextOr "").trans ?_
    split
    · rfl
    · rename_i hgiven
      have hempty : settings.nodeName = "" := by simpa [Datum.isGiven] using hgiven
      rw [hempty]
  · refine ((Ordinary.text settings.logLevel).readTextOr _).trans ?_
    exact congrArg Except.ok (if_pos (by simpa [Datum.isGiven] using hvalid.level))

/-- Settings that were resolved from any flags and environment are resolved to themselves, in every
environment that turns on no switch which is off in them. -/
theorem resolved_settings_stand_iff {homes : Path.Homes} {flags : Flags}
    {env again : Environment} {settings : Settings}
    (settled : homes.Settled) (h : loadAt homes flags env = .ok settings) :
    loadAt homes settings.asFlags again = .ok settings ↔
      (isOn (again "LOG_JSON") = true → settings.logJson = true) ∧
        (isOn (again "DEV_MODE") = true → settings.developMode = true) := by
  have hresolved := loadAt_eq_ok_iff.mp h
  have hpath := readPath_again settled hresolved.path
  rw [loadAt_asFlags hresolved.valid hpath, Except.ok.injEq]
  cases settings with
  | mk _ _ _ _ _ logJson developMode _ =>
    simp only [Settings.mk.injEq, true_and, and_true, Bool.or_eq_left_iff_imp]

/-- A path whose home is put in, a name that is blank, no attempts, and lines in JSON: an
environment that tells every setting otherwise changes none of them. -/
theorem resolved_settings_stand_iff_told_otherwise :
    let homes : Path.Homes :=
      { environment := some "/home/operator/"
        named := fun name => if name = "root" then some "/root" else none }
    let flags : Flags := { kubeconfig := .text "~/kube", retryAttempts := .int 0 }
    let env : Environment := fun name =>
      if name = "CLUSTER_NAME" then some "  " else if name = "LOG_JSON" then some "yes" else none
    let settings : Settings :=
      { kubeconfigPath := "/home/operator/kube", retryAttempts := 0, logJson := true }
    let again : Environment := fun name => if name = "DEV_MODE" then some "off" else some "1"
    homes.Settled ∧ loadAt homes flags env = .ok settings ∧
      loadAt homes settings.asFlags again = .ok settings := by
  intro homes flags env settings again
  have settled : homes.Settled := by
    intro owner directory h
    have hdirectory : directory = "/home/operator/" ∨ directory = "/root" := by
      unfold Path.Homes.of at h
      split at h
      · exact .inl (Option.some.inj h).symm
      · refine .inr ?_
        by_cases howner : String.ofList owner = "root"
        · exact (Option.some.inj ((if_pos howner).symm.trans h)).symm
        · exact nomatch (if_neg howner).symm.trans h
    rw [Path.BeginsAtHome]
    rcases hdirectory with rfl | rfl <;> decide
  have hload : loadAt homes flags env = .ok settings := loadAt_eq_ok_iff.mpr
    { path := by rfl
      interval := by rfl
      attempts := by rfl
      port := by rfl
      name := ⟨"  ", by rfl, by rfl⟩
      level := by rfl
      json := by rfl
      develop := by rfl }
  have hswitches : (isOn (again "LOG_JSON") = true → settings.logJson = true) ∧
      (isOn (again "DEV_MODE") = true → settings.developMode = true) := by decide
  exact ⟨settled, hload, (resolved_settings_stand_iff settled hload).mpr hswitches⟩

end Settings

end NodeAgent
