import NodeAgent.CommandLine.Options
import NodeAgent.Proofs.Settings.Resolution
/-!
A flag that is given comes before the environment: whatever the environment says, the setting has
one value. The switches are apart, for a flag that turns one off leaves it to the environment. A
setting that neither tells has its default.

Main results:
* `pick_given`, `value_switch`, `value_untold`: a flag that is given, a switch, a setting that
  nothing tells of.
* `given_flag_decides_iff`: which flags decide.
* `given_flag_decides_iff_json_off`: a switch that is turned off and stays on.
-/

namespace NodeAgent

/-- The value of the environment that tells a setting. -/
def Setting.variableName : Setting → String
  | .nodeName => "CLUSTER_NAME"
  | .kubeconfig => "KUBECONFIG"
  | .retryInterval => "RETRY_INTERVAL"
  | .retryAttempts => "RETRY_ATTEMPTS"
  | .logLevel => "LOG_LEVEL"
  | .json => "LOG_JSON"
  | .developMode => "DEV_MODE"
  | .healthPort => "HEALTH_PORT"

/-- Whether a setting is turned on and off. -/
def Setting.isSwitch : Setting → Bool
  | .json | .developMode => true
  | _ => false

/-- A flag as it was given. -/
def Flags.get (flags : Flags) : Setting → Datum
  | .nodeName => flags.nodeName
  | .kubeconfig => flags.kubeconfig
  | .retryInterval => flags.retryInterval
  | .retryAttempts => flags.retryAttempts
  | .logLevel => flags.logLevel
  | .json => flags.json
  | .developMode => flags.developMode
  | .healthPort => flags.healthPort

namespace Settings

/-- The value of a setting. -/
def value (settings : Settings) : Setting → Datum
  | .nodeName => .text settings.nodeName
  | .kubeconfig => .text settings.kubeconfigPath
  | .retryInterval => .duration settings.retryInterval
  | .retryAttempts => .int settings.retryAttempts
  | .logLevel => .text settings.logLevel
  | .json => .bool settings.logJson
  | .developMode => .bool settings.developMode
  | .healthPort => .int settings.healthPort

theorem pick_given {flag : Datum} (h : flag ≠ .null) (env : Environment) (name : String) :
    pick flag env name = flag := by
  cases flag with
  | null => exact absurd rfl h
  | _ => rfl

theorem pick_untold {flag : Datum} {env : Environment} {name : String} (hflag : flag = .null)
    (henv : env name = none) : pick flag env name = .null := by
  simp [pick, hflag, henv]

section

variable {homes : Path.Homes} {flags flags₁ flags₂ : Flags} {env env₁ env₂ : Environment}
  {settings settings₁ settings₂ : Settings}

/-- Apart from the switches, a setting hangs on flags and environment by the one value that is
picked from them. -/
theorem value_congr (h₁ : Resolved homes flags₁ env₁ settings₁)
    (h₂ : Resolved homes flags₂ env₂ settings₂) {setting : Setting}
    (hswitch : setting.isSwitch = false)
    (hpick : pick (flags₁.get setting) env₁ setting.variableName =
      pick (flags₂.get setting) env₂ setting.variableName) :
    settings₁.value setting = settings₂.value setting := by
  cases setting with
  | nodeName =>
    obtain ⟨name₁, hname₁, htrim₁⟩ := h₁.name
    obtain ⟨name₂, hname₂, htrim₂⟩ := h₂.name
    have hname : name₁ = name₂ :=
      Except.ok.inj (hname₁.symm.trans ((congrArg (readTextOr _) hpick).trans hname₂))
    rw [value, value, htrim₁, htrim₂, hname]
  | kubeconfig =>
    have hpath : settings₁.kubeconfigPath = settings₂.kubeconfigPath :=
      Except.ok.inj (h₁.path.symm.trans ((congrArg (readPath homes) hpick).trans h₂.path))
    rw [value, value, hpath]
  | retryInterval =>
    have hsame : resolveInterval flags₁ env₁ = resolveInterval flags₂ env₂ := by
      simp only [Flags.get, Setting.variableName] at hpick
      rw [resolveInterval, hpick, resolveInterval]
    have hinterval := h₁.interval.symm.trans (hsame.trans h₂.interval)
    rw [value, value, Except.ok.inj hinterval]
  | retryAttempts =>
    have hsame : resolveAttempts flags₁ env₁ = resolveAttempts flags₂ env₂ := by
      simp only [Flags.get, Setting.variableName] at hpick
      rw [resolveAttempts, hpick, resolveAttempts]
    have hattempts := h₁.attempts.symm.trans (hsame.trans h₂.attempts)
    rw [value, value, Except.ok.inj hattempts]
  | logLevel =>
    have hlevel : settings₁.logLevel = settings₂.logLevel :=
      Except.ok.inj (h₁.level.symm.trans ((congrArg (readTextOr _) hpick).trans h₂.level))
    rw [value, value, hlevel]
  | healthPort =>
    have hsame : resolvePort flags₁ env₁ = resolvePort flags₂ env₂ := by
      simp only [Flags.get, Setting.variableName] at hpick
      rw [resolvePort, hpick, resolvePort]
    have hport := h₁.port.symm.trans (hsame.trans h₂.port)
    rw [value, value, Except.ok.inj hport]
  | json => simp [Setting.isSwitch] at hswitch
  | developMode => simp [Setting.isSwitch] at hswitch

theorem value_switch (h : Resolved homes flags env settings) {setting : Setting}
    (hswitch : setting.isSwitch = true) :
    settings.value setting =
      .bool (resolveSwitch (flags.get setting) env setting.variableName) := by
  cases setting with
  | json => rw [value, h.json]; rfl
  | developMode => rw [value, h.develop]; rfl
  | _ => simp [Setting.isSwitch] at hswitch

/-- Without flags and without an environment the settings are the default ones. -/
theorem resolved_untold : Resolved homes {} (fun _ => none) {} := loadAt_eq_ok_iff.mp rfl

theorem value_untold (h : Resolved homes flags env settings) {setting : Setting}
    (hflag : flags.get setting = .null) (henv : env setting.variableName = none) :
    settings.value setting = ({} : Settings).value setting := by
  have huntold : Resolved homes {} (fun _ => none) {} := resolved_untold
  have hnull : Flags.get {} setting = .null := by cases setting <;> rfl
  cases hswitch : setting.isSwitch with
  | false =>
    refine value_congr h huntold hswitch ?_
    exact (pick_untold hflag henv).trans (pick_untold hnull rfl).symm
  | true =>
    rw [value_switch h hswitch, value_switch huntold hswitch, hflag, hnull, resolveSwitch,
      resolveSwitch, henv]

end

/-- A setting whose flag is given has one value under any two environments, unless it is a switch,
its flag turns it off and one environment alone turns it on. A setting that neither a flag nor the
environment tells has its default. -/
theorem given_flag_decides_iff {homes : Path.Homes} {flags : Flags} {env₁ env₂ : Environment}
    {settings₁ settings₂ : Settings} (h₁ : loadAt homes flags env₁ = .ok settings₁)
    (h₂ : loadAt homes flags env₂ = .ok settings₂) (setting : Setting) :
    (flags.get setting ≠ .null →
      (settings₁.value setting = settings₂.value setting ↔
        ¬(setting.isSwitch = true ∧ (flags.get setting).isGiven = false ∧
          isOn (env₁ setting.variableName) ≠ isOn (env₂ setting.variableName)))) ∧
    (flags.get setting = .null → env₁ setting.variableName = none →
      settings₁.value setting = ({} : Settings).value setting) := by
  rw [loadAt_eq_ok_iff] at h₁ h₂
  refine ⟨fun hgiven => ?_, value_untold h₁⟩
  cases hswitch : setting.isSwitch with
  | false =>
    have hpick := (pick_given hgiven env₁ setting.variableName).trans
      (pick_given hgiven env₂ setting.variableName).symm
    simp [value_congr h₁ h₂ hswitch hpick]
  | true =>
    rw [value_switch h₁ hswitch, value_switch h₂ hswitch, Datum.bool.injEq]
    -- A flag that turns the switch on leaves nothing to the environment.
    cases hflag : (flags.get setting).isGiven with
    | true => simp [resolveSwitch, hflag]
    | false => simp [resolveSwitch, hflag]

/-- With log lines in JSON turned off by a flag, an environment that turns them on decides. -/
theorem given_flag_decides_iff_json_off :
    let flags : Flags := { json := .bool false }
    let env : Environment := fun name => if name = "LOG_JSON" then some "1" else none
    loadAt {} flags env = .ok { logJson := true } ∧
      loadAt {} flags (fun _ => none) = .ok {} ∧
      ¬(value { logJson := true } .json = value {} .json) := by
  intro flags env
  have hon : loadAt {} flags env = .ok { logJson := true } := by rfl
  have hoff : loadAt {} flags (fun _ => none) = .ok {} := by rfl
  refine ⟨hon, hoff, fun hsame => ?_⟩
  exact ((given_flag_decides_iff hon hoff .json).1 nofun).mp hsame ⟨rfl, rfl, by decide⟩

end Settings

end NodeAgent
