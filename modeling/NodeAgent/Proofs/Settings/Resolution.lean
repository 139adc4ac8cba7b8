import NodeAgent.Proofs.Outcome
import NodeAgent.Settings.Load
/-!
Settings come out exactly if each of them is resolved from its flag and its value of the
environment, each on its own.

Main result: `loadAt_eq_ok_iff`.
-/

namespace NodeAgent.Settings

section

variable (homes : Path.Homes) (flags : Flags) (env : Environment)

/-- Settings whose every value is resolved from flags and environment. -/
structure Resolved (settings : Settings) : Prop where
  path : readPath homes (pick flags.kubeconfig env "KUBECONFIG") = .ok settings.kubeconfigPath
  interval : resolveInterval flags env = .ok settings.retryInterval
  attempts : resolveAttempts flags env = .ok settings.retryAttempts
  port : resolvePort flags env = .ok settings.healthPort
  name : ∃ name, readTextOr ({} : Settings).nodeName (pick flags.nodeName env "CLUSTER_NAME") =
    .ok name ∧ settings.nodeName = Text.trimBlank name
  level : readTextOr ({} : Settings).logLevel (pick flags.logLevel env "LOG_LEVEL") =
    .ok settings.logLevel
  json : settings.logJson = resolveSwitch flags.json env "LOG_JSON"
  develop : settings.developMode = resolveSwitch flags.developMode env "DEV_MODE"

end

variable {homes : Path.Homes} {flags : Flags} {env : Environment}

theorem loadAt_eq_ok_iff {settings : Settings} :
    loadAt homes flags env = .ok settings ↔ Resolved homes flags env settings := by
  unfold loadAt
  constructor
  · intro h
    obtain ⟨path, hpath, h⟩ := bind_eq_ok_iff.mp h
    obtain ⟨interval, hinterval, h⟩ := bind_eq_ok_iff.mp h
    obtain ⟨attempts, hattempts, h⟩ := bind_eq_ok_iff.mp h
    obtain ⟨port, hport, h⟩ := bind_eq_ok_iff.mp h
    obtain ⟨name, hname, h⟩ := bind_eq_ok_iff.mp h
    obtain ⟨level, hlevel, h⟩ := bind_eq_ok_iff.mp h
    obtain rfl := Except.ok.inj h
    exact ⟨hpath, hinterval, hattempts, hport, ⟨name, hname, rfl⟩, hlevel, rfl, rfl⟩
  · rintro ⟨hpath, hinterval, hattempts, hport, ⟨name, hname, hsettings⟩, hlevel, hjson, hdevelop⟩
    refine bind_eq_ok_iff.mpr ⟨_, hpath, ?_⟩
    refine bind_eq_ok_iff.mpr ⟨_, hinterval, ?_⟩
    refine bind_eq_ok_iff.mpr ⟨_, hattempts, ?_⟩
    refine bind_eq_ok_iff.mpr ⟨_, hport, ?_⟩
    refine bind_eq_ok_iff.mpr ⟨_, hname, ?_⟩
    refine bind_eq_ok_iff.mpr ⟨_, hlevel, ?_⟩
    rw [← hsettings, ← hjson, ← hdevelop]
    rfl

end NodeAgent.Settings
