import NodeAgent.Kube.Retrieve
import NodeAgent.Proofs.Outcome
import NodeAgent.Rehearsal.Library
/-!
Which kubeconfigs that are not usable are reported as such, over any library. A file that the system
does not open is; a file whose content is not usable is, as long as it is a text and each call of
the library fails with what the handler of its step takes.

Main results:
* `fromPath_escapes_iff`: exactly what escapes, and with which failure.
* `fromPath_reports_iff`: a file is reported as unread exactly if the system does not open it, and
  with an orderly library it is bytes that are no text which escape, and nothing else.
-/

namespace NodeAgent

namespace Kube

/-! ## Texts -/

theorem fromUTF8_eq_some_iff {bytes : ByteArray} {s : String} :
    String.fromUTF8? bytes = some s ↔ s.toUTF8 = bytes := by
  unfold String.fromUTF8?
  split
  · rename_i h
    constructor
    · intro he
      rw [← Option.some.inj he]
      rfl
    · intro he
      subst he
      rfl
  · rename_i h
    constructor
    · intro he
      simp at he
    · intro he
      subst he
      exact absurd s.isValidUTF8 h

theorem decodeText_eq_none_iff {bytes : ByteArray} :
    decodeText bytes = none ↔ ∀ s : String, s.toUTF8 ≠ bytes := by
  unfold decodeText
  rw [Option.map_eq_none_iff]
  constructor
  · intro h s hs
    rw [fromUTF8_eq_some_iff.mpr hs] at h
    simp at h
  · intro h
    cases hd : String.fromUTF8? bytes with
    | none => rfl
    | some s => exact absurd (fromUTF8_eq_some_iff.mp hd) (h s)

/-- The text of a file with line feeds for line ends. -/
def normalText (s : String) : String := String.ofList (normalBreaks s.toList)

theorem decodeText_eq_some_iff {bytes : ByteArray} {content : String} :
    decodeText bytes = some content ↔ ∃ s : String, s.toUTF8 = bytes ∧ normalText s = content := by
  unfold decodeText
  simp only [Option.map_eq_some_iff, fromUTF8_eq_some_iff]
  rfl

theorem readContent_eq_ok_iff {files : FileTree} {path content : String}
    (hpath : isSystemPath path = true) :
    readContent files path = .ok content ↔
      ∃ s : String, files.read path = .ok s.toUTF8 ∧ normalText s = content := by
  unfold readContent
  rw [if_pos hpath]
  cases hread : files.read path with
  | error fault => simp
  | ok bytes =>
    simp only [Except.ok.injEq]
    cases hdecode : decodeText bytes with
    | none =>
      have hnone : ∀ s : String, s.toUTF8 ≠ bytes := decodeText_eq_none_iff.mp hdecode
      simp only [reduceCtorEq, false_iff, not_exists, not_and]
      intro s hs
      exact absurd hs.symm (hnone s)
    | some found =>
      obtain ⟨s, rfl, rfl⟩ := decodeText_eq_some_iff.mp hdecode
      simp only [Except.ok.injEq]
      constructor
      · intro h
        exact ⟨s, rfl, h⟩
      · intro h
        obtain ⟨t, ht, rfl⟩ := h
        have hsame : decodeText t.toUTF8 = some (normalText t) :=
          decodeText_eq_some_iff.mpr ⟨t, rfl, rfl⟩
        rw [← ht, hdecode] at hsame
        exact Option.some.inj hsame

/-- What keeps a file from being read as a text. -/
theorem readContent_eq_error_iff {files : FileTree} {path : String} {failed : Failed}
    (hpath : isSystemPath path = true) :
    readContent files path = .error failed ↔
      (∃ fault, files.read path = .error fault ∧ failed = .denied (.unreadable path fault)) ∨
        ∃ bytes, files.read path = .ok bytes ∧ (∀ s : String, s.toUTF8 ≠ bytes) ∧
          failed = .notText := by
  unfold readContent
  rw [if_pos hpath]
  cases hread : files.read path with
  | error fault => simp [eq_comm]
  | ok bytes =>
    simp only [reduceCtorEq, false_and, exists_false, false_or, Except.ok.injEq, exists_eq_left']
    cases hdecode : decodeText bytes with
    | none => simpa [eq_comm] using fun _ => decodeText_eq_none_iff.mp hdecode
    | some found =>
      obtain ⟨s, hs, -⟩ := decodeText_eq_some_iff.mp hdecode
      simp only [reduceCtorEq, false_iff, not_and]
      intro hnone
      exact absurd hs (hnone s)

end Kube

/-! ## Failures of other libraries -/

theorem Failure.kind_mem_kinds (failure : Failure) : failure.kind ∈ failure.kinds := by
  cases failure <;> exact List.mem_cons_self

/-- No failure of another library, and none in its history, has one of the agent's kinds. -/
theorem ForeignFailure.isOwn_of_mem {failed : ForeignFailure} {kind : FailureKind}
    (h : kind ∈ failed.failure.kinds) : kind.isOwn = false := by
  simpa using List.all_eq_true.mp failed.foreign kind h

theorem ForeignFailure.kind_not_own (failed : ForeignFailure) : failed.kind.isOwn = false :=
  isOwn_of_mem failed.failure.kind_mem_kinds

namespace Kube

/-! ## Handlers -/

section

variable {α : Type} {classes : List FailureClass} {blame : ForeignFailure → Fault}
  {step : Except ForeignFailure α}

theorem handled_eq_ok_iff {a : α} : handled classes blame step = .ok a ↔ step = .ok a :=
  mapError_eq_ok_iff

theorem handled_eq_error_iff {failed : Failed} :
    handled classes blame step = .error failed ↔
      ∃ failure, step = .error failure ∧
        ((failure.kind.isOf classes = true ∧ failed = .denied (blame failure)) ∨
          (failure.kind.isOf classes = false ∧ failed = .raised failure)) := by
  refine mapError_eq_error_iff.trans (exists_congr fun failure => and_congr_right fun _ => ?_)
  refine eq_comm.trans ?_
  cases failure.kind.isOf classes <;> simp

end

/-! ## Outcomes -/

/-- Whether a failure is one of a kubeconfig that cannot be read or is not usable. -/
def Failed.isReported (failed : Failed) : Prop :=
  failed.kind = .kubeConfigRead ∨ failed.kind = .kubeConfigParse

instance (failed : Failed) : Decidable failed.isReported :=
  inferInstanceAs (Decidable (_ ∨ _))

theorem Failed.raised_not_reported (failure : ForeignFailure) :
    ¬ (Failed.raised failure).isReported := by
  intro h
  have hown : failure.kind.isOwn = false := failure.kind_not_own
  rcases h with h | h
  · rw [show failure.kind = .kubeConfigRead from h] at hown
    exact absurd hown (by decide)
  · rw [show failure.kind = .kubeConfigParse from h] at hown
    exact absurd hown (by decide)

section

variable {Access : Type} (library : Library Access) (around : Surroundings) (path : String)

/-- How the way to a file that is read ends in a failure that is not one of the file: its bytes are
no text, a new configuration cannot be made, or the library fails with what the handler of its step
does not take. -/
inductive Escapes : Failed → Prop
  | notText {bytes : ByteArray} (opened : around.files.read path = .ok bytes)
    (not_text : ∀ s : String, s.toUTF8 ≠ bytes) : Escapes .notText
  | read {s : String} {failure : ForeignFailure} (opened : around.files.read path = .ok s.toUTF8)
    (fails : library.read (normalText s) = .error failure)
    (untaken : failure.kind.isOf [.markup] = false) : Escapes (.raised failure)
  | fresh {s : String} {document : library.Document} {failure : ForeignFailure}
    (opened : around.files.read path = .ok s.toUTF8)
    (holds : library.read (normalText s) = .ok document)
    (mapping : library.isMapping document = true)
    (fails : library.fresh around = .error failure) : Escapes (.raised failure)
  | load {s : String} {document : library.Document} {access : Access} {failure : ForeignFailure}
    (opened : around.files.read path = .ok s.toUTF8)
    (holds : library.read (normalText s) = .ok document)
    (mapping : library.isMapping document = true)
    (made : library.fresh around = .ok access)
    (fails : library.load around document access = .error failure)
    (untaken : failure.kind.isOf [.credentials, .value, .type] = false) :
    Escapes (.raised failure)

variable {library around path}

theorem Escapes.not_reported {failed : Failed} (h : Escapes library around path failed) :
    ¬ failed.isReported := by
  cases h with
  | notText => decide
  | read => exact Failed.raised_not_reported _
  | fresh => exact Failed.raised_not_reported _
  | load => exact Failed.raised_not_reported _

variable (hne : path ≠ "") (hpath : isSystemPath path = true)
include hne

theorem fromPath_eq_steps :
    fromPath library around path = (do
      let content ← readContent around.files path
      let document ←
        handled [.markup] (fun failure => .unusable path (.raised failure)) (library.read content)
      if library.isMapping document then
        let access ← (library.fresh around).mapError .raised
        handled [.credentials, .value, .type] (fun failure => .unusable path (.raised failure))
          (library.load around document access)
      else .error (.denied (.unusable path .notMapping))) := by
  unfold fromPath
  rw [if_neg (by simpa using hne)]

include hpath

/-- The failures of the way to a file, step by step. -/
theorem fromPath_error_cases {failed : Failed} (h : fromPath library around path = .error failed) :
    (∃ fault, around.files.read path = .error fault ∧
        failed = .denied (.unreadable path fault)) ∨
      (∃ bytes reason, around.files.read path = .ok bytes ∧
        failed = .denied (.unusable path reason)) ∨
      Escapes library around path failed := by
  rw [fromPath_eq_steps hne] at h
  rcases bind_eq_error_iff.mp h with hcontent | ⟨content, hcontent, h⟩
  · rcases (readContent_eq_error_iff hpath).mp hcontent with unread | ⟨bytes, opened, hnone, rfl⟩
    · exact .inl unread
    · exact .inr (.inr (.notText opened hnone))
  obtain ⟨s, opened, rfl⟩ := (readContent_eq_ok_iff hpath).mp hcontent
  rcases bind_eq_error_iff.mp h with hread | ⟨document, hread, h⟩
  · obtain ⟨failure, fails, ⟨-, rfl⟩ | ⟨untaken, rfl⟩⟩ := handled_eq_error_iff.mp hread
    · exact .inr (.inl ⟨_, _, opened, rfl⟩)
    · exact .inr (.inr (.read opened fails untaken))
  have holds : library.read (normalText s) = .ok document := handled_eq_ok_iff.mp hread
  split at h
  · rename_i mapping
    rcases bind_eq_error_iff.mp h with hfresh | ⟨access, hfresh, h⟩
    · obtain ⟨failure, fails, rfl⟩ := mapError_eq_error_iff.mp hfresh
      exact .inr (.inr (.fresh opened holds mapping fails))
    have made : library.fresh around = .ok access := mapError_eq_ok_iff.mp hfresh
    obtain ⟨failure, fails, ⟨-, rfl⟩ | ⟨untaken, rfl⟩⟩ := handled_eq_error_iff.mp h
    · exact .inr (.inl ⟨_, _, opened, rfl⟩)
    · exact .inr (.inr (.load opened holds mapping made fails untaken))
  · exact .inr (.inl ⟨_, _, opened, (Except.error.inj h).symm⟩)

theorem fromPath_of_unread {fault : SystemFault} (h : around.files.read path = .error fault) :
    fromPath library around path = .error (.denied (.unreadable path fault)) := by
  rw [fromPath_eq_steps hne]
  exact bind_eq_error_iff.mpr (.inl ((readContent_eq_error_iff hpath).mpr (.inl ⟨fault, h, rfl⟩)))

theorem Escapes.ends {failed : Failed} (h : Escapes library around path failed) :
    fromPath library around path = .error failed := by
  have content {s : String} (opened : around.files.read path = .ok s.toUTF8) :
      readContent around.files path = .ok (normalText s) :=
    (readContent_eq_ok_iff hpath).mpr ⟨s, opened, rfl⟩
  rw [fromPath_eq_steps hne]
  cases h with
  | notText opened not_text =>
    exact bind_eq_error_iff.mpr
      (.inl ((readContent_eq_error_iff hpath).mpr (.inr ⟨_, opened, not_text, rfl⟩)))
  | read opened fails untaken =>
    refine bind_eq_error_iff.mpr (.inr ⟨_, content opened, ?_⟩)
    exact bind_eq_error_iff.mpr
      (.inl (handled_eq_error_iff.mpr ⟨_, fails, .inr ⟨untaken, rfl⟩⟩))
  | fresh opened holds mapping fails =>
    refine bind_eq_error_iff.mpr (.inr ⟨_, content opened, ?_⟩)
    refine bind_eq_error_iff.mpr (.inr ⟨_, handled_eq_ok_iff.mpr holds, ?_⟩)
    rw [if_pos mapping]
    exact bind_eq_error_iff.mpr (.inl (mapError_eq_error_iff.mpr ⟨_, fails, rfl⟩))
  | load opened holds mapping made fails untaken =>
    refine bind_eq_error_iff.mpr (.inr ⟨_, content opened, ?_⟩)
    refine bind_eq_error_iff.mpr (.inr ⟨_, handled_eq_ok_iff.mpr holds, ?_⟩)
    rw [if_pos mapping]
    refine bind_eq_error_iff.mpr (.inr ⟨_, mapError_eq_ok_iff.mpr made, ?_⟩)
    exact handled_eq_error_iff.mpr ⟨_, fails, .inr ⟨untaken, rfl⟩⟩

/-- An outcome is a failure of reading exactly where the system does not open the file. -/
theorem fromPath_unread_iff :
    (∃ failed, fromPath library around path = .error failed ∧ failed.kind = .kubeConfigRead) ↔
      ∃ fault, around.files.read path = .error fault := by
  constructor
  · intro h
    obtain ⟨failed, h, hkind⟩ := h
    rcases fromPath_error_cases hne hpath h with ⟨fault, unread, -⟩ | ⟨bytes, reason, -, rfl⟩ |
      escapes
    · exact ⟨fault, unread⟩
    · exact absurd hkind nofun
    · exact absurd (.inl hkind) escapes.not_reported
  · intro h
    obtain ⟨fault, unread⟩ := h
    exact ⟨_, fromPath_of_unread hne hpath unread, rfl⟩

/-- The failures that are not reported are those that escape. -/
theorem fromPath_escapes_iff (failed : Failed) :
    (fromPath library around path = .error failed ∧ ¬ failed.isReported) ↔
      Escapes library around path failed := by
  constructor
  · intro h
    obtain ⟨h, hreported⟩ := h
    rcases fromPath_error_cases hne hpath h with ⟨fault, -, rfl⟩ | ⟨bytes, reason, -, rfl⟩ |
      escapes
    · exact absurd (.inl rfl) hreported
    · exact absurd (.inr rfl) hreported
    · exact escapes
  · intro escapes
    exact ⟨escapes.ends hne hpath, escapes.not_reported⟩

end

/-- A library whose calls fail with nothing but what the handlers of their steps take. -/
structure Library.Orderly {Access : Type} (library : Library Access) : Prop where
  read : ∀ content failure, library.read content = .error failure →
    failure.kind.isOf [.markup] = true
  fresh : ∀ around failure, library.fresh around ≠ .error failure
  load : ∀ around document access failure, library.load around document access = .error failure →
    failure.kind.isOf [.credentials, .value, .type] = true

theorem Library.Orderly.escapes_iff {Access : Type} {library : Library Access}
    (orderly : library.Orderly) {around : Surroundings} {path : String} {failed : Failed} :
    Escapes library around path failed ↔
      failed = .notText ∧
        ∃ bytes, around.files.read path = .ok bytes ∧ ∀ s : String, s.toUTF8 ≠ bytes := by
  constructor
  · intro h
    cases h with
    | notText opened not_text => exact ⟨rfl, _, opened, not_text⟩
    | read _ fails untaken =>
      rw [orderly.read _ _ fails] at untaken
      exact absurd untaken (by decide)
    | fresh _ _ _ fails => exact absurd fails (orderly.fresh _ _)
    | load _ _ _ _ fails untaken =>
      rw [orderly.load _ _ _ _ fails] at untaken
      exact absurd untaken (by decide)
  · intro h
    obtain ⟨rfl, bytes, opened, not_text⟩ := h
    exact .notText opened not_text

/-- A kubeconfig that is not usable is reported as unread exactly where the system does not open
it. It is reported at all unless it is one of those that escape, of which the failure goes on as it
is; with an orderly library these are the files whose bytes are no text. -/
theorem fromPath_reports_iff {Access : Type} {library : Library Access} {around : Surroundings}
    {path : String} (hne : path ≠ "") (hpath : isSystemPath path = true) :
    ((∃ failed, fromPath library around path = .error failed ∧ failed.kind = .kubeConfigRead) ↔
        ∃ fault, around.files.read path = .error fault) ∧
      ((∀ failed, fromPath library around path = .error failed → failed.isReported) ↔
        ∀ failed, ¬ Escapes library around path failed) ∧
      (∀ failed, (fromPath library around path = .error failed ∧ ¬ failed.isReported) ↔
        Escapes library around path failed) ∧
      (library.Orderly →
        ((∀ failed, fromPath library around path = .error failed → failed.isReported) ↔
          ∀ bytes, around.files.read path = .ok bytes → ∃ s : String, s.toUTF8 = bytes)) := by
  have escapes : ∀ failed, (fromPath library around path = .error failed ∧
      ¬ failed.isReported) ↔ Escapes library around path failed :=
    fromPath_escapes_iff hne hpath
  have reports : (∀ failed, fromPath library around path = .error failed → failed.isReported) ↔
      ∀ failed, ¬ Escapes library around path failed := by
    constructor
    · intro hall failed hescapes
      obtain ⟨h, hreported⟩ := (escapes failed).mpr hescapes
      exact hreported (hall failed h)
    · intro hnone failed h
      apply Classical.byContradiction
      intro hreported
      exact hnone failed ((escapes failed).mp ⟨h, hreported⟩)
  refine ⟨fromPath_unread_iff hne hpath, reports, escapes, ?_⟩
  intro orderly
  simp only [reports, orderly.escapes_iff]
  constructor
  · intro hnone bytes opened
    apply Classical.byContradiction
    intro not_text
    exact hnone .notText ⟨rfl, bytes, opened, not_exists.mp not_text⟩
  · intro hall failed hescapes
    obtain ⟨-, bytes, opened, not_text⟩ := hescapes
    obtain ⟨s, hs⟩ := hall bytes opened
    exact not_text s hs

/-- A kubeconfig whose cluster has its authority in the file `t`. -/
def authorityText : String :=
  "current-context: c\ncontexts: [\x7bname: c, context: \x7bcluster: k\x7d\x7d]\n" ++
    "clusters: [\x7bname: k, cluster: \x7bserver: 'https://h:1', certificate-authority: t\x7d\x7d]"

/-- A library as it acts on that kubeconfig and on the mount of a pod. -/
def authorityLibrary : Library Rehearsal.Access where
  Document := Unit
  isMapping _ := true
  read content :=
    if content = authorityText then .ok () else .error (.alone .markup "" (by rfl))
  fresh _ := .ok {}
  load around _ access :=
    match around.files.read "t" with
    | .ok bytes => .ok { access with host := "https://h:1", authority := some bytes }
    | .error _ => .error (.alone .credentials "File does not exist: t" (by rfl))
  loadMounted around access :=
    match around.environment "KUBERNETES_SERVICE_HOST",
        around.files.read ({} : Rehearsal.Mount).token with
    | some host, .ok _ => .ok { access with host := "https://" ++ host }
    | _, _ => .error (.alone .credentials "Service host/port is not set." (by rfl))

theorem authorityLibrary_orderly : authorityLibrary.Orderly where
  read := by
    intro content failure h
    by_cases hc : content = authorityText
    · exact absurd h (by simp [authorityLibrary, hc])
    · simp only [authorityLibrary, if_neg hc, Except.error.injEq] at h
      exact h ▸ by decide
  fresh := fun _ _ => nofun
  load := by
    intro around document access failure h
    cases hread : around.files.read "t" with
    | ok bytes => exact absurd h (by simp [authorityLibrary, hread])
    | error fault =>
      simp only [authorityLibrary, hread, Except.error.injEq] at h
      exact h ▸ by decide

/-- A tree with a kubeconfig of one byte that is no text. -/
def brokenTree : FileTree := { entries := [("kc", .file ⟨#[0x80]⟩)] }

/-- A kubeconfig whose bytes are no text escapes every handler, also with an orderly library. -/
theorem fromPath_escapes_not_text :
    "kc" ≠ "" ∧ isSystemPath "kc" = true ∧ authorityLibrary.Orderly ∧
      Escapes (Rehearsal.library {}) ⟨brokenTree, fun _ => none⟩ "kc" .notText ∧
      ∃ failed, fromPath authorityLibrary ⟨brokenTree, fun _ => none⟩ "kc" = .error failed ∧
        ¬ failed.isReported := by
  have hne : "kc" ≠ "" := by decide
  have hpath : isSystemPath "kc" = true := by decide
  have rehearsed := @fromPath_reports_iff _ (Rehearsal.library {}) ⟨brokenTree, fun _ => none⟩ "kc"
    hne hpath
  have orderly := @fromPath_reports_iff _ authorityLibrary ⟨brokenTree, fun _ => none⟩ "kc"
    hne hpath
  have not_text : ∀ s : String, s.toUTF8 ≠ ⟨#[0x80]⟩ := by
    intro s hs
    have refused : String.fromUTF8? ⟨#[0x80]⟩ = none := by decide
    exact absurd (refused.symm.trans (fromUTF8_eq_some_iff.mpr hs)) nofun
  refine ⟨hne, hpath, authorityLibrary_orderly,
    (rehearsed.2.2.1 .notText).mp ⟨by rfl, by decide⟩, ?_⟩
  apply Classical.byContradiction
  intro hnone
  have reported := fun failed hfailed => Classical.byContradiction
    fun hreported => hnone ⟨failed, hfailed, hreported⟩
  obtain ⟨s, hs⟩ := (orderly.2.2.2 authorityLibrary_orderly).mp reported ⟨#[0x80]⟩ (by rfl)
  exact not_text s hs

end Kube

end NodeAgent
